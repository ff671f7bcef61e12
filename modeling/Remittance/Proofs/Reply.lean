import Remittance.Proofs.Desk.Report
import Remittance.Proofs.Request
import Remittance.Reply
/-!
# How a reply reconciles with its request

Every request line is answered with errors, or with the report of a transfer that can be laid beside
the request: it lists the accounts of the request, one by one, and tells of a new balance only for
the two accounts of the transfer, and for none if the transfer has failed
(`Desk.reply_reconciles`).
-/

namespace Remittance

/-- The ways in which an executed transfer is marked, by its status and its code. -/
def Summary.marks : List (String × String) :=
  [("successful", "AP00"), ("pending", "AP02"), ("failed", "SF01"), ("failed", "SF02")]

/-- The entry that a reported account had in its request. -/
def Snapshot.entryBefore (s : Snapshot) : AccountEntry := ⟨s.id.text, s.balanceBefore, s.currency.code⟩

/-- The report and the request tell of the same accounts, and the report of no change but that of the
transfer. -/
structure Summary.Reconciles (summary : Summary) (request : Request) : Prop where
  /-- The accounts are those of the request, in their order, as they were supplied. -/
  entries : summary.accounts.map Snapshot.entryBefore = request.accounts
  debit_once : (summary.accounts.map Snapshot.id).count summary.debitAccount = 1
  credit_once : (summary.accounts.map Snapshot.id).count summary.creditAccount = 1
  /-- The accounts of the transfer have its currency. -/
  currency : ∀ s ∈ summary.accounts,
    s.id = summary.debitAccount ∨ s.id = summary.creditAccount → s.currency = summary.currency
  /-- Every other account keeps its balance. -/
  others : ∀ s ∈ summary.accounts,
    s.id ≠ summary.debitAccount → s.id ≠ summary.creditAccount → s.balance = s.balanceBefore
  /-- A transfer that has failed leaves every account its balance. -/
  failed : summary.status = .failed → ∀ s ∈ summary.accounts, s.balance = s.balanceBefore

/-! ## Executed transfers -/

/-- The ids of the reports are those of the accounts. -/
lemma Execution.map_id_report (execution : Execution) (accounts : List Account) :
    (accounts.map execution.report).map Snapshot.id = accounts.map Account.id := by
  rw [List.map_map]
  exact List.map_congr_left fun a _ => execution.id_report a

/-- Every way in which a transfer ends has its mark. -/
lemma ApprovedTransfer.Ending.mark_mem {t : ApprovedTransfer} {policy : PendingPolicy}
    {today : Date} {gateway : Gateway} {settlement : Settlement}
    (h : t.Ending policy today gateway settlement) :
    (settlement.execution.status.text, settlement.execution.code.text) ∈ Summary.marks := by
  have hsettled : ("successful", "AP00") ∈ Summary.marks := by decide
  have hscheduled : ("pending", "AP02") ∈ Summary.marks := by decide
  have hfailed : ∀ fault : SettlementFault, ("failed", fault.code.text) ∈ Summary.marks := by
    intro fault
    cases fault <;> simp [Summary.marks, SettlementFault.code, StatusCode.text]
  cases h with
  | settled => exact hsettled
  | refused | undebited | uncredited => exact hfailed _
  | reserved | held => exact hscheduled

namespace Desk.CarriesOut

variable {desk : Desk} {accounts : List Account} {instruction : List Char} {t : ApprovedTransfer}
  {settlement : Settlement}

/-- A report on an account keeps its id, its currency and its balance before the transfer. -/
lemma before_report (h : desk.CarriesOut accounts instruction t settlement) {a : Account}
    (ha : a ∈ accounts) : (settlement.execution.report a).before = a :=
  Execution.before_report h.acceptable h.concerns ha

/-- An account is reported with another balance only if it is one of the two accounts of a transfer
that has not failed. -/
lemma balance_report (h : desk.CarriesOut accounts instruction t settlement) {a : Account}
    (ha : a ∈ accounts)
    (hkept : settlement.execution.status = .failed ∨
      a.id ≠ t.order.debitAccount ∧ a.id ≠ t.order.creditAccount) :
    (settlement.execution.report a).balance = a.balance := by
  have hdebit := h.acceptable.debit_only.id_eq
  have hcredit := h.acceptable.credit_only.id_eq
  rcases Execution.report_cases h.acceptable h.concerns ha with
    ⟨rfl, hreport⟩ | ⟨rfl, hreport⟩ | ⟨-, -, hreport⟩
  · rcases hkept with hfailed | ⟨hnotDebit, -⟩
    · rw [hreport, (h.ending.unchanged (.inl hfailed)).1]
      rfl
    · exact absurd hdebit hnotDebit
  · rcases hkept with hfailed | ⟨-, hnotCredit⟩
    · rw [hreport, (h.ending.unchanged (.inl hfailed)).2]
      rfl
    · exact absurd hcredit hnotCredit
  · rw [hreport]
    rfl

/-- The two accounts of a transfer have its currency. -/
lemma currency_eq_of_party (h : desk.CarriesOut accounts instruction t settlement) {a : Account}
    (ha : a ∈ accounts) (hparty : a.id = t.order.debitAccount ∨ a.id = t.order.creditAccount) :
    a.currency = t.currency := by
  rw [h.currency_eq]
  rcases hparty with hdebit | hcredit
  · rw [h.acceptable.debit_only.unique ha hdebit]
  · rw [h.acceptable.credit_only.unique ha hcredit, h.acceptable.same_currency]

/-- The report of a transfer reconciles with the request that brought the accounts. -/
lemma reconciles (h : desk.CarriesOut accounts instruction t settlement) {request : Request}
    (hentries : accounts.map Account.entry = request.accounts) :
    (Summary.ofExecution t.order t.currency settlement.execution accounts).Reconciles request := by
  have hreports : ∀ P : Snapshot → Prop, (∀ a ∈ accounts, P (settlement.execution.report a)) →
      ∀ s ∈ accounts.map settlement.execution.report, P s := by
    intro P hP s hs
    obtain ⟨a, ha, rfl⟩ := List.mem_map.mp hs
    exact hP a ha
  refine ⟨?_, ?_, ?_, hreports _ ?_, hreports _ ?_, fun hfailed => hreports _ ?_⟩
  · show (accounts.map settlement.execution.report).map Snapshot.entryBefore = request.accounts
    rw [← hentries, List.map_map]
    apply List.map_congr_left
    intro a ha
    exact congrArg Account.entry (h.before_report ha)
  · show ((accounts.map settlement.execution.report).map Snapshot.id).count t.order.debitAccount = 1
    rw [Execution.map_id_report]
    exact h.acceptable.debit_only.once
  · show ((accounts.map settlement.execution.report).map Snapshot.id).count t.order.creditAccount = 1
    rw [Execution.map_id_report]
    exact h.acceptable.credit_only.once
  · intro a ha hparty
    rw [Execution.id_report] at hparty
    rw [← h.currency_eq_of_party ha hparty]
    exact congrArg Account.currency (h.before_report ha)
  · intro a ha hnotDebit hnotCredit
    rw [Execution.id_report] at hnotDebit hnotCredit
    rw [h.balance_report ha (.inr ⟨hnotDebit, hnotCredit⟩)]
    exact (congrArg Account.balance (h.before_report ha)).symm
  · intro a ha
    rw [h.balance_report ha (.inl hfailed)]
    exact (congrArg Account.balance (h.before_report ha)).symm

end Desk.CarriesOut

/-! ## Replies -/

/-- The envelope carries errors, at least one. -/
def Envelope.IsRefusal (envelope : Envelope) : Prop :=
  envelope.httpStatus = 400 ∧ envelope.status.text = "error" ∧
    ∃ errors, envelope.data = .errorList errors ∧ errors ≠ []

/-- The envelope carries the report of a transfer that reconciles with the request. -/
def Envelope.IsReportOn (envelope : Envelope) (request : Request) : Prop :=
  envelope.httpStatus = 200 ∧
    ∃ summary, envelope.data = .report summary ∧ envelope.status.text = summary.status.text ∧
      (summary.status.text, summary.code.text) ∈ Summary.marks ∧ summary.Reconciles request

namespace Desk

variable {desk : Desk}

lemma isRefusal_rejection {errors : List FieldError} (h : errors ≠ []) :
    (Envelope.rejection errors).IsRefusal :=
  ⟨rfl, rfl, errors, rfl, h⟩

/-- The answer to a request that passes the checks. -/
lemma answer_reconciles (desk : Desk) {request : Request} {checked : CheckedRequest}
    (h : request.check = .ok checked) :
    (desk.answer checked).IsRefusal ∨ (desk.answer checked).IsReportOn request := by
  obtain ⟨hentries, -⟩ := Request.check_eq_ok_iff.mp h
  unfold answer
  rcases desk.process_cases checked.accounts checked.instruction with
    ⟨rejection, hreject⟩ | ⟨t, settlement, hcarried, hprocess⟩
  · have hresult := congrArg Outcome.result hreject
    have hne := fieldErrors_ne_nil (process_eq_error_iff.mp hresult)
    rw [hreject]
    exact .inl (isRefusal_rejection hne)
  · rw [hprocess]
    exact .inr ⟨rfl, _, rfl, rfl, hcarried.ending.mark_mem, hcarried.reconciles hentries⟩

/-- Every request line is answered in one of two ways. Either the answer has the number 400 and the
status of an error, and it carries at least one error. Or it has the number 200, its status is that
of the transfer it reports, which has one of the four marks, and the report reconciles with the
request that the line is read as. -/
theorem reply_reconciles (desk : Desk) (line : List Char) :
    (desk.reply line).IsRefusal ∨
      ∃ request, Request.read line = .ok request ∧ (desk.reply line).IsReportOn request := by
  unfold reply
  cases hchecked : Request.readChecked line with
  | error errors => exact .inl (isRefusal_rejection (Request.ne_nil_of_readChecked_eq_error hchecked))
  | ok checked =>
    obtain ⟨request, hread, hcheck⟩ := bind_eq_ok_iff.mp hchecked
    rcases desk.answer_reconciles hcheck with hrefusal | hreport
    · exact .inl hrefusal
    · exact .inr ⟨request, hread, hreport⟩

end Desk

end Remittance
