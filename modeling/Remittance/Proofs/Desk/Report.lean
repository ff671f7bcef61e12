import Mathlib.Algebra.BigOperators.Group.List.Basic
import Mathlib.Data.List.Find
import Remittance.Proofs.Desk.Approval
import Remittance.Proofs.Settlement
/-!
# What a desk reports on the accounts

A processed instruction reports every supplied account once, in its place. The two accounts of the
transfer are reported as the transfer left them and every other one as it was, so that a transfer
changes a sum over all accounts by what it changes at these two (`Execution.sum_report`).

Of all the ways in which an instruction can be processed, `Desk.process_cases` leaves two: it is
rejected, or a transfer is carried out (`Desk.CarriesOut`) and reported.
-/

namespace Remittance

section
variable {supported : List Currency} {accounts : List Account} {order : TransferOrder}
  {parties : Parties} {execution : Execution} {a : Account}

/-- A sum in which only the account with an id counts is the share of that account. -/
lemma IsOnlyAccount.sum_ite {id : AccountId} (h : IsOnlyAccount accounts id a) (x : ℚ) :
    (accounts.map fun b => if b.id = id then x else 0).sum = x := by
  have honly : accounts.filter (fun b => b.id = id) = [a] := accountsWithId_eq_singleton_iff.mpr h
  rw [List.sum_map_ite, honly]
  simp

/-- The execution reports on these parties. -/
structure Execution.Concerns (execution : Execution) (parties : Parties) : Prop where
  debit : execution.debit.before = parties.debit
  credit : execution.credit.before = parties.credit

namespace Execution

/-! ## The report on one account -/

lemma Concerns.debit_id (h : execution.Concerns parties) :
    execution.debit.id = parties.debit.id := by
  rw [← h.debit]
  rfl

lemma Concerns.credit_id (h : execution.Concerns parties) :
    execution.credit.id = parties.credit.id := by
  rw [← h.credit]
  rfl

/-- An account is the debit account, the credit account, or reported as it was. -/
lemma report_cases (hacceptable : order.Acceptable supported accounts parties)
    (hconcerns : execution.Concerns parties) (ha : a ∈ accounts) :
    (a = parties.debit ∧ execution.report a = execution.debit) ∨
      (a = parties.credit ∧ execution.report a = execution.credit) ∨
      (a.id ≠ parties.debit.id ∧ a.id ≠ parties.credit.id ∧
        execution.report a = a.unchanged) := by
  unfold report
  rw [hconcerns.debit_id, hconcerns.credit_id]
  -- reports are chosen by id, and each of the two ids belongs to one supplied account only
  split_ifs with hdebit hcredit
  · have hid := hdebit.trans hacceptable.debit_only.id_eq
    exact .inl ⟨hacceptable.debit_only.unique ha hid, rfl⟩
  · have hid := hcredit.trans hacceptable.credit_only.id_eq
    exact .inr (.inl ⟨hacceptable.credit_only.unique ha hid, rfl⟩)
  · exact .inr (.inr ⟨hdebit, hcredit, rfl⟩)

/-- A report on an account has its id. -/
lemma id_report (execution : Execution) (a : Account) : (execution.report a).id = a.id := by
  unfold report
  split_ifs with hdebit hcredit
  · exact hdebit.symm
  · exact hcredit.symm
  · rfl

/-- The report on an account tells the account as it was. -/
lemma before_report (hacceptable : order.Acceptable supported accounts parties)
    (hconcerns : execution.Concerns parties) (ha : a ∈ accounts) :
    (execution.report a).before = a := by
  rcases report_cases hacceptable hconcerns ha with ⟨rfl, hreport⟩ | ⟨rfl, hreport⟩ | ⟨-, -, hreport⟩
  · rw [hreport, hconcerns.debit]
  · rw [hreport, hconcerns.credit]
  · rw [hreport]
    rfl

lemma report_debit (hconcerns : execution.Concerns parties) :
    execution.report parties.debit = execution.debit := by
  unfold report
  rw [hconcerns.debit_id, if_pos rfl]

lemma report_credit (hacceptable : order.Acceptable supported accounts parties)
    (hconcerns : execution.Concerns parties) :
    execution.report parties.credit = execution.credit := by
  have hne : parties.credit.id ≠ parties.debit.id := by
    rw [hacceptable.debit_only.id_eq, hacceptable.credit_only.id_eq]
    exact hacceptable.two_accounts.symm
  unfold report
  rw [hconcerns.debit_id, hconcerns.credit_id, if_neg hne, if_pos rfl]

/-! ## Among all reports -/

/-- Looking an id up among the reports finds the report on the only account with the id. -/
lemma account?_ofExecution (order : TransferOrder) (currency : Currency) {id : AccountId}
    (honly : IsOnlyAccount accounts id a) :
    (Summary.ofExecution order currency execution accounts).account? id.text =
      some (execution.report a) := by
  have hmatch : ∀ b ∈ accounts,
      ((execution.report b).id.text == id.text) = (b.id == id) := by
    intro b _
    rw [id_report, Bool.eq_iff_iff, beq_iff_eq, beq_iff_eq, AccountId.text_inj]
  have hfind : accounts.find? (fun b => (execution.report b).id.text == id.text) = some a := by
    rw [List.find?_congr hmatch, ← List.head?_filter]
    show (accountsWithId accounts id).head? = some a
    rw [accountsWithId_eq_singleton_iff.mpr honly, List.head?_cons]
  show (accounts.map execution.report).find? (fun s => s.id.text == id.text) = _
  rw [List.find?_map]
  exact congrArg (Option.map execution.report) hfind

lemma account?_debit (hacceptable : order.Acceptable supported accounts parties)
    (hconcerns : execution.Concerns parties) (currency : Currency) :
    (Summary.ofExecution order currency execution accounts).account? order.debitAccount.text =
      some execution.debit := by
  rw [account?_ofExecution order currency hacceptable.debit_only,
    report_debit hconcerns]

lemma account?_credit (hacceptable : order.Acceptable supported accounts parties)
    (hconcerns : execution.Concerns parties) (currency : Currency) :
    (Summary.ofExecution order currency execution accounts).account? order.creditAccount.text =
      some execution.credit := by
  rw [account?_ofExecution order currency hacceptable.credit_only,
    report_credit hacceptable hconcerns]

/-- A transfer changes a sum over all accounts by what it changes at its own two. -/
theorem sum_report (hacceptable : order.Acceptable supported accounts parties)
    (hconcerns : execution.Concerns parties) (f : Account → ℚ) :
    (accounts.map fun b => f (execution.report b).account).sum = (accounts.map f).sum +
      ((f execution.debit.account - f parties.debit) +
        (f execution.credit.account - f parties.credit)) := by
  have hsplit : ∀ b ∈ accounts, f (execution.report b).account = f b +
      ((if b.id = order.debitAccount then f execution.debit.account - f parties.debit else 0) +
        (if b.id = order.creditAccount then f execution.credit.account - f parties.credit
          else 0)) := by
    intro b hb
    have htwo := hacceptable.two_accounts
    have hdebit := hacceptable.debit_only.id_eq
    have hcredit := hacceptable.credit_only.id_eq
    rcases report_cases hacceptable hconcerns hb with
      ⟨rfl, hreport⟩ | ⟨rfl, hreport⟩ | ⟨hnotDebit, hnotCredit, hreport⟩
    · rw [hreport, if_pos hdebit, if_neg (hdebit ▸ htwo)]
      ring
    · rw [hreport, if_pos hcredit, if_neg (hcredit ▸ htwo.symm)]
      ring
    · rw [hreport, Account.account_unchanged, if_neg (hdebit ▸ hnotDebit),
        if_neg (hcredit ▸ hnotCredit)]
      ring
  rw [List.map_congr_left hsplit, List.sum_map_add, List.sum_map_add,
    hacceptable.debit_only.sum_ite, hacceptable.credit_only.sum_ite]

end Execution

end

/-! ## The two ways in which an instruction is processed -/

/-- The desk reads the instruction as the order of this transfer, and the transfer ends so. -/
structure Desk.CarriesOut (desk : Desk) (accounts : List Account) (instruction : List Char)
    (t : ApprovedTransfer) (settlement : Settlement) : Prop where
  read : Instruction.read instruction = .ok t.order
  acceptable : t.order.Acceptable desk.supported accounts t.parties
  currency_eq : t.currency = t.parties.debit.currency
  ending : t.Ending desk.policy desk.today desk.gateway settlement

namespace Desk

variable {desk : Desk} {accounts : List Account} {instruction : List Char} {t : ApprovedTransfer}
  {settlement : Settlement}

lemma CarriesOut.concerns (h : desk.CarriesOut accounts instruction t settlement) :
    settlement.execution.Concerns t.parties :=
  ⟨h.ending.before_eq.1, h.ending.before_eq.2⟩

/-- An approved transfer is carried out. -/
lemma carriesOut_of_approve (happrove : desk.approve accounts instruction = .ok t) :
    desk.CarriesOut accounts instruction t (desk.execute t) := by
  obtain ⟨hread, hacceptable, hcurrency⟩ := approve_eq_ok_iff.mp happrove
  exact ⟨hread, hacceptable, hcurrency, t.ending_execute desk.policy desk.today desk.gateway⟩

/-- An instruction is rejected, or a transfer is carried out and reported. -/
theorem process_cases (desk : Desk) (accounts : List Account) (instruction : List Char) :
    (∃ rejection, desk.process accounts instruction = ⟨.error rejection, 0⟩) ∨
    ∃ t settlement, desk.CarriesOut accounts instruction t settlement ∧
      desk.process accounts instruction =
        ⟨.ok (.ofExecution t.order t.currency settlement.execution accounts),
          settlement.gatewayCalls⟩ := by
  unfold process
  split
  · next rejection happrove => exact .inl ⟨rejection, rfl⟩
  · next t happrove => exact .inr ⟨t, desk.execute t, carriesOut_of_approve happrove, rfl⟩

end Desk

end Remittance
