import Remittance.Proofs.Desk.Report
/-!
# What one step of a session does

A step either rejects its instruction and leaves the accounts as they are, or carries a transfer out
and leaves them as it reports them (`SessionStep.next_cases`). What holds of every account, and of
the two accounts of the transfer afterwards, holds of every account afterwards
(`Desk.CarriesOut.forall_reported`). A session is its steps one after another
(`Session.accountsAfter_concat`).
-/

namespace Remittance

namespace SessionStep

/-- What the step answers on these accounts. -/
def outcome (step : SessionStep) (accounts : List Account) : Outcome :=
  step.desk.process accounts step.instruction

/-- The accounts after the step. -/
def next (step : SessionStep) (accounts : List Account) : List Account :=
  (step.outcome accounts).accountsAfter accounts

end SessionStep

namespace Session

/-- The accounts after a session. -/
def accountsAfter (start : List Account) (steps : List SessionStep) : List Account :=
  ((run start steps).map Prod.snd).getLastD start

variable {start : List Account} {steps : List SessionStep} {step : SessionStep}

lemma run_cons (start : List Account) (step : SessionStep) (steps : List SessionStep) :
    run start (step :: steps) =
      (step.outcome start, step.next start) :: run (step.next start) steps := rfl

lemma length_run (start : List Account) (steps : List SessionStep) :
    (run start steps).length = steps.length := by
  induction steps generalizing start with
  | nil => rfl
  | cons step steps ih => rw [run_cons, List.length_cons, ih, List.length_cons]

lemma accountsAfter_cons (start : List Account) (step : SessionStep) (steps : List SessionStep) :
    accountsAfter start (step :: steps) = accountsAfter (step.next start) steps := by
  unfold accountsAfter
  rw [run_cons, List.map_cons, List.getLastD_cons]

/-- One more step is taken on the accounts that the steps before it left. -/
lemma run_concat (start : List Account) (steps : List SessionStep) (step : SessionStep) :
    run start (steps ++ [step]) = run start steps ++
      [(step.outcome (accountsAfter start steps), step.next (accountsAfter start steps))] := by
  induction steps generalizing start with
  | nil => rfl
  | cons first steps ih =>
    rw [List.cons_append, run_cons, run_cons, ih, accountsAfter_cons, List.cons_append]

lemma accountsAfter_concat (start : List Account) (steps : List SessionStep) (step : SessionStep) :
    accountsAfter start (steps ++ [step]) = step.next (accountsAfter start steps) := by
  rw [accountsAfter, run_concat, List.map_append, List.map_singleton, List.getLastD_concat]

end Session

/-! ## The accounts after one step -/

/-- The accounts as an execution leaves them. -/
def Execution.accountsAfter (execution : Execution) (accounts : List Account) : List Account :=
  accounts.map fun a => (execution.report a).account

/-- A step rejects its instruction, or carries a transfer out. -/
theorem SessionStep.next_cases (step : SessionStep) (accounts : List Account) :
    (∃ rejection, step.outcome accounts = ⟨.error rejection, 0⟩ ∧ step.next accounts = accounts) ∨
    ∃ t settlement, step.desk.CarriesOut accounts step.instruction t settlement ∧
      step.outcome accounts =
        ⟨.ok (.ofExecution t.order t.currency settlement.execution accounts),
          settlement.gatewayCalls⟩ ∧
      step.next accounts = settlement.execution.accountsAfter accounts := by
  rcases Desk.process_cases step.desk accounts step.instruction with
    ⟨rejection, hreject⟩ | ⟨t, settlement, hcarried, hprocess⟩
  · refine .inl ⟨rejection, hreject, ?_⟩
    rw [next, outcome, hreject]
    rfl
  · refine .inr ⟨t, settlement, hcarried, hprocess, ?_⟩
    rw [next, outcome, hprocess]
    show (accounts.map settlement.execution.report).map Snapshot.account = _
    rw [List.map_map]
    rfl

namespace Desk.CarriesOut

variable {desk : Desk} {accounts : List Account} {instruction : List Char} {t : ApprovedTransfer}
  {settlement : Settlement}

/-- A transfer leaves every account its id and its currency. -/
lemma map_listing (h : desk.CarriesOut accounts instruction t settlement) :
    (settlement.execution.accountsAfter accounts).map (fun a => (a.id, a.currency)) =
      accounts.map fun a => (a.id, a.currency) := by
  rw [Execution.accountsAfter, List.map_map]
  apply List.map_congr_left
  intro a ha
  have hlisting := congrArg (fun b : Account => (b.id, b.currency))
    (Execution.before_report h.acceptable h.concerns ha)
  exact hlisting

/-- What holds of every account before a transfer, and of its two accounts after it, holds of every
account after it. -/
lemma forall_reported (h : desk.CarriesOut accounts instruction t settlement) {P : Account → Prop}
    (hall : ∀ a ∈ accounts, P a) (hdebit : P settlement.execution.debit.account)
    (hcredit : P settlement.execution.credit.account) :
    ∀ a ∈ settlement.execution.accountsAfter accounts, P a := by
  intro a ha
  obtain ⟨b, hb, rfl⟩ := List.mem_map.mp ha
  rcases Execution.report_cases h.acceptable h.concerns hb with
    ⟨-, hreport⟩ | ⟨-, hreport⟩ | ⟨-, -, hreport⟩
  · rw [hreport]
    exact hdebit
  · rw [hreport]
    exact hcredit
  · rw [hreport, Account.account_unchanged]
    exact hall b hb

/-- A transfer that changes neither of its accounts changes none. -/
lemma accountsAfter_of_unchanged (h : desk.CarriesOut accounts instruction t settlement)
    (hdebit : settlement.execution.debit = t.parties.debit.unchanged)
    (hcredit : settlement.execution.credit = t.parties.credit.unchanged) :
    settlement.execution.accountsAfter accounts = accounts := by
  rw [Execution.accountsAfter]
  conv_rhs => rw [← List.map_id accounts]
  apply List.map_congr_left
  intro a ha
  rcases Execution.report_cases h.acceptable h.concerns ha with
    ⟨rfl, hreport⟩ | ⟨rfl, hreport⟩ | ⟨-, -, hreport⟩
  · rw [hreport, hdebit, Account.account_unchanged, id]
  · rw [hreport, hcredit, Account.account_unchanged, id]
  · rw [hreport, Account.account_unchanged, id]

end Desk.CarriesOut

end Remittance
