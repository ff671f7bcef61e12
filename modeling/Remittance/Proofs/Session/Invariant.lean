import Remittance.Proofs.Session.Steps
/-!
# What no session changes

Whatever its desks, gateways and instructions are, a session never takes a balance below zero, and it
keeps the list of the accounts with their ids and currencies. A step that answers that nothing is
moved leaves every account as it is, to the last digit (`Session.accountsAfter_invariant`).
-/

namespace Remittance

/-- The answer says that no money has moved: the instruction is rejected, the transfer has failed, or
it is scheduled and its accounts are held. -/
def Outcome.MovesNothing (outcome : Outcome) (policy : PendingPolicy) : Prop :=
  ∀ summary, outcome.result = .ok summary →
    summary.status = .failed ∨ summary.status = .pending ∧ policy = .hold

/-- A transfer of a positive amount leaves no balance below zero. -/
lemma ApprovedTransfer.Ending.nonNegative {t : ApprovedTransfer} {policy : PendingPolicy}
    {today : Date} {gateway : Gateway} {settlement : Settlement}
    (h : t.Ending policy today gateway settlement) (hamount : 0 < t.order.amount.toRat)
    (hdebit : t.parties.debit.balance.NonNegative)
    (hcredit : t.parties.credit.balance.NonNegative) :
    settlement.execution.debit.balance.NonNegative ∧
      settlement.execution.credit.balance.NonNegative := by
  constructor
  · rcases h.debit_balance with hkept | ⟨-, hnonNegative⟩
    · rw [hkept]
      exact hdebit
    · exact hnonNegative
  · rcases h.credit_balance with hkept | hgiven
    · rw [hkept]
      exact hcredit
    · -- a sum that is not negative is not rounded below zero
      have hsum := add_nonneg (Decimal.nonNegative_iff.mp hcredit) hamount.le
      exact (Decimal.rounds_of_add? hgiven).nonNegative hsum

namespace SessionStep

variable {accounts : List Account}

/-- No step takes a balance below zero. -/
lemma nonNegative_next (step : SessionStep) (h : ∀ a ∈ accounts, a.balance.NonNegative) :
    ∀ a ∈ step.next accounts, a.balance.NonNegative := by
  rcases step.next_cases accounts with ⟨-, -, hnext⟩ | ⟨t, settlement, hcarried, -, hnext⟩
  · rw [hnext]
    exact h
  · have hacceptable := hcarried.acceptable
    obtain ⟨hdebit, hcredit⟩ := hcarried.ending.nonNegative hacceptable.amount_pos
      (h _ hacceptable.debit_only.mem) (h _ hacceptable.credit_only.mem)
    rw [hnext]
    exact hcarried.forall_reported h hdebit hcredit

/-- Every step keeps the list of the accounts. -/
lemma map_listing_next (step : SessionStep) (accounts : List Account) :
    (step.next accounts).map (fun a => (a.id, a.currency)) =
      accounts.map fun a => (a.id, a.currency) := by
  rcases step.next_cases accounts with ⟨-, -, hnext⟩ | ⟨t, settlement, hcarried, -, hnext⟩
  · rw [hnext]
  · rw [hnext]
    exact hcarried.map_listing

/-- A step that says that it moves nothing moves nothing. -/
lemma next_eq_of_movesNothing (step : SessionStep)
    (h : (step.outcome accounts).MovesNothing step.desk.policy) : step.next accounts = accounts := by
  rcases step.next_cases accounts with ⟨-, -, hnext⟩ | ⟨t, settlement, hcarried, houtcome, hnext⟩
  · exact hnext
  · rw [houtcome] at h
    obtain ⟨hdebit, hcredit⟩ := hcarried.ending.unchanged (h _ rfl)
    rw [hnext]
    exact hcarried.accountsAfter_of_unchanged hdebit hcredit

end SessionStep

namespace Session

variable {start : List Account}

lemma nonNegative_accountsAfter (h : ∀ a ∈ start, a.balance.NonNegative)
    (steps : List SessionStep) : ∀ a ∈ accountsAfter start steps, a.balance.NonNegative := by
  induction steps generalizing start with
  | nil => exact h
  | cons step steps ih =>
    rw [accountsAfter_cons]
    exact ih (step.nonNegative_next h)

lemma map_listing_accountsAfter (start : List Account) (steps : List SessionStep) :
    (accountsAfter start steps).map (fun a => (a.id, a.currency)) =
      start.map fun a => (a.id, a.currency) := by
  induction steps generalizing start with
  | nil => rfl
  | cons step steps ih => rw [accountsAfter_cons, ih, step.map_listing_next]

/-- After any session on accounts without debts there are still no debts, and the accounts are still
those of the start, with their ids and currencies and in their order. One more step that rejects its
instruction, fails or holds its accounts leaves all of them exactly as they are. -/
theorem accountsAfter_invariant (hstart : ∀ a ∈ start, a.balance.NonNegative)
    (steps : List SessionStep) :
    (∀ a ∈ accountsAfter start steps, a.balance.NonNegative) ∧
    (accountsAfter start steps).map (fun a => (a.id, a.currency)) =
      start.map (fun a => (a.id, a.currency)) ∧
    ∀ step : SessionStep,
      (step.outcome (accountsAfter start steps)).MovesNothing step.desk.policy →
        accountsAfter start (steps ++ [step]) = accountsAfter start steps := by
  refine ⟨nonNegative_accountsAfter hstart steps, map_listing_accountsAfter start steps, ?_⟩
  intro step hstep
  rw [accountsAfter_concat]
  exact step.next_eq_of_movesNothing hstep

/-- An account of a hundred naira pays sixty of them, and is then asked for sixty more. -/
theorem accountsAfter_overdrawn :
    let debit : Account :=
      ⟨⟨"A", by decide, by decide⟩, ⟨false, 100, 0, by decide, by decide⟩, .ngn⟩
    let credit : Account := ⟨⟨"B", by decide, by decide⟩, .zero, .ngn⟩
    let desk := Desk.ofSettings [] .hold ⟨2030, 6, 15, by decide, by decide, by decide⟩ .acceptAll
    let step : SessionStep := ⟨desk, "DEBIT A 60; CREDIT B 60".toList⟩
    accountsAfter [debit, credit] [step] ≠ [debit, credit] ∧
      (∀ a ∈ accountsAfter [debit, credit] [step], a.balance.NonNegative) ∧
      accountsAfter [debit, credit] [step, step] = accountsAfter [debit, credit] [step] := by
  intro debit credit desk step
  have hstart : ∀ a ∈ [debit, credit], a.balance.NonNegative := by decide +kernel
  have hrejected :
      (step.outcome (accountsAfter [debit, credit] [step])).isRejected = true := by decide +kernel
  obtain ⟨hnonNegative, -, hkept⟩ := accountsAfter_invariant hstart [step]
  refine ⟨by decide +kernel, hnonNegative, hkept step ?_⟩
  intro summary hresult
  rw [Outcome.isRejected, hresult] at hrejected
  contradiction

end Session

end Remittance
