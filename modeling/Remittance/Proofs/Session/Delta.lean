import Remittance.Proofs.Decimal.Monotone
import Remittance.Proofs.Session.Invariant
/-!
# The changes that reports tell

A report tells an account with its balance before and after the transfer, and how much the balance
grew (`Snapshot.delta?`). The difference of two balances without debts always fits. So every report
of a session on accounts without debts has a change to tell, and its sign is the one that the side of
the account in the transfer asks for (`Session.every_change_told`).
-/

namespace Remittance

/-! ## The change of one balance -/

namespace Snapshot

variable {s : Snapshot} {delta : Decimal}

/-- The change between two balances without debts always fits. -/
lemma exists_delta? (hbalance : s.balance.NonNegative) (hbefore : s.balanceBefore.NonNegative) :
    ∃ delta, s.delta? = some delta :=
  Decimal.exists_sub?_of_nonNegative hbalance hbefore

/-- Rounding does not take a change past zero. -/
lemma sameSide_of_delta? (h : s.delta? = some delta) :
    delta.SameSide (s.balance.toRat - s.balanceBefore.toRat) .zero :=
  Decimal.sameSide_of_sub? h (Nat.zero_le _)

lemma delta?_nonneg (h : s.delta? = some delta)
    (hgrown : s.balanceBefore.toRat ≤ s.balance.toRat) : 0 ≤ delta.toRat := by
  have hside := (sameSide_of_delta? h).le
  rw [Decimal.toRat_zero] at hside
  exact hside (sub_nonneg.mpr hgrown)

lemma delta?_nonpos (h : s.delta? = some delta)
    (hshrunk : s.balance.toRat ≤ s.balanceBefore.toRat) : delta.toRat ≤ 0 := by
  have hside := (sameSide_of_delta? h).ge
  rw [Decimal.toRat_zero] at hside
  exact hside (sub_nonpos.mpr hshrunk)

end Snapshot

/-! ## The changes of one transfer -/

/-- A transfer that ends with this status changes the balance of the account on this side. -/
def TransferStatus.Touches : TransferStatus → PendingPolicy → Side → Prop
  | .successful, _, _ => True
  | .pending, .reserveDebit, .debit => True
  | _, _, _ => False

/-- The transfer of a summary changes the balance of the account with this id. -/
def Summary.Touches (summary : Summary) (policy : PendingPolicy) (id : AccountId) : Prop :=
  id = summary.debitAccount ∧ summary.status.Touches policy .debit ∨
    id = summary.creditAccount ∧ summary.status.Touches policy .credit

/-- The report tells of a new balance only as the transfer asks for: the debit account loses, the
credit account gains, and an account that is not touched keeps what it has. -/
structure Summary.Moves (summary : Summary) (policy : PendingPolicy) (s : Snapshot) : Prop where
  debit : s.id = summary.debitAccount → s.balance.toRat ≤ s.balanceBefore.toRat
  credit : s.id = summary.creditAccount → s.balanceBefore.toRat ≤ s.balance.toRat
  untouched : ¬ summary.Touches policy s.id → s.balance = s.balanceBefore

/-- The report tells by how much the balance grew, to the last place, and with the sign that the
transfer asks for. -/
structure Summary.TellsChange (summary : Summary) (policy : PendingPolicy) (s : Snapshot)
    (delta : Decimal) : Prop where
  told : s.delta? = some delta
  rounds : delta.Rounds (s.balance.toRat - s.balanceBefore.toRat)
  debit : s.id = summary.debitAccount → delta.toRat ≤ 0
  credit : s.id = summary.creditAccount → 0 ≤ delta.toRat
  untouched : ¬ summary.Touches policy s.id → s.balance = s.balanceBefore ∧ delta.toRat = 0

/-- A report between balances without debts tells its change. -/
lemma Summary.Moves.exists_tellsChange {summary : Summary} {policy : PendingPolicy} {s : Snapshot}
    (h : summary.Moves policy s) (hbalance : s.balance.NonNegative)
    (hbefore : s.balanceBefore.NonNegative) : ∃ delta, summary.TellsChange policy s delta := by
  obtain ⟨delta, hdelta⟩ := Snapshot.exists_delta? hbalance hbefore
  refine ⟨delta, hdelta, Decimal.rounds_of_sub? hdelta, ?_, ?_, ?_⟩
  · intro hside
    exact Snapshot.delta?_nonpos hdelta (h.debit hside)
  · intro hside
    exact Snapshot.delta?_nonneg hdelta (h.credit hside)
  · intro huntouched
    have hkept := h.untouched huntouched
    have hnumber := congrArg Decimal.toRat hkept
    refine ⟨hkept, le_antisymm ?_ ?_⟩
    · exact Snapshot.delta?_nonpos hdelta hnumber.le
    · exact Snapshot.delta?_nonneg hdelta hnumber.ge

namespace ApprovedTransfer.Ending

variable {t : ApprovedTransfer} {policy : PendingPolicy} {today : Date} {gateway : Gateway}
  {settlement : Settlement}

/-- No transfer raises the balance of its debit account. -/
lemma debit_le (h : t.Ending policy today gateway settlement) (hamount : 0 < t.order.amount.toRat) :
    settlement.execution.debit.balance.toRat ≤ t.parties.debit.balance.toRat := by
  rcases h.debit_balance with hkept | ⟨htaken, -⟩
  · rw [hkept]
  · exact Decimal.toRat_le_of_sub? htaken hamount.le

/-- No transfer lowers the balance of its credit account. -/
lemma le_credit (h : t.Ending policy today gateway settlement) (hamount : 0 < t.order.amount.toRat) :
    t.parties.credit.balance.toRat ≤ settlement.execution.credit.balance.toRat := by
  rcases h.credit_balance with hkept | hgiven
  · rw [hkept]
  · exact Decimal.toRat_le_of_add? hgiven hamount.le

lemma debit_of_untouched (h : t.Ending policy today gateway settlement)
    (huntouched : ¬ settlement.execution.status.Touches policy .debit) :
    settlement.execution.debit = t.parties.debit.unchanged := by
  cases h with
  | settled => exact absurd trivial huntouched
  | reserved deferred reserves =>
    subst reserves
    exact absurd trivial huntouched
  | refused | undebited | uncredited | held => rfl

lemma credit_of_untouched (h : t.Ending policy today gateway settlement)
    (huntouched : ¬ settlement.execution.status.Touches policy .credit) :
    settlement.execution.credit = t.parties.credit.unchanged := by
  cases h with
  | settled => exact absurd trivial huntouched
  | refused | undebited | uncredited | reserved | held => rfl

end ApprovedTransfer.Ending

namespace Desk.CarriesOut

variable {desk : Desk} {accounts : List Account} {instruction : List Char} {t : ApprovedTransfer}
  {settlement : Settlement} {a : Account}

/-- A transfer that is carried out moves money from its debit account to its credit account. -/
lemma moves_report (h : desk.CarriesOut accounts instruction t settlement) (ha : a ∈ accounts) :
    (Summary.ofExecution t.order t.currency settlement.execution accounts).Moves desk.policy
      (settlement.execution.report a) := by
  have hamount := h.acceptable.amount_pos
  have hdebitId := h.acceptable.debit_only.id_eq
  have hcreditId := h.acceptable.credit_only.id_eq
  have htwo := h.acceptable.two_accounts
  have hid := settlement.execution.id_report a
  have hbefore : (settlement.execution.report a).balanceBefore = a.balance :=
    congrArg Account.balance (Execution.before_report h.acceptable h.concerns ha)
  rcases Execution.report_cases h.acceptable h.concerns ha with
    ⟨rfl, hreport⟩ | ⟨rfl, hreport⟩ | ⟨-, -, hreport⟩
  · refine ⟨?_, ?_, ?_⟩
    · intro _
      rw [hbefore, hreport]
      exact h.ending.debit_le hamount
    · intro hside
      exact absurd (hdebitId.symm.trans (hid.symm.trans hside)) htwo
    · intro huntouched
      rw [hid] at huntouched
      rw [hreport, h.ending.debit_of_untouched fun htouched => huntouched (.inl ⟨hdebitId, htouched⟩)]
      rfl
  · refine ⟨?_, ?_, ?_⟩
    · intro hside
      exact absurd (hside.symm.trans (hid.trans hcreditId)) htwo
    · intro _
      rw [hbefore, hreport]
      exact h.ending.le_credit hamount
    · intro huntouched
      rw [hid] at huntouched
      rw [hreport,
        h.ending.credit_of_untouched fun htouched => huntouched (.inr ⟨hcreditId, htouched⟩)]
      rfl
  · rw [hreport]
    exact ⟨fun _ => le_refl _, fun _ => le_refl _, fun _ => rfl⟩

/-- A report on accounts without debts tells of no debt, neither before the transfer nor after it. -/
lemma nonNegative_report (h : desk.CarriesOut accounts instruction t settlement)
    (hnonNegative : ∀ a ∈ accounts, a.balance.NonNegative) (ha : a ∈ accounts) :
    (settlement.execution.report a).balance.NonNegative ∧
      (settlement.execution.report a).balanceBefore.NonNegative := by
  obtain ⟨hdebit, hcredit⟩ := h.ending.nonNegative h.acceptable.amount_pos
    (hnonNegative _ h.acceptable.debit_only.mem) (hnonNegative _ h.acceptable.credit_only.mem)
  constructor
  · exact h.forall_reported hnonNegative hdebit hcredit _ (List.mem_map_of_mem ha)
  · have hbefore : (settlement.execution.report a).balanceBefore = a.balance :=
      congrArg Account.balance (Execution.before_report h.acceptable h.concerns ha)
    rw [hbefore]
    exact hnonNegative a ha

end Desk.CarriesOut

/-! ## The changes of a session -/

/-- Every report in the answer to a step tells its change. -/
def SessionStep.TellsChanges (step : SessionStep) (outcome : Outcome) : Prop :=
  ∀ summary, outcome.result = .ok summary → ∀ s ∈ summary.accounts,
    ∃ delta, summary.TellsChange step.desk.policy s delta

/-- A step on accounts without debts tells every change. -/
lemma SessionStep.tellsChanges (step : SessionStep) {accounts : List Account}
    (hnonNegative : ∀ a ∈ accounts, a.balance.NonNegative) :
    step.TellsChanges (step.outcome accounts) := by
  intro summary hresult s hs
  rcases step.next_cases accounts with
    ⟨rejection, houtcome, -⟩ | ⟨t, settlement, hcarried, houtcome, -⟩
  · rw [houtcome] at hresult
    contradiction
  · rw [houtcome] at hresult
    obtain rfl := Except.ok.inj hresult
    obtain ⟨a, ha, rfl⟩ := List.mem_map.mp hs
    obtain ⟨hbalance, hbefore⟩ := hcarried.nonNegative_report hnonNegative ha
    exact (hcarried.moves_report ha).exists_tellsChange hbalance hbefore

namespace Session

variable {start : List Account}

lemma tellsChanges_of_mem (hstart : ∀ a ∈ start, a.balance.NonNegative) (steps : List SessionStep) :
    ∀ entry ∈ steps.zip (run start steps), entry.1.TellsChanges entry.2.1 := by
  -- what the induction carries from step to step is that no account has a debt
  induction steps generalizing start with
  | nil => simp
  | cons step steps ih =>
    rw [run_cons, List.zip_cons_cons, List.forall_mem_cons]
    exact ⟨step.tellsChanges hstart, ih (step.nonNegative_next hstart)⟩

/-- The change between two balances without debts can always be told, to its last place. In a session
on accounts without debts every answer tells the changes of all accounts: none is positive for a
debit account, none is negative for a credit account, and an account that the transfer does not touch
keeps its balance, with a change of zero. -/
theorem every_change_told :
    (∀ s : Snapshot, s.balance.NonNegative → s.balanceBefore.NonNegative →
      ∃ delta, s.delta? = some delta ∧
        delta.Rounds (s.balance.toRat - s.balanceBefore.toRat)) ∧
    ∀ start : List Account, (∀ a ∈ start, a.balance.NonNegative) → ∀ steps : List SessionStep,
      ∀ entry ∈ steps.zip (run start steps), ∀ summary, entry.2.1.result = .ok summary →
        ∀ s ∈ summary.accounts, ∃ delta, summary.TellsChange entry.1.desk.policy s delta := by
  constructor
  · intro s hbalance hbefore
    obtain ⟨delta, hdelta⟩ := Snapshot.exists_delta? hbalance hbefore
    exact ⟨delta, hdelta, Decimal.rounds_of_sub? hdelta⟩
  · intro start hstart steps
    exact tellsChanges_of_mem hstart steps

/-- Forty kobo are asked of an account whose balance has no room for a digit behind the point, and the
change of a balance that falls from there to forty kobo is told although it has to be rounded. -/
theorem every_change_told_at_the_bound :
    let debit : Account := ⟨⟨"A", by decide, by decide⟩,
      ⟨false, 79228162514264337593543950335, 0, by decide, by decide⟩, .ngn⟩
    let credit : Account := ⟨⟨"B", by decide, by decide⟩, .zero, .ngn⟩
    let desk := Desk.ofSettings [] .hold ⟨2030, 6, 15, by decide, by decide, by decide⟩ .acceptAll
    let step : SessionStep := ⟨desk, "DEBIT A 0.4; CREDIT B 0.4".toList⟩
    let fallen : Snapshot := ⟨debit.id, ⟨false, 4, 1, by decide, by decide⟩, debit.balance, .ngn⟩
    (∃ delta, fallen.delta? = some delta ∧
      delta.Rounds (fallen.balance.toRat - fallen.balanceBefore.toRat)) ∧
    ∃ summary, (step.outcome [debit, credit]).result = .ok summary ∧
      ∀ s ∈ summary.accounts, ∃ delta, summary.TellsChange .hold s delta := by
  intro debit credit desk step fallen
  obtain ⟨hsnapshots, hsessions⟩ := every_change_told
  have hstart : ∀ a ∈ [debit, credit], a.balance.NonNegative := by decide +kernel
  have hentry : (step, step.outcome [debit, credit], step.next [debit, credit]) ∈
      [step].zip (run [debit, credit] [step]) := by
    rw [run_cons]
    exact List.mem_cons_self
  refine ⟨hsnapshots fallen (by decide +kernel) (by decide +kernel), _, rfl, ?_⟩
  exact hsessions [debit, credit] hstart [step] _ hentry _ rfl

end Session

end Remittance
