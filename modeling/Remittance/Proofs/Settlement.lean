import Remittance.Proofs.Decimal.Rounding
import Remittance.Settlement
/-!
# How a transfer ends

`ApprovedTransfer.Ending` lists the ways in which a transfer can end, each with what leads to it and
what it leaves behind. Every execution is one of them (`ApprovedTransfer.ending_execute`), so that a
fact about transfers is shown with one case for each way.
-/

namespace Remittance

namespace Snapshot

/-- The account as it was before the transfer. -/
def before (s : Snapshot) : Account := ⟨s.id, s.balanceBefore, s.currency⟩

@[simp] lemma account_balance (s : Snapshot) : s.account.balance = s.balance := rfl

end Snapshot

namespace Account

@[simp] lemma account_unchanged (a : Account) : a.unchanged.account = a := rfl

variable {a : Account} {amount : Decimal} {s : Snapshot}

/-- An amount leaves an account when the difference fits and is not less than zero. -/
lemma debited_eq_ok_iff : a.debited amount = .ok s ↔
    ∃ balance, a.balance.sub? amount = some balance ∧ balance.NonNegative ∧
      s = a.withBalance balance := by
  unfold debited
  split
  · next h => simp [h]
  · next balance h =>
    split <;> grind

/-- An amount enters an account when the sum fits. -/
lemma credited_eq_ok_iff : a.credited amount = .ok s ↔
    ∃ balance, a.balance.add? amount = some balance ∧ s = a.withBalance balance := by
  unfold credited
  split <;> grind

/-- An amount that is there can leave an account whose new balance is representable. -/
lemma exists_debited (a : Account) {amount : Decimal} (hfunds : amount.toRat ≤ a.balance.toRat)
    (hrepr : Decimal.Representable (a.balance.toRat - amount.toRat)) :
    ∃ s, a.debited amount = .ok s := by
  obtain ⟨balance, hbalance, hexact⟩ := Decimal.exists_sub?_of_representable hrepr
  have hnonNegative : balance.NonNegative := by
    rw [Decimal.nonNegative_iff, hexact]
    exact sub_nonneg.mpr hfunds
  exact ⟨_, debited_eq_ok_iff.mpr ⟨balance, hbalance, hnonNegative, rfl⟩⟩

/-- An amount that is there can always leave an account: neither of the two faults of taking it
arises. -/
lemma exists_debited_of_funds (a : Account) {amount : Decimal} (hamount : 0 < amount.toRat)
    (hfunds : amount.toRat ≤ a.balance.toRat) :
    ∃ balance, a.balance.sub? amount = some balance ∧
      a.debited amount = .ok (a.withBalance balance) := by
  have hbalance : a.balance.NonNegative := Decimal.nonNegative_iff.mpr (hamount.le.trans hfunds)
  obtain ⟨balance, htaken⟩ :=
    Decimal.exists_sub?_of_nonNegative hbalance (Decimal.nonNegative_iff.mpr hamount.le)
  -- the difference may be rounded, but not below zero
  have hnonNegative : balance.NonNegative :=
    (Decimal.rounds_of_sub? htaken).nonNegative (sub_nonneg.mpr hfunds)
  exact ⟨balance, htaken, debited_eq_ok_iff.mpr ⟨balance, htaken, hnonNegative, rfl⟩⟩

/-- An amount can enter an account whose new balance is representable. -/
lemma exists_credited (a : Account) {amount : Decimal}
    (hrepr : Decimal.Representable (a.balance.toRat + amount.toRat)) :
    ∃ s, a.credited amount = .ok s := by
  obtain ⟨balance, hbalance, -⟩ := Decimal.exists_add?_of_representable hrepr
  exact ⟨_, credited_eq_ok_iff.mpr ⟨balance, hbalance, rfl⟩⟩

end Account

namespace ApprovedTransfer

/-- The ways in which a transfer can end. -/
inductive Ending (t : ApprovedTransfer) (policy : PendingPolicy) (today : Date)
    (gateway : Gateway) : Settlement → Prop
  /-- It is due, both new balances can be taken and the gateway agrees. -/
  | settled {debit credit : Decimal} (due : ¬ t.IsDeferred today)
      (taken : t.parties.debit.balance.sub? t.order.amount = some debit)
      (nonNegative : debit.NonNegative)
      (given : t.parties.credit.balance.add? t.order.amount = some credit)
      (agreed : gateway t.order = .ok ()) :
      Ending t policy today gateway
        ⟨.settled (t.parties.debit.withBalance debit) (t.parties.credit.withBalance credit), 1⟩
  /-- It is due and both new balances can be taken, but the gateway refuses. -/
  | refused {debit credit : Decimal} {fault : SettlementFault} (due : ¬ t.IsDeferred today)
      (taken : t.parties.debit.balance.sub? t.order.amount = some debit)
      (nonNegative : debit.NonNegative)
      (given : t.parties.credit.balance.add? t.order.amount = some credit)
      (refusal : gateway t.order = .error fault) :
      Ending t policy today gateway ⟨.failed t.parties fault, 1⟩
  /-- The new balance of the debit account cannot be taken. -/
  | undebited {fault : SettlementFault}
      (untaken : t.parties.debit.debited t.order.amount = .error fault) :
      Ending t policy today gateway ⟨.failed t.parties fault, 0⟩
  /-- It is due, but only the new balance of the debit account can be taken. -/
  | uncredited {debit : Decimal} {fault : SettlementFault} (due : ¬ t.IsDeferred today)
      (taken : t.parties.debit.balance.sub? t.order.amount = some debit)
      (nonNegative : debit.NonNegative)
      (ungiven : t.parties.credit.credited t.order.amount = .error fault) :
      Ending t policy today gateway ⟨.failed t.parties fault, 0⟩
  /-- It is not yet due, and the amount is reserved. -/
  | reserved {debit : Decimal} (deferred : t.IsDeferred today) (reserves : policy = .reserveDebit)
      (taken : t.parties.debit.balance.sub? t.order.amount = some debit)
      (nonNegative : debit.NonNegative) :
      Ending t policy today gateway
        ⟨.scheduled (t.parties.debit.withBalance debit) t.parties.credit.unchanged, 0⟩
  /-- It is not yet due, and both accounts are held. -/
  | held (deferred : t.IsDeferred today) (holds : policy = .hold) :
      Ending t policy today gateway
        ⟨.scheduled t.parties.debit.unchanged t.parties.credit.unchanged, 0⟩

variable {t : ApprovedTransfer} {policy : PendingPolicy} {today : Date} {gateway : Gateway}

lemma moved_eq (t : ApprovedTransfer) : t.moved =
    match t.parties.debit.debited t.order.amount, t.parties.credit.credited t.order.amount with
    | .error fault, _ => .error fault
    | .ok _, .error fault => .error fault
    | .ok debit, .ok credit => .ok (debit, credit) := by
  unfold moved
  cases t.parties.debit.debited t.order.amount with
  | error fault => rfl
  | ok debit => cases t.parties.credit.credited t.order.amount <;> rfl

/-- Settling asks the gateway once, behind both new balances. -/
lemma conclude_settle (t : ApprovedTransfer) (gateway : Gateway) :
    t.conclude (t.settle gateway) =
      match t.moved with
      | .error fault => ⟨.failed t.parties fault, 0⟩
      | .ok (debit, credit) =>
        match gateway t.order with
        | .error fault => ⟨.failed t.parties fault, 1⟩
        | .ok () => ⟨.settled debit credit, 1⟩ := by
  unfold settle Gateway.ask
  cases t.moved with
  | error fault => rfl
  | ok pair => cases gateway t.order <;> rfl

/-- Scheduling does not ask the gateway. -/
lemma conclude_schedule (t : ApprovedTransfer) (policy : PendingPolicy) :
    t.conclude (t.schedule policy) =
      match policy with
      | .hold => ⟨.scheduled t.parties.debit.unchanged t.parties.credit.unchanged, 0⟩
      | .reserveDebit =>
        match t.parties.debit.debited t.order.amount with
        | .error fault => ⟨.failed t.parties fault, 0⟩
        | .ok debit => ⟨.scheduled debit t.parties.credit.unchanged, 0⟩ := by
  unfold schedule
  cases policy with
  | hold => rfl
  | reserveDebit => cases t.parties.debit.debited t.order.amount <;> rfl

/-- A transfer that is due is settled, or fails at one of three points. -/
lemma ending_settle (due : ¬ t.IsDeferred today) :
    Ending t policy today gateway (t.conclude (t.settle gateway)) := by
  rw [conclude_settle, moved_eq]
  cases hdebit : t.parties.debit.debited t.order.amount with
  | error fault => exact .undebited hdebit
  | ok debit =>
    obtain ⟨taken, htaken, hnonNegative, rfl⟩ := Account.debited_eq_ok_iff.mp hdebit
    cases hcredit : t.parties.credit.credited t.order.amount with
    | error fault => exact .uncredited due htaken hnonNegative hcredit
    | ok credit =>
      obtain ⟨given, hgiven, rfl⟩ := Account.credited_eq_ok_iff.mp hcredit
      -- only now, with both new balances at hand, the gateway is asked
      simp only
      cases hgateway : gateway t.order with
      | error fault => exact .refused due htaken hnonNegative hgiven hgateway
      | ok agreed => exact .settled due htaken hnonNegative hgiven hgateway

/-- A transfer that is not yet due is scheduled, unless the amount cannot be reserved. -/
lemma ending_schedule (deferred : t.IsDeferred today) :
    Ending t policy today gateway (t.conclude (t.schedule policy)) := by
  rw [conclude_schedule]
  cases policy with
  | hold => exact .held deferred rfl
  | reserveDebit =>
    cases hdebit : t.parties.debit.debited t.order.amount with
    | error fault => exact .undebited hdebit
    | ok debit =>
      obtain ⟨taken, htaken, hnonNegative, rfl⟩ := Account.debited_eq_ok_iff.mp hdebit
      exact .reserved deferred rfl htaken hnonNegative

/-- Every execution ends in one of these ways. -/
theorem ending_execute (t : ApprovedTransfer) (policy : PendingPolicy) (today : Date)
    (gateway : Gateway) : Ending t policy today gateway (t.execute policy today gateway) := by
  unfold execute
  split
  · next deferred => exact ending_schedule deferred
  · next due => exact ending_settle due

/-- A transfer ends with reports on its own two accounts. -/
lemma Ending.before_eq {settlement : Settlement} (h : Ending t policy today gateway settlement) :
    settlement.execution.debit.before = t.parties.debit ∧
      settlement.execution.credit.before = t.parties.credit := by
  cases h <;> exact ⟨rfl, rfl⟩

/-- The debit account keeps its balance, or the amount leaves it. -/
lemma Ending.debit_balance {settlement : Settlement}
    (h : Ending t policy today gateway settlement) :
    settlement.execution.debit.balance = t.parties.debit.balance ∨
      t.parties.debit.balance.sub? t.order.amount = some settlement.execution.debit.balance ∧
        settlement.execution.debit.balance.NonNegative := by
  cases h with
  | settled due taken nonNegative => exact .inr ⟨taken, nonNegative⟩
  | reserved deferred reserves taken nonNegative => exact .inr ⟨taken, nonNegative⟩
  | refused | undebited | uncredited | held => exact .inl rfl

/-- The credit account keeps its balance, or the amount enters it. -/
lemma Ending.credit_balance {settlement : Settlement}
    (h : Ending t policy today gateway settlement) :
    settlement.execution.credit.balance = t.parties.credit.balance ∨
      t.parties.credit.balance.add? t.order.amount = some settlement.execution.credit.balance := by
  cases h with
  | settled due taken nonNegative given => exact .inr given
  | refused | undebited | uncredited | reserved | held => exact .inl rfl

/-- A transfer that fails, or that is scheduled while both accounts are held, changes neither. -/
lemma Ending.unchanged {settlement : Settlement} (h : Ending t policy today gateway settlement)
    (hstatus : settlement.execution.status = .failed ∨
      settlement.execution.status = .pending ∧ policy = .hold) :
    settlement.execution.debit = t.parties.debit.unchanged ∧
      settlement.execution.credit = t.parties.credit.unchanged := by
  cases h with
  | settled => rcases hstatus with hfailed | ⟨hpending, -⟩ <;> contradiction
  | reserved deferred reserves =>
    rcases hstatus with hfailed | ⟨-, hholds⟩
    · contradiction
    · rw [reserves] at hholds
      contradiction
  | refused | undebited | uncredited | held => exact ⟨rfl, rfl⟩

/-- Where both new balances are representable, a transfer moves its amount exactly, reserves it
exactly or holds the accounts, and it fails only when the gateway refuses. -/
theorem Ending.exact {settlement : Settlement} (h : Ending t policy today gateway settlement)
    (hfunds : t.order.amount.toRat ≤ t.parties.debit.balance.toRat)
    (hdebit : Decimal.Representable (t.parties.debit.balance.toRat - t.order.amount.toRat))
    (hcredit : Decimal.Representable (t.parties.credit.balance.toRat + t.order.amount.toRat)) :
    (∃ debit credit, settlement =
        ⟨.settled (t.parties.debit.withBalance debit) (t.parties.credit.withBalance credit), 1⟩ ∧
      debit.toRat = t.parties.debit.balance.toRat - t.order.amount.toRat ∧
      credit.toRat = t.parties.credit.balance.toRat + t.order.amount.toRat) ∨
    (∃ debit, policy = .reserveDebit ∧ settlement =
        ⟨.scheduled (t.parties.debit.withBalance debit) t.parties.credit.unchanged, 0⟩ ∧
      debit.toRat = t.parties.debit.balance.toRat - t.order.amount.toRat) ∨
    (policy = .hold ∧ settlement =
        ⟨.scheduled t.parties.debit.unchanged t.parties.credit.unchanged, 0⟩) ∨
    ∃ fault, gateway t.order = .error fault ∧ settlement = ⟨.failed t.parties fault, 1⟩ := by
  cases h with
  | settled due taken nonNegative given =>
    exact .inl ⟨_, _, rfl, (Decimal.toRat_eq_sub_iff taken).mpr hdebit,
      (Decimal.toRat_eq_add_iff given).mpr hcredit⟩
  | refused due taken nonNegative given refusal => exact .inr (.inr (.inr ⟨_, refusal, rfl⟩))
  | undebited untaken =>
    obtain ⟨s, hs⟩ := Account.exists_debited _ hfunds hdebit
    rw [hs] at untaken
    contradiction
  | uncredited due taken nonNegative ungiven =>
    obtain ⟨s, hs⟩ := Account.exists_credited _ hcredit
    rw [hs] at ungiven
    contradiction
  | reserved deferred reserves taken =>
    exact .inr (.inl ⟨_, reserves, rfl, (Decimal.toRat_eq_sub_iff taken).mpr hdebit⟩)
  | held deferred holds => exact .inr (.inr (.inl ⟨holds, rfl⟩))

end ApprovedTransfer

end Remittance
