import Remittance.Proofs.AccountTable
import Remittance.Proofs.Desk.Outcome
import Remittance.Proofs.Envelope.Data
import Remittance.Proofs.Session.Steps
/-!
# The sign of a zero makes no difference

A balance can be a zero with a sign. No text gives such a balance back, so accounts that were written
and read again can have lost a sign. A desk does the same with them: each of its stages does
(`Desk.approve_unsignZeros`, `ApprovedTransfer.execute_unsignZeros`), and so it answers the same
(`Desk.process_unsignZeros`), with a zero without a sign wherever it would have told one with a sign.
-/

namespace Remittance

/-! ## Sums -/

namespace Decimal

variable {a b c : Decimal}

lemma unsignZero_of_coeff_ne_zero (h : a.coeff ≠ 0) : a.unsignZero = a := by
  refine unsignZero_eq_self fun _ hzero => h ?_
  rw [← Int.natAbs_eq_zero, natAbs_coeff, hzero]

lemma unsignZero_unsignZero (a : Decimal) : a.unsignZero.unsignZero = a.unsignZero := by
  refine unsignZero_eq_self fun hnegative hzero => ?_
  unfold unsignZero at hnegative hzero
  split at hzero
  · next hmagnitude =>
    rw [if_pos hmagnitude] at hnegative
    cases hnegative
  · next hmagnitude => exact hmagnitude hzero

lemma unsignZero_lt_iff : a.unsignZero < b ↔ a < b := by
  show a.unsignZero.coeff * 10 ^ b.scale < b.coeff * 10 ^ a.unsignZero.scale ↔
    a.coeff * 10 ^ b.scale < b.coeff * 10 ^ a.scale
  rw [coeff_unsignZero, scale_unsignZero]

/-- What is added to a zero does not depend on the sign of the zero. -/
lemma unsignZero_add? (a b : Decimal) : a.unsignZero.add? b = a.add? b := by
  by_cases ha : a.coeff = 0
  · simp [add?, ha]
  · rw [unsignZero_of_coeff_ne_zero ha]

lemma unsignZero_of_fitFrom? {n : ℤ} {dropped scale : ℕ} (h : fitFrom? n dropped scale = some a) :
    a.unsignZero = a := by
  have hfits {m : ℤ} {places : ℕ} (h : ofCoeff? m places = some a) : a.unsignZero = a := by
    obtain ⟨rfl, rfl, hsign⟩ := ofCoeff?_eq_some_iff.mp h
    refine unsignZero_eq_self fun hnegative hzero => ?_
    rw [← natAbs_coeff, Int.natAbs_eq_zero] at hzero
    rw [hsign, hzero] at hnegative
    cases hnegative
  induction scale generalizing dropped with
  | zero => exact hfits h
  | succ scale ih =>
    rw [fitFrom?, Option.or_eq_some_iff] at h
    rcases h with h | ⟨-, h⟩
    · exact hfits h
    · exact ih h

/-- A sum with a number that is not zero is no zero with a sign. -/
lemma unsignZero_of_add? (h : a.add? b = some c) (hb : b.coeff ≠ 0) : c.unsignZero = c := by
  unfold add? at h
  rw [if_neg hb] at h
  split at h
  · cases h
    exact unsignZero_of_coeff_ne_zero hb
  · exact unsignZero_of_fitFrom? h

lemma unsignZero_of_sub? (h : a.sub? b = some c) (hb : b.coeff ≠ 0) : c.unsignZero = c :=
  unsignZero_of_add? h (by rwa [coeff_neg, neg_ne_zero])

end Decimal

/-! ## Parties and rules -/

variable {accounts : List Account} {order : TransferOrder} {parties : Parties}
  {supported : List Currency}

/-- The same accounts, with a zero without a sign for each zero with one. -/
def Parties.unsignZeros (parties : Parties) : Parties :=
  ⟨parties.debit.unsignZero, parties.credit.unsignZero⟩

/-- The same breach, told with a zero without a sign for a balance that is a zero with one. -/
def Breach.unsignZeros : Breach → Breach
  | .insufficientFunds account available requested =>
    .insufficientFunds account available.unsignZero requested
  | breach => breach

/-- The same transfer, between accounts with a zero without a sign for each zero with one. -/
def ApprovedTransfer.unsignZeros (t : ApprovedTransfer) : ApprovedTransfer :=
  { t with parties := t.parties.unsignZeros }

lemma findAccount_unsignZeros (accounts : List Account) (side : Side) (id : AccountId) :
    findAccount (accounts.map Account.unsignZero) side id =
      (findAccount accounts side id).map Account.unsignZero := by
  have hsupplied : accountsWithId (accounts.map Account.unsignZero) id =
      (accountsWithId accounts id).map Account.unsignZero := List.filter_map
  unfold findAccount
  rw [hsupplied]
  rcases accountsWithId accounts id with _ | ⟨account, _ | ⟨other, others⟩⟩
  · rfl
  · rfl
  · simp [Except.map]

lemma Parties.find_unsignZeros (order : TransferOrder) (accounts : List Account) :
    find order (accounts.map Account.unsignZero) =
      (find order accounts).map Parties.unsignZeros := by
  unfold find
  simp only [findAccount_unsignZeros]
  by_cases hself : order.IsSelfTransfer
  · simp only [hself, if_true]
    cases findAccount accounts .debit order.debitAccount <;> rfl
  · simp only [hself, if_false]
    cases findAccount accounts .debit order.debitAccount <;>
      cases findAccount accounts .credit order.creditAccount <;> rfl

lemma TransferOrder.breaches_unsignZeros (supported : List Currency) (order : TransferOrder)
    (parties : Parties) : order.breaches supported parties.unsignZeros =
      (order.breaches supported parties).map Breach.unsignZeros := by
  have hfunds : parties.unsignZeros.debit.balance < order.amount ↔
      parties.debit.balance < order.amount := Decimal.unsignZero_lt_iff
  unfold breaches
  simp only [List.map_append, apply_ite (List.map Breach.unsignZeros), List.map_nil,
    List.map_singleton, Breach.unsignZeros, hfunds]
  rfl

lemma TransferOrder.approve_unsignZeros (supported : List Currency) (order : TransferOrder)
    (parties : Parties) : order.approve supported parties.unsignZeros =
      ((order.approve supported parties).map ApprovedTransfer.unsignZeros).mapError
        (List.map Breach.unsignZeros) := by
  unfold approve
  rw [breaches_unsignZeros]
  cases order.breaches supported parties <;> rfl

/-! ## Execution -/

/-- The same execution, with a zero without a sign for each zero with one. -/
def Execution.unsignZeros (execution : Execution) : Execution :=
  { execution with
    debit := execution.debit.unsignZeros
    credit := execution.credit.unsignZeros }

/-- The same settlement, with a zero without a sign for each zero with one. -/
def Settlement.unsignZeros (settlement : Settlement) : Settlement :=
  { settlement with execution := settlement.execution.unsignZeros }

lemma Account.unsignZero_withBalance (a : Account) {balance : Decimal}
    (h : balance.unsignZero = balance) :
    a.unsignZero.withBalance balance = (a.withBalance balance).unsignZeros := by
  unfold Snapshot.unsignZeros Account.withBalance
  rw [h]
  rfl

/-- A transfer that the debit account covers ends in the same way. -/
theorem ApprovedTransfer.execute_unsignZeros (t : ApprovedTransfer) (policy : PendingPolicy)
    (today : Date) (gateway : Gateway) (hamount : 0 < t.order.amount.toRat)
    (hfunds : t.order.amount.toRat ≤ t.parties.debit.balance.toRat) :
    t.unsignZeros.execute policy today gateway =
      (t.execute policy today gateway).unsignZeros := by
  have hne : t.order.amount.coeff ≠ 0 := fun hzero =>
    hamount.ne' (Decimal.coeff_eq_zero_iff.mp hzero)
  obtain ⟨taken, htaken, hdebited⟩ := t.parties.debit.exists_debited_of_funds hamount hfunds
  have htakenSign := Decimal.unsignZero_of_sub? htaken hne
  -- the debit account has money, so its balance is no zero
  have hdebit : t.parties.debit.unsignZero = t.parties.debit := by
    have hpos : t.parties.debit.balance.coeff ≠ 0 := fun hzero =>
      (hamount.trans_le hfunds).ne' (Decimal.coeff_eq_zero_iff.mp hzero)
    unfold Account.unsignZero
    rw [Decimal.unsignZero_of_coeff_ne_zero hpos]
  have hdebited' : t.unsignZeros.parties.debit.debited t.unsignZeros.order.amount =
      .ok (t.unsignZeros.parties.debit.withBalance taken) := by
    show t.parties.debit.unsignZero.debited t.order.amount =
      .ok (t.parties.debit.unsignZero.withBalance taken)
    rw [hdebit, hdebited]
  have hgiven : t.unsignZeros.parties.credit.balance.add? t.unsignZeros.order.amount =
      t.parties.credit.balance.add? t.order.amount := Decimal.unsignZero_add? _ _
  have hdeferred : t.unsignZeros.IsDeferred today = t.IsDeferred today := rfl
  rw [execute_eq _ policy today gateway hdebited', execute_eq t policy today gateway hdebited,
    hgiven]
  simp only [hdeferred]
  split
  · cases policy with
    | reserveDebit =>
      show Settlement.mk (.scheduled (t.parties.debit.unsignZero.withBalance taken) _) 0 = _
      rw [Account.unsignZero_withBalance _ htakenSign]
      rfl
    | hold => rfl
  · cases hadd : t.parties.credit.balance.add? t.order.amount with
    | none => rfl
    | some given =>
      have hgivenSign := Decimal.unsignZero_of_add? hadd hne
      have hgateway : gateway t.unsignZeros.order = gateway t.order := rfl
      simp only [hgateway]
      cases gateway t.order with
      | error fault => rfl
      | ok agreed =>
        show Settlement.mk (.settled (t.parties.debit.unsignZero.withBalance taken)
          (t.parties.credit.unsignZero.withBalance given)) 1 = _
        rw [Account.unsignZero_withBalance _ htakenSign,
          Account.unsignZero_withBalance _ hgivenSign]
        rfl

/-! ## Desks -/

/-- The same rejection, told with a zero without a sign for each balance that is a zero with one. -/
def Rejection.unsignZeros : Rejection → Rejection
  | .refused breaches => .refused (breaches.map Breach.unsignZeros)
  | rejection => rejection

/-- The same outcome, told with a zero without a sign for each zero with one. -/
def Outcome.unsignZeros (outcome : Outcome) : Outcome :=
  { outcome with
    result := (outcome.result.map Summary.unsignZeros).mapError Rejection.unsignZeros }

lemma Execution.report_unsignZeros (execution : Execution) (a : Account) :
    execution.unsignZeros.report a.unsignZero = (execution.report a).unsignZeros := by
  show (if a.id = execution.debit.id then execution.debit.unsignZeros
    else if a.id = execution.credit.id then execution.credit.unsignZeros
    else a.unchanged.unsignZeros) = _
  unfold report
  split_ifs <;> rfl

lemma Summary.ofExecution_unsignZeros (currency : Currency) (execution : Execution)
    (accounts : List Account) (hamount : order.amount.unsignZero = order.amount) :
    ofExecution order currency execution.unsignZeros (accounts.map Account.unsignZero) =
      (ofExecution order currency execution accounts).unsignZeros := by
  have hreports : (accounts.map Account.unsignZero).map execution.unsignZeros.report =
      (accounts.map execution.report).map Snapshot.unsignZeros := by
    rw [List.map_map, List.map_map]
    exact List.map_congr_left fun a _ => execution.report_unsignZeros a
  unfold ofExecution unsignZeros
  simp only [hreports, hamount]
  rfl

namespace Desk

/-- The same transfer is approved, or it is rejected for the same reasons. -/
theorem approve_unsignZeros (desk : Desk) (accounts : List Account) (instruction : List Char) :
    desk.approve (accounts.map Account.unsignZero) instruction =
      ((desk.approve accounts instruction).map ApprovedTransfer.unsignZeros).mapError
        Rejection.unsignZeros := by
  rw [approve_eq, approve_eq]
  cases Instruction.read instruction with
  | error fault => rfl
  | ok order =>
    simp only [Parties.find_unsignZeros]
    cases Parties.find order accounts with
    | error faults => rfl
    | ok parties =>
      simp only [Except.map, TransferOrder.approve_unsignZeros]
      cases order.approve desk.supported parties <;> rfl

/-- The sign of a zero balance makes no difference to the answer but where the balance is told. -/
theorem process_unsignZeros (desk : Desk) (accounts : List Account) (instruction : List Char) :
    desk.process (accounts.map Account.unsignZero) instruction =
      (desk.process accounts instruction).unsignZeros := by
  have hsame := desk.approve_unsignZeros accounts instruction
  cases happrove : desk.approve accounts instruction with
  | error rejection =>
    rw [happrove] at hsame
    rw [process_of_rejected hsame, process_of_rejected happrove]
    rfl
  | ok t =>
    rw [happrove] at hsame
    obtain ⟨-, hacceptable, -⟩ := approve_eq_ok_iff.mp happrove
    have hexecute : desk.execute t.unsignZeros = (desk.execute t).unsignZeros :=
      t.execute_unsignZeros desk.policy desk.today desk.gateway hacceptable.amount_pos
        hacceptable.funds
    have hamount : t.order.amount.unsignZero = t.order.amount :=
      Decimal.unsignZero_of_coeff_ne_zero fun hzero =>
        hacceptable.amount_pos.ne' (Decimal.coeff_eq_zero_iff.mp hzero)
    have hsummary := Summary.ofExecution_unsignZeros t.currency (desk.execute t).execution accounts
      hamount
    rw [process_of_approved hsame, process_of_approved happrove, hexecute]
    show Outcome.mk (.ok (.ofExecution t.order t.currency (desk.execute t).execution.unsignZeros
      (accounts.map Account.unsignZero))) (desk.execute t).gatewayCalls = _
    rw [hsummary]
    rfl

end Desk

/-! ## Sessions -/

lemma Outcome.accountsAfter_unsignZeros (outcome : Outcome) (accounts : List Account) :
    outcome.unsignZeros.accountsAfter (accounts.map Account.unsignZero) =
      (outcome.accountsAfter accounts).map Account.unsignZero := by
  obtain ⟨result, calls⟩ := outcome
  cases result with
  | error rejection => rfl
  | ok summary =>
    show (summary.accounts.map Snapshot.unsignZeros).map Snapshot.account =
      (summary.accounts.map Snapshot.account).map Account.unsignZero
    rw [List.map_map, List.map_map]
    rfl

/-- The sign of a zero balance makes no difference to a step of a session. -/
lemma SessionStep.next_unsignZeros (step : SessionStep) (accounts : List Account) :
    step.next (accounts.map Account.unsignZero) = (step.next accounts).map Account.unsignZero := by
  rw [next, outcome, Desk.process_unsignZeros, Outcome.accountsAfter_unsignZeros]
  rfl

/-- The sign of a zero balance makes no difference to a whole session. -/
theorem Session.run_unsignZeros (start : List Account) (steps : List SessionStep) :
    run (start.map Account.unsignZero) steps =
      (run start steps).map fun (outcome, after) =>
        (outcome.unsignZeros, after.map Account.unsignZero) := by
  induction steps generalizing start with
  | nil => rfl
  | cons step steps ih =>
    rw [run_cons, run_cons, step.next_unsignZeros, ih, SessionStep.outcome,
      Desk.process_unsignZeros]
    rfl

/-! ## Accounts without such a zero -/

/-- The signs are gone after the first time. -/
lemma Account.map_unsignZero_map_unsignZero (accounts : List Account) :
    (accounts.map unsignZero).map unsignZero = accounts.map unsignZero := by
  rw [List.map_map]
  refine List.map_congr_left fun a _ => ?_
  show (⟨a.id, a.balance.unsignZero.unsignZero, a.currency⟩ : Account) = _
  rw [Decimal.unsignZero_unsignZero]
  rfl

/-- Accounts without such a zero stay as they are. -/
lemma Account.map_unsignZero_eq_self
    (h : ∀ a ∈ accounts, a.balance.negative = true → a.balance.magnitude ≠ 0) :
    accounts.map unsignZero = accounts := by
  refine (List.map_congr_left fun a ha => ?_).trans (List.map_id _)
  unfold unsignZero
  rw [Decimal.unsignZero_eq_self (h a ha)]
  rfl

end Remittance
