import Mathlib.Algebra.Order.BigOperators.Group.List
import Remittance.Proofs.Session.Invariant
/-!
# Exact accounting while the money supply fits

When all the money of every currency, written with the longest fraction in use, has a coefficient of
ninety-six bits (`SupplyFits`), no sum has to be rounded and none overflows. Every step keeps this,
and accounts for each coin: what the accounts hold and what was reserved is what they held at the
start (`Session.money_accounted_for`).
-/

namespace Remittance

/-- What the accounts of a currency hold together. -/
def total (currency : Currency) (accounts : List Account) : ℚ :=
  ((accounts.filter fun a => a.currency = currency).map fun a => a.balance.toRat).sum

/-- What an account adds to the total of a currency. -/
def Account.share (currency : Currency) (a : Account) : ℚ :=
  if a.currency = currency then a.balance.toRat else 0

/-- No account has debts or more than `scale` places, and the money of no currency exceeds what
ninety-six bits can count in units of the last of these places. -/
structure SupplyFits (scale : ℕ) (accounts : List Account) : Prop where
  nonNegative : ∀ a ∈ accounts, a.balance.NonNegative
  scale_le : ∀ a ∈ accounts, a.balance.scale ≤ scale
  supply_lt : ∀ currency, total currency accounts * 10 ^ scale < 2 ^ 96

/-- The amount that is set aside by a transfer in the currency: that of one which is scheduled by a
desk that reserves it. -/
def Outcome.reserved (outcome : Outcome) (policy : PendingPolicy) (currency : Currency) : ℚ :=
  match outcome.result with
  | .error _ => 0
  | .ok summary =>
    if summary.status = .pending ∧ policy = .reserveDebit ∧ summary.currency = currency then
      summary.amount.toRat
    else 0

/-- What the steps of a session set aside together. -/
def Session.reserved (currency : Currency) (start : List Account) (steps : List SessionStep) : ℚ :=
  (List.zipWith (fun step result => result.1.reserved step.desk.policy currency) steps
    (run start steps)).sum

/-- If the outcome is a failed transfer, then the gateway of the step was asked and refused it. -/
def SessionStep.FailsOnlyByGateway (step : SessionStep) (outcome : Outcome) : Prop :=
  ∀ summary, outcome.result = .ok summary → summary.status = .failed →
    ∃ order fault, Instruction.read step.instruction = .ok order ∧
      step.desk.gateway order = .error fault ∧ outcome.gatewayCalls = 1 ∧
      summary.reason = fault.message ∧ summary.code = fault.code

/-! ## Totals -/

/-- A new balance changes the share of an account in its own currency only. -/
lemma Account.share_withBalance_sub (currency : Currency) (a : Account) (balance : Decimal) :
    (a.withBalance balance).account.share currency - a.share currency =
      if a.currency = currency then balance.toRat - a.balance.toRat else 0 := by
  show (if a.currency = currency then balance.toRat else 0) -
    (if a.currency = currency then a.balance.toRat else 0) = _
  split_ifs
  · rfl
  · exact sub_zero 0

lemma total_eq (currency : Currency) (accounts : List Account) :
    total currency accounts = (accounts.map (Account.share currency)).sum := by
  have hsplit := List.sum_map_ite (fun a : Account => a.currency = currency)
    (fun a => a.balance.toRat) (fun _ => 0) accounts
  unfold total Account.share
  rw [hsplit]
  simp

/-! ## One transfer -/

namespace Desk.CarriesOut

variable {desk : Desk} {accounts : List Account} {instruction : List Char} {t : ApprovedTransfer}
  {settlement : Settlement} {scale : ℕ}

/-- The two accounts of a transfer hold a part of the total. -/
lemma balance_add_balance_le_total (h : desk.CarriesOut accounts instruction t settlement)
    (hnonNegative : ∀ a ∈ accounts, a.balance.NonNegative) :
    t.parties.debit.balance.toRat + t.parties.credit.balance.toRat ≤
      total t.parties.debit.currency accounts := by
  have hacceptable := h.acceptable
  rw [total_eq, ← hacceptable.debit_only.sum_ite t.parties.debit.balance.toRat,
    ← hacceptable.credit_only.sum_ite t.parties.credit.balance.toRat, ← List.sum_map_add]
  apply List.sum_le_sum
  intro a ha
  by_cases hdebit : a.id = t.order.debitAccount
  · have hcredit : a.id ≠ t.order.creditAccount := hdebit ▸ hacceptable.two_accounts
    obtain rfl := hacceptable.debit_only.unique ha hdebit
    rw [if_pos hdebit, if_neg hcredit, add_zero, Account.share, if_pos rfl]
  · by_cases hcredit : a.id = t.order.creditAccount
    · obtain rfl := hacceptable.credit_only.unique ha hcredit
      rw [if_neg hdebit, if_pos hcredit, zero_add, Account.share,
        if_pos hacceptable.same_currency.symm]
    · have hbalance := Decimal.nonNegative_iff.mp (hnonNegative a ha)
      rw [if_neg hdebit, if_neg hcredit, add_zero, Account.share]
      split_ifs
      · exact hbalance
      · exact le_rfl

/-- While the supply fits, a decimal stands for both new balances. -/
lemma representable (h : desk.CarriesOut accounts instruction t settlement)
    (hscale : scale ≤ Decimal.maxScale) (hfits : SupplyFits scale accounts)
    (hamount : t.order.amount.scale ≤ scale) :
    Decimal.Representable (t.parties.debit.balance.toRat - t.order.amount.toRat) ∧
      Decimal.Representable (t.parties.credit.balance.toRat + t.order.amount.toRat) := by
  have hacceptable := h.acceptable
  have hdebit := hacceptable.debit_only.mem
  have hcredit := hacceptable.credit_only.mem
  have hcreditNonNegative := Decimal.nonNegative_iff.mp (hfits.nonNegative _ hcredit)
  have hpositive := hacceptable.amount_pos
  have hfunds := hacceptable.funds
  have hbound : t.parties.debit.balance.toRat + t.parties.credit.balance.toRat ≤
      total t.parties.debit.currency accounts := h.balance_add_balance_le_total hfits.nonNegative
  -- a number between zero and the supply has few enough units
  have hunits : ∀ q : ℚ, 0 ≤ q →
      q ≤ t.parties.debit.balance.toRat + t.parties.credit.balance.toRat →
        |q| * 10 ^ scale < Decimal.coeffBound := by
    intro q hq hle
    have hsupply := hfits.supply_lt t.parties.debit.currency
    have hcast : (Decimal.coeffBound : ℚ) = 2 ^ 96 := by
      rw [Decimal.coeffBound_eq]
      norm_num
    rw [abs_of_nonneg hq, hcast]
    calc q * 10 ^ scale
        ≤ total t.parties.debit.currency accounts * 10 ^ scale := by
          gcongr
          exact hle.trans hbound
      _ < 2 ^ 96 := hsupply
  constructor
  · rw [sub_eq_add_neg, ← Decimal.toRat_neg]
    apply Decimal.representable_add_of_fits (hfits.scale_le _ hdebit) (by simpa using hamount)
      hscale
    rw [Decimal.toRat_neg]
    apply hunits <;> linarith
  · apply Decimal.representable_add_of_fits (hfits.scale_le _ hcredit) hamount hscale
    apply hunits <;> linarith

/-- A transfer changes the total of a currency by what it changes at its own two accounts. -/
lemma total_accountsAfter (h : desk.CarriesOut accounts instruction t settlement)
    (currency : Currency) :
    total currency (settlement.execution.accountsAfter accounts) = total currency accounts +
      ((settlement.execution.debit.account.share currency - t.parties.debit.share currency) +
        (settlement.execution.credit.account.share currency -
          t.parties.credit.share currency)) := by
  have hsum := Execution.sum_report h.acceptable h.concerns (Account.share currency)
  rw [total_eq, total_eq, Execution.accountsAfter, List.map_map]
  exact hsum

/-- Where both new balances are representable, what a transfer takes from a total is what it sets
aside. -/
lemma total_add_reserved (h : desk.CarriesOut accounts instruction t settlement)
    (hdebit : Decimal.Representable (t.parties.debit.balance.toRat - t.order.amount.toRat))
    (hcredit : Decimal.Representable (t.parties.credit.balance.toRat + t.order.amount.toRat))
    (calls : ℕ) (currency : Currency) :
    total currency (settlement.execution.accountsAfter accounts) +
        Outcome.reserved
          ⟨.ok (.ofExecution t.order t.currency settlement.execution accounts), calls⟩
          desk.policy currency =
      total currency accounts := by
  have hsame := h.acceptable.same_currency
  rw [h.total_accountsAfter]
  rcases h.ending.exact h.acceptable.funds hdebit hcredit with
    ⟨debit, credit, rfl, htaken, hgiven⟩ | ⟨debit, hpolicy, rfl, htaken⟩ | ⟨hpolicy, rfl⟩ |
    ⟨fault, -, rfl⟩
  · -- what one account loses the other one gains
    simp only [Execution.settled, Account.share_withBalance_sub, htaken, hgiven, ← hsame]
    show total currency accounts + _ + 0 = _
    split_ifs <;> ring
  · simp only [Execution.scheduled, Account.share_withBalance_sub, Account.account_unchanged,
      htaken, Outcome.reserved, Summary.ofExecution, hpolicy, h.currency_eq, true_and]
    split_ifs <;> ring
  · simp [Execution.scheduled, Outcome.reserved, Summary.ofExecution, hpolicy]
  · simp [Execution.failed, Outcome.reserved, Summary.ofExecution]

/-- A transfer leaves no balance with more places than the longest one before it has. -/
lemma scale_le (h : desk.CarriesOut accounts instruction t settlement)
    (hall : ∀ a ∈ accounts, a.balance.scale ≤ scale) (hamount : t.order.amount.scale ≤ scale) :
    settlement.execution.debit.balance.scale ≤ scale ∧
      settlement.execution.credit.balance.scale ≤ scale := by
  have hdebit := hall _ h.acceptable.debit_only.mem
  have hcredit := hall _ h.acceptable.credit_only.mem
  constructor
  · rcases h.ending.debit_balance with hkept | ⟨htaken, -⟩
    · rw [hkept]
      exact hdebit
    · exact (Decimal.scale_le_of_sub? htaken).trans (max_le hdebit hamount)
  · rcases h.ending.credit_balance with hkept | hgiven
    · rw [hkept]
      exact hcredit
    · exact (Decimal.scale_le_of_add? hgiven).trans (max_le hcredit hamount)

end Desk.CarriesOut

/-! ## One step -/

lemma Outcome.reserved_nonneg {desk : Desk} {accounts : List Account} {instruction : List Char}
    (policy : PendingPolicy) (currency : Currency) :
    0 ≤ (desk.process accounts instruction).reserved policy currency := by
  rcases Desk.process_cases desk accounts instruction with
    ⟨rejection, hreject⟩ | ⟨t, settlement, hcarried, hprocess⟩
  · rw [hreject]
    exact le_rfl
  · rw [hprocess]
    unfold reserved
    simp only
    split_ifs
    · exact hcarried.acceptable.amount_pos.le
    · exact le_rfl

namespace SessionStep

variable {step : SessionStep} {accounts : List Account} {scale : ℕ}

/-- While the supply fits, a step accounts for all of the money. -/
lemma total_next (hscale : scale ≤ Decimal.maxScale) (hfits : SupplyFits scale accounts)
    (hamount : ∀ order, Instruction.read step.instruction = .ok order → order.amount.scale ≤ scale)
    (currency : Currency) :
    total currency (step.next accounts) +
        (step.outcome accounts).reserved step.desk.policy currency =
      total currency accounts := by
  rcases step.next_cases accounts with
    ⟨rejection, houtcome, hnext⟩ | ⟨t, settlement, hcarried, houtcome, hnext⟩
  · rw [hnext, houtcome]
    exact add_zero _
  · obtain ⟨hdebit, hcredit⟩ := hcarried.representable hscale hfits (hamount _ hcarried.read)
    rw [hnext, houtcome]
    exact hcarried.total_add_reserved hdebit hcredit _ currency

/-- While the supply fits, it still fits after a step. -/
lemma supplyFits_next (hscale : scale ≤ Decimal.maxScale) (hfits : SupplyFits scale accounts)
    (hamount : ∀ order, Instruction.read step.instruction = .ok order →
      order.amount.scale ≤ scale) : SupplyFits scale (step.next accounts) := by
  refine ⟨step.nonNegative_next hfits.nonNegative, ?_, ?_⟩
  · rcases step.next_cases accounts with ⟨-, -, hnext⟩ | ⟨t, settlement, hcarried, -, hnext⟩
    · rw [hnext]
      exact hfits.scale_le
    · obtain ⟨hdebit, hcredit⟩ := hcarried.scale_le hfits.scale_le (hamount _ hcarried.read)
      rw [hnext]
      exact hcarried.forall_reported hfits.scale_le hdebit hcredit
  · -- what is reserved leaves the total, which never grows
    intro currency
    have htotal := total_next hscale hfits hamount currency
    have hreserved : 0 ≤ (step.outcome accounts).reserved step.desk.policy currency :=
      Outcome.reserved_nonneg step.desk.policy currency
    have hle : total currency (step.next accounts) ≤ total currency accounts := by linarith
    calc total currency (step.next accounts) * 10 ^ scale
        ≤ total currency accounts * 10 ^ scale := by gcongr
      _ < 2 ^ 96 := hfits.supply_lt currency

/-- While the supply fits, only the gateway makes a transfer fail. -/
lemma failsOnlyByGateway (hscale : scale ≤ Decimal.maxScale) (hfits : SupplyFits scale accounts)
    (hamount : ∀ order, Instruction.read step.instruction = .ok order →
      order.amount.scale ≤ scale) : step.FailsOnlyByGateway (step.outcome accounts) := by
  intro summary hresult hfailed
  rcases step.next_cases accounts with
    ⟨rejection, houtcome, -⟩ | ⟨t, settlement, hcarried, houtcome, -⟩
  · rw [houtcome] at hresult
    contradiction
  · obtain ⟨hdebit, hcredit⟩ := hcarried.representable hscale hfits (hamount _ hcarried.read)
    rw [houtcome] at hresult ⊢
    obtain rfl := Except.ok.inj hresult
    rcases hcarried.ending.exact hcarried.acceptable.funds hdebit hcredit with
      ⟨debit, credit, rfl, -, -⟩ | ⟨debit, -, rfl, -⟩ | ⟨-, rfl⟩ | ⟨fault, hrefusal, rfl⟩
    · contradiction
    · contradiction
    · contradiction
    · exact ⟨t.order, fault, hcarried.read, hrefusal, rfl, rfl, rfl⟩

end SessionStep

/-! ## Whole sessions -/

namespace Session

variable {start : List Account} {steps : List SessionStep} {scale : ℕ}

lemma reserved_cons (currency : Currency) (start : List Account) (step : SessionStep)
    (steps : List SessionStep) :
    reserved currency start (step :: steps) =
      (step.outcome start).reserved step.desk.policy currency +
        reserved currency (step.next start) steps := by
  unfold reserved
  rw [run_cons, List.zipWith_cons_cons, List.sum_cons]

lemma total_accountsAfter (hscale : scale ≤ Decimal.maxScale) (hfits : SupplyFits scale start)
    (hamounts : ∀ step ∈ steps, ∀ order, Instruction.read step.instruction = .ok order →
      order.amount.scale ≤ scale) (currency : Currency) :
    total currency (accountsAfter start steps) + reserved currency start steps =
      total currency start := by
  -- that the supply fits is what the induction carries from one step to the next
  induction steps generalizing start with
  | nil => exact add_zero _
  | cons step steps ih =>
    rw [List.forall_mem_cons] at hamounts
    have hstep := SessionStep.total_next hscale hfits hamounts.1 currency
    have hrest := ih (SessionStep.supplyFits_next hscale hfits hamounts.1) hamounts.2
    rw [accountsAfter_cons, reserved_cons]
    linarith

lemma failsOnlyByGateway_of_mem (hscale : scale ≤ Decimal.maxScale)
    (hfits : SupplyFits scale start)
    (hamounts : ∀ step ∈ steps, ∀ order, Instruction.read step.instruction = .ok order →
      order.amount.scale ≤ scale) :
    ∀ entry ∈ steps.zip (run start steps), entry.1.FailsOnlyByGateway entry.2.1 := by
  induction steps generalizing start with
  | nil => simp
  | cons step steps ih =>
    rw [List.forall_mem_cons] at hamounts
    rw [run_cons, List.zip_cons_cons, List.forall_mem_cons]
    exact ⟨SessionStep.failsOnlyByGateway hscale hfits hamounts.1,
      ih (SessionStep.supplyFits_next hscale hfits hamounts.1) hamounts.2⟩

/-- In a session whose money supply fits, no coin is lost: at every point what the accounts hold of a
currency, together with all that was reserved so far, is what they held at the start. No balance ever
fails to be taken, so that every failure is a refusal by a gateway. -/
theorem money_accounted_for (hscale : scale ≤ 28) (hfits : SupplyFits scale start)
    (hamounts : ∀ step ∈ steps, ∀ order, Instruction.read step.instruction = .ok order →
      order.amount.scale ≤ scale) :
    (∀ done, done <+: steps → ∀ currency,
      total currency (accountsAfter start done) + reserved currency start done =
        total currency start) ∧
    ∀ entry ∈ steps.zip (run start steps), entry.1.FailsOnlyByGateway entry.2.1 := by
  constructor
  · intro done hdone currency
    apply total_accountsAfter hscale hfits
    intro step hstep
    exact hamounts step (hdone.subset hstep)
  · exact failsOnlyByGateway_of_mem hscale hfits hamounts

/-- Forty kobo of a hundred naira are paid, and ten naira are reserved for the next day. -/
theorem money_accounted_for_hundred :
    let debit : Account :=
      ⟨⟨"A", by decide, by decide⟩, ⟨false, 100, 0, by decide, by decide⟩, .ngn⟩
    let credit : Account := ⟨⟨"B", by decide, by decide⟩, .zero, .ngn⟩
    let desk := Desk.ofSettings [] .reserveDebit ⟨2030, 6, 15, by decide, by decide, by decide⟩
      .acceptAll
    let paid : SessionStep := ⟨desk, "DEBIT A 0.4; CREDIT B 0.4".toList⟩
    let scheduled : SessionStep := ⟨desk, "DEBIT A 10; CREDIT B 10; ON 2030-06-16".toList⟩
    reserved .ngn [debit, credit] [paid, scheduled] = 10 ∧
      total .ngn (accountsAfter [debit, credit] [paid, scheduled]) + 10 = 100 := by
  intro debit credit desk paid scheduled
  have hscales : ∀ step ∈ [paid, scheduled],
      ((Instruction.read step.instruction).toOption.all fun order => order.amount.scale ≤ 1) =
        true := by decide +kernel
  have hamounts : ∀ step ∈ [paid, scheduled], ∀ order,
      Instruction.read step.instruction = .ok order → order.amount.scale ≤ 1 := by
    intro step hstep order hread
    have hscale := hscales step hstep
    rw [hread] at hscale
    exact of_decide_eq_true hscale
  have hfits : SupplyFits 1 [debit, credit] := by
    refine ⟨by decide +kernel, by decide +kernel, fun currency => ?_⟩
    have hdebit : debit.balance.toRat = 100 := by decide +kernel
    have hcredit : credit.balance.toRat = 0 := by decide +kernel
    rw [total_eq]
    simp only [List.map_cons, List.map_nil, List.sum_cons, List.sum_nil, Account.share, hdebit,
      hcredit]
    split_ifs <;> norm_num
  have hreserved : reserved .ngn [debit, credit] [paid, scheduled] = 10 := by decide +kernel
  have hstart : total .ngn [debit, credit] = 100 := by decide +kernel
  obtain ⟨htotal, -⟩ := money_accounted_for (by decide) hfits hamounts
  have hend := htotal [paid, scheduled] (List.prefix_refl _) .ngn
  rw [hreserved, hstart] at hend
  exact ⟨hreserved, hend⟩

end Session

end Remittance
