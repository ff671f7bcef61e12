import Remittance.Proofs.Desk.Approval
/-!
# What the list of supported currencies decides

A desk lists each of its currencies once, in the order in which they are first named
(`Currency.distinct_iff`). How often a currency is named and in which order makes no difference to
any answer: two lists give the same answers just when they support the same currencies
(`Desk.process_sees_supported_set`).
-/

namespace Remittance

namespace Currency

/-- The currencies of a list, each once, in the order in which they first stand in it. -/
structure ListsOnce (currencies listed : List Currency) : Prop where
  nodup : listed.Nodup
  mem_iff : ∀ currency, currency ∈ listed ↔ currency ∈ currencies
  ordered : listed.Pairwise fun a b => currencies.idxOf a < currencies.idxOf b

variable {currencies listed listed' : List Currency} {currency : Currency}

lemma mem_distinct : currency ∈ distinct currencies ↔ currency ∈ currencies := by
  induction currencies with
  | nil => rfl
  | cons first others ih =>
    rw [distinct, List.mem_cons, List.mem_cons, List.mem_filter, ih, decide_eq_true_eq]
    by_cases hfirst : currency = first
    · simp [hfirst]
    · simp [hfirst]

/-- One more currency is listed only if it was not listed before. -/
lemma distinct_concat (currencies : List Currency) (currency : Currency) :
    distinct (currencies ++ [currency]) =
      if currency ∈ currencies then distinct currencies else distinct currencies ++ [currency] := by
  induction currencies with
  | nil => rfl
  | cons first others ih =>
    rw [List.cons_append, distinct, distinct, ih]
    by_cases hfirst : currency = first
    · -- the filter takes the first currency away again behind itself
      have hold : currency ∈ first :: others := hfirst ▸ List.mem_cons_self
      rw [if_pos hold]
      split
      · rfl
      · simp [hfirst]
    · have hmem : currency ∈ first :: others ↔ currency ∈ others := by simp [hfirst]
      simp only [hmem]
      split
      · rfl
      · simp [hfirst]

/-- A new currency is listed behind all others. -/
lemma ListsOnce.concat (h : ListsOnce currencies listed) (hnew : currency ∉ currencies) :
    ListsOnce (currencies ++ [currency]) (listed ++ [currency]) := by
  have hlisted : currency ∉ listed := by
    rw [h.mem_iff]
    exact hnew
  refine ⟨?_, ?_, ?_⟩
  · rw [← List.concat_eq_append]
    exact h.nodup.concat hlisted
  · intro other
    rw [List.mem_append, List.mem_append, h.mem_iff]
  · rw [List.pairwise_append]
    refine ⟨?_, List.pairwise_singleton _ _, ?_⟩
    · apply h.ordered.imp_of_mem
      intro a b ha hb hlt
      rw [h.mem_iff] at ha hb
      rw [List.idxOf_append_of_mem ha, List.idxOf_append_of_mem hb]
      exact hlt
    · intro a ha b hb
      rw [h.mem_iff] at ha
      rw [List.mem_singleton] at hb
      rw [hb, List.idxOf_append_of_mem ha, List.idxOf_append_of_notMem hnew]
      have hindex : currencies.idxOf a < currencies.length := List.idxOf_lt_length_of_mem ha
      omega

/-- A currency that was listed before changes nothing. -/
lemma ListsOnce.concat_of_mem (h : ListsOnce currencies listed) (hold : currency ∈ currencies) :
    ListsOnce (currencies ++ [currency]) listed := by
  refine ⟨h.nodup, ?_, ?_⟩
  · intro other
    rw [h.mem_iff, List.mem_append, List.mem_singleton]
    constructor
    · exact Or.inl
    · intro hother
      rcases hother with hmem | heq
      · exact hmem
      · rw [heq]
        exact hold
  · apply h.ordered.imp_of_mem
    intro a b ha hb hlt
    rw [h.mem_iff] at ha hb
    rw [List.idxOf_append_of_mem ha, List.idxOf_append_of_mem hb]
    exact hlt

lemma listsOnce_distinct (currencies : List Currency) :
    ListsOnce currencies (distinct currencies) := by
  induction currencies using List.reverseRecOn with
  | nil => exact ⟨List.nodup_nil, fun _ => Iff.rfl, List.Pairwise.nil⟩
  | append_singleton currencies currency ih =>
    rw [distinct_concat]
    split
    · next hold => exact ih.concat_of_mem hold
    · next hnew => exact ih.concat hnew

/-- There is only one such list. -/
lemma ListsOnce.unique (h : ListsOnce currencies listed) (h' : ListsOnce currencies listed') :
    listed = listed' := by
  have hperm : listed.Perm listed' := by
    rw [List.perm_ext_iff_of_nodup h.nodup h'.nodup]
    intro currency
    rw [h.mem_iff, h'.mem_iff]
  apply hperm.eq_of_pairwise _ h.ordered h'.ordered
  intro a b _ _ hlt hgt
  omega

lemma distinct_iff : listed = distinct currencies ↔ ListsOnce currencies listed := by
  constructor
  · intro h
    rw [h]
    exact listsOnce_distinct currencies
  · intro h
    exact h.unique (listsOnce_distinct currencies)

/-- Two lists with the same members support the same currencies. -/
lemma isSupported_congr {supported supported' : List Currency}
    (h : ∀ currency, currency ∈ supported ↔ currency ∈ supported') (currency : Currency) :
    currency.IsSupported supported ↔ currency.IsSupported supported' := by
  have hempty : supported = [] ↔ supported' = [] := by
    rw [List.eq_nil_iff_forall_not_mem, List.eq_nil_iff_forall_not_mem]
    simp only [h]
  unfold IsSupported
  rw [hempty, h]

end Currency

section
variable {supported supported' : List Currency}

/-- The list is only asked whether it supports the currency of an order. -/
lemma TransferOrder.approve_supported_congr
    (h : ∀ currency : Currency, currency.IsSupported supported ↔ currency.IsSupported supported')
    (order : TransferOrder) (parties : Parties) :
    order.approve supported parties = order.approve supported' parties := by
  have hbreaches : order.breaches supported parties = order.breaches supported' parties := by
    unfold breaches
    simp only [h]
  unfold approve
  rw [hbreaches]

namespace Desk

lemma process_supported_congr
    (h : ∀ currency : Currency, currency.IsSupported supported ↔ currency.IsSupported supported')
    (policy : PendingPolicy) (today : Date) (gateway : Gateway) (accounts : List Account)
    (instruction : List Char) :
    (Desk.mk supported policy today gateway).process accounts instruction =
      (Desk.mk supported' policy today gateway).process accounts instruction := by
  have happrove : (Desk.mk supported policy today gateway).approve accounts instruction =
      (Desk.mk supported' policy today gateway).approve accounts instruction := by
    simp only [approve_eq, TransferOrder.approve_supported_congr h]
  unfold process
  rw [happrove]
  rfl

end Desk

end

/-! ## One unit of a currency -/

/-- An account that holds one unit of a currency. -/
def Currency.probeDebit (currency : Currency) : Account :=
  ⟨⟨"A", by decide, by decide⟩, { Decimal.zero with magnitude := 1, magnitude_lt := by decide },
    currency⟩

/-- An empty account in the same currency. -/
def Currency.probeCredit (currency : Currency) : Account :=
  ⟨⟨"B", by decide, by decide⟩, .zero, currency⟩

/-- The order that moves the unit. -/
def Currency.probeOrder (currency : Currency) : TransferOrder :=
  ⟨.debit, currency.probeDebit.id, currency.probeCredit.id, currency.probeDebit.balance, none, none⟩

section
variable {supported : List Currency} {currency : Currency}

/-- The order breaks no rule but that its currency may not be supported. -/
lemma Currency.acceptable_probeOrder (h : currency.IsSupported supported) :
    currency.probeOrder.Acceptable supported [currency.probeDebit, currency.probeCredit]
      ⟨currency.probeDebit, currency.probeCredit⟩ := by
  refine ⟨⟨?_, rfl, rfl⟩, ⟨?_, rfl, rfl⟩, rfl, ?_, ?_, le_refl _, ?_, h⟩
  · exact List.mem_cons_self
  · exact List.mem_cons_of_mem _ List.mem_cons_self
  · intro stated hstated
    cases hstated
  · rw [← Decimal.positive_iff]
    show (0 : ℤ) < 1
    omega
  · intro hid
    have htext : "A" = "B" := congrArg AccountId.text hid
    exact absurd htext (by decide)

/-- One unit of a currency is moved by the desks that support the currency, and by no others. -/
lemma Desk.exists_result_probe (policy : PendingPolicy) (today : Date) (gateway : Gateway) :
    (∃ summary, ((Desk.mk supported policy today gateway).process
        [currency.probeDebit, currency.probeCredit] "DEBIT A 1; CREDIT B 1".toList).result =
      .ok summary) ↔ currency.IsSupported supported := by
  have hread : Instruction.read "DEBIT A 1; CREDIT B 1".toList = .ok currency.probeOrder := by rfl
  constructor
  · intro haccepted
    obtain ⟨summary, hsummary⟩ := haccepted
    obtain ⟨t, happrove, -⟩ := process_eq_ok_iff.mp hsummary
    obtain ⟨-, hacceptable, -⟩ := approve_eq_ok_iff.mp happrove
    have hcurrency : t.parties.debit.currency = currency := by
      have hmem := hacceptable.debit_only.mem
      rw [List.mem_pair] at hmem
      rcases hmem with h | h <;> rw [h] <;> rfl
    show supported = [] ∨ currency ∈ supported
    rw [← hcurrency]
    exact hacceptable.supported_currency
  · intro hsupported
    have happrove : (Desk.mk supported policy today gateway).approve
        [currency.probeDebit, currency.probeCredit] "DEBIT A 1; CREDIT B 1".toList =
          .ok ⟨currency.probeOrder, ⟨currency.probeDebit, currency.probeCredit⟩, currency⟩ := by
      rw [approve_eq_ok_iff]
      exact ⟨hread, Currency.acceptable_probeOrder hsupported, rfl⟩
    exact ⟨_, process_eq_ok_iff.mpr ⟨_, happrove, rfl⟩⟩

end

/-! ## The set of supported currencies -/

namespace Desk

/-- The list that a desk makes of its supported currencies is the only one that has each of them once,
in the order in which they are first named. Two lists with the same members give the same answers to
every instruction on all accounts, whatever the policy, the day and the gateway are, and conversely
lists that give the same answers support the same currencies. -/
theorem process_sees_supported_set :
    (∀ currencies listed : List Currency,
      listed = Currency.distinct currencies ↔ Currency.ListsOnce currencies listed) ∧
    ∀ supported supported' : List Currency,
      ((∀ currency, currency ∈ supported ↔ currency ∈ supported') →
        ∀ policy today gateway accounts instruction,
          (Desk.mk supported policy today gateway).process accounts instruction =
            (Desk.mk supported' policy today gateway).process accounts instruction ∧
          (Desk.ofSettings supported policy today gateway).process accounts instruction =
            (Desk.ofSettings supported' policy today gateway).process accounts instruction) ∧
      ((∀ policy today gateway accounts instruction,
          (Desk.mk supported policy today gateway).process accounts instruction =
            (Desk.mk supported' policy today gateway).process accounts instruction) →
        ∀ currency : Currency,
          currency.IsSupported supported ↔ currency.IsSupported supported') := by
  refine ⟨fun _ _ => Currency.distinct_iff, fun supported supported' => ⟨?_, ?_⟩⟩
  · intro hsame policy today gateway accounts instruction
    have hlisted : ∀ currency,
        currency ∈ Currency.distinct supported ↔ currency ∈ Currency.distinct supported' := by
      intro currency
      rw [Currency.mem_distinct, Currency.mem_distinct, hsame]
    constructor
    · exact process_supported_congr (Currency.isSupported_congr hsame) policy today gateway
        accounts instruction
    · exact process_supported_congr (Currency.isSupported_congr hlisted) policy today gateway
        accounts instruction
  · intro hanswers currency
    let day : Date := ⟨2030, 6, 15, by decide, by decide, by decide⟩
    rw [← exists_result_probe .hold day .acceptAll, ← exists_result_probe .hold day .acceptAll,
      hanswers]

/-- The same three currencies in two orders, one of them named twice. -/
theorem process_sees_supported_set_named_twice :
    Currency.ListsOnce [.ngn, .usd, .ngn, .gbp] [.ngn, .usd, .gbp] ∧
    (∀ currency, currency ∈ [Currency.ngn, .usd, .ngn, .gbp] ↔
      currency ∈ [Currency.gbp, .ngn, .usd]) ∧
    ∀ policy today gateway accounts instruction,
      (Desk.mk [.ngn, .usd, .ngn, .gbp] policy today gateway).process accounts instruction =
        (Desk.mk [.gbp, .ngn, .usd] policy today gateway).process accounts instruction := by
  have hsame : ∀ currency, currency ∈ [Currency.ngn, .usd, .ngn, .gbp] ↔
      currency ∈ [Currency.gbp, .ngn, .usd] := by
    intro currency
    simp only [List.mem_cons, List.not_mem_nil, or_false]
    tauto
  obtain ⟨hlisted, hanswers⟩ := process_sees_supported_set
  have hkept : [Currency.ngn, .usd, .gbp] = Currency.distinct [.ngn, .usd, .ngn, .gbp] := by
    decide
  refine ⟨(hlisted _ _).mp hkept, hsame, ?_⟩
  intro policy today gateway accounts instruction
  exact ((hanswers _ _).1 hsame policy today gateway accounts instruction).1

end Desk

end Remittance
