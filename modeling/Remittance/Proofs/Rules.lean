import Remittance.Proofs.Decimal.Value
import Remittance.Rules
/-!
# Which rules an order breaks

The five rules of a transfer, each stated on its own over the numbers that the decimals stand for
(`Rule.Holds`). An order breaks exactly the rules that do not hold, and is told of them in the order
of `Rule.all`, each once (`TransferOrder.breaches_eq`).
-/

namespace Remittance

/-- The rules of a transfer. -/
inductive Rule where
  | oneCurrency
  | positiveAmount
  | sufficientFunds
  | twoAccounts
  | supportedCurrency
deriving DecidableEq

namespace Rule

/-- Every rule, in the order in which breaches are told. -/
def all : List Rule :=
  [.oneCurrency, .positiveAmount, .sufficientFunds, .twoAccounts, .supportedCurrency]

/-- What a rule asks of an order between two accounts. -/
def Holds (supported : List Currency) (order : TransferOrder) (parties : Parties) : Rule → Prop
  | .oneCurrency => parties.debit.currency = parties.credit.currency ∧
      ∀ stated ∈ order.currency, stated = parties.debit.currency
  | .positiveAmount => 0 < order.amount.toRat
  | .sufficientFunds => order.amount.toRat ≤ parties.debit.balance.toRat
  | .twoAccounts => parties.debit.id ≠ parties.credit.id
  | .supportedCurrency => supported = [] ∨ order.currency.getD parties.debit.currency ∈ supported

instance (supported : List Currency) (order : TransferOrder) (parties : Parties) (rule : Rule) :
    Decidable (rule.Holds supported order parties) :=
  match rule with
  | .oneCurrency => inferInstanceAs (Decidable (_ ∧ _))
  | .positiveAmount => inferInstanceAs (Decidable (0 < order.amount.toRat))
  | .sufficientFunds => inferInstanceAs (Decidable (_ ≤ parties.debit.balance.toRat))
  | .twoAccounts => inferInstanceAs (Decidable (¬ _ = _))
  | .supportedCurrency => inferInstanceAs (Decidable (_ ∨ _))

/-- What an order that breaks a rule is told. -/
def breach (order : TransferOrder) (parties : Parties) : Rule → Breach
  | .oneCurrency =>
    .currencyMismatch parties.debit.currency parties.credit.currency order.currency
  | .positiveAmount => .invalidAmount order.amount
  | .sufficientFunds =>
    .insufficientFunds parties.debit.id parties.debit.balance order.amount
  | .twoAccounts => .selfTransfer parties.debit.id
  | .supportedCurrency => .unsupportedCurrency (order.currency.getD parties.debit.currency)

/-- The rules that do not hold, in their order. -/
def broken (supported : List Currency) (order : TransferOrder) (parties : Parties) : List Rule :=
  all.filter fun rule => ¬ rule.Holds supported order parties

lemma mem_all (rule : Rule) : rule ∈ all := by
  cases rule <;> decide

end Rule

namespace TransferOrder

variable {supported : List Currency} {order : TransferOrder} {parties : Parties}

lemma currenciesAgree_iff (supported : List Currency) :
    order.CurrenciesAgree parties ↔ Rule.oneCurrency.Holds supported order parties := by
  unfold CurrenciesAgree
  constructor
  · rintro ⟨hsame, hstated⟩
    exact ⟨hsame, fun stated h => (hstated stated h).1⟩
  · rintro ⟨hsame, hstated⟩
    exact ⟨hsame, fun stated h => ⟨hstated stated h, (hstated stated h).trans hsame⟩⟩

/-- What the first rule of a list adds to the breaches. -/
lemma map_filter_cons (rule : Rule) (rules : List Rule) :
    ((rule :: rules).filter fun r => ¬ r.Holds supported order parties).map
        (Rule.breach order parties) =
      (if rule.Holds supported order parties then [] else [rule.breach order parties]) ++
        (rules.filter fun r => ¬ r.Holds supported order parties).map
          (Rule.breach order parties) := by
  by_cases h : rule.Holds supported order parties <;> simp [h]

/-- An order is told of exactly the rules that it breaks, in their order. -/
theorem breaches_eq : order.breaches supported parties =
    (Rule.broken supported order parties).map (Rule.breach order parties) := by
  have hfunds : parties.debit.balance < order.amount ↔
      ¬ Rule.sufficientFunds.Holds supported order parties := by
    rw [Decimal.lt_iff_toRat_lt, ← not_le]
    rfl
  have htwo : parties.debit.id = parties.credit.id ↔
      ¬ Rule.twoAccounts.Holds supported order parties := not_not.symm
  have hamount : order.amount.Positive ↔ Rule.positiveAmount.Holds supported order parties :=
    Decimal.positive_iff
  have hsupported : (order.currencyOf parties).IsSupported supported ↔
      Rule.supportedCurrency.Holds supported order parties := Iff.rfl
  rw [Rule.broken, Rule.all]
  simp only [map_filter_cons]
  unfold breaches
  simp only [currenciesAgree_iff supported, hamount, hfunds, htwo, hsupported, ite_not,
    List.filter_nil, List.map_nil, List.append_nil, List.append_assoc]
  rfl

/-- An order is approved just when every rule holds. -/
lemma approve_eq_ok_iff {transfer : ApprovedTransfer} :
    order.approve supported parties = .ok transfer ↔
      (∀ rule : Rule, rule.Holds supported order parties) ∧
        transfer = ⟨order, parties, order.currencyOf parties⟩ := by
  have hnone : order.breaches supported parties = [] ↔
      ∀ rule : Rule, rule.Holds supported order parties := by
    simp [breaches_eq, Rule.broken, Rule.mem_all]
  rw [← hnone]
  unfold approve
  split
  · next h => simp [h, eq_comm]
  · next h =>
    have hne : order.breaches supported parties ≠ [] := h
    simp [hne]

/-- An order that is refused is told of the rules that it breaks. -/
lemma approve_eq_error_iff {breaches : List Breach} :
    order.approve supported parties = .error breaches ↔
      (Rule.broken supported order parties).map (Rule.breach order parties) = breaches ∧
        breaches ≠ [] := by
  rw [← breaches_eq]
  unfold approve
  split <;> grind

end TransferOrder

end Remittance
