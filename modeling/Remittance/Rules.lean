import Remittance.Parties
/-!
# The rules of a transfer

An order between two accounts is approved when five rules hold, and is refused with every rule that
it breaks, in this order:

1. the accounts have one currency, and it is the stated one;
2. the amount is more than zero;
3. the balance of the debit account covers the amount;
4. the accounts are different;
5. the currency is supported.
-/

namespace Remittance

/-- A rule that an order breaks. -/
inductive Breach where
  | currencyMismatch (debit credit : Currency) (stated : Option Currency)
  | invalidAmount (amount : Decimal)
  | insufficientFunds (account : AccountId) (available requested : Decimal)
  | selfTransfer (account : AccountId)
  | unsupportedCurrency (currency : Currency)
deriving DecidableEq

namespace Breach

/-- The wording of a breach. -/
def message : Breach → String
  | .currencyMismatch debit credit stated =>
    s!"currency mismatch: debit account is {debit}, credit account is {credit}" ++
      match stated with
      | some currency => s!", instruction is {currency}"
      | none => ""
  | .invalidAmount amount => s!"amount must be greater than zero, got {amount}"
  | .insufficientFunds account available requested =>
    s!"insufficient funds in account '{account}': available {available}, requested {requested}"
  | .selfTransfer account => s!"debit and credit account cannot be the same ('{account}')"
  | .unsupportedCurrency currency => s!"currency {currency} is not supported"

/-- The code of a breach. -/
def code : Breach → ErrorCode
  | .currencyMismatch _ _ _ => .currencyMismatch
  | .invalidAmount _ => .invalidAmount
  | .insufficientFunds _ _ _ => .insufficientFunds
  | .selfTransfer _ => .selfTransfer
  | .unsupportedCurrency _ => .unsupportedCurrency

/-- The field that a breach is reported on. -/
def field : Breach → String
  | .currencyMismatch _ _ _ => "accounts[].currency"
  | .insufficientFunds _ _ _ => "accounts[].balance"
  | .invalidAmount _ | .selfTransfer _ | .unsupportedCurrency _ => "instruction"

/-- The breach as it is reported. -/
def fieldError (breach : Breach) : FieldError := ⟨breach.field, breach.message, breach.code⟩

end Breach

/-- The currencies that are supported where nothing else is said. -/
def Currency.defaults : List Currency := [.ngn, .usd, .gbp, .ghs]

/-- The currencies of a list, each once, in the order in which they first stand in it. -/
def Currency.distinct : List Currency → List Currency
  | [] => []
  | currency :: currencies => currency :: (distinct currencies).filter (· ≠ currency)

/-- The currency is among the supported ones; an empty list supports every currency. -/
def Currency.IsSupported (supported : List Currency) (currency : Currency) : Prop :=
  supported = [] ∨ currency ∈ supported

instance (supported : List Currency) (currency : Currency) :
    Decidable (currency.IsSupported supported) :=
  inferInstanceAs (Decidable (supported = [] ∨ currency ∈ supported))

namespace TransferOrder

/-- The accounts have one currency, and where the order states one, it is theirs. -/
def CurrenciesAgree (order : TransferOrder) (parties : Parties) : Prop :=
  parties.debit.currency = parties.credit.currency ∧
    ∀ stated ∈ order.currency, stated = parties.debit.currency ∧ stated = parties.credit.currency

instance (order : TransferOrder) (parties : Parties) : Decidable (order.CurrenciesAgree parties) :=
  inferInstanceAs (Decidable (_ ∧ _))

/-- The currency of the amount: the stated one, or else that of the debit account. -/
def currencyOf (order : TransferOrder) (parties : Parties) : Currency :=
  order.currency.getD parties.debit.currency

/-- The rules that an order between two accounts breaks. -/
def breaches (supported : List Currency) (order : TransferOrder) (parties : Parties) :
    List Breach :=
  (if order.CurrenciesAgree parties then []
    else [.currencyMismatch parties.debit.currency parties.credit.currency order.currency]) ++
  (if order.amount.Positive then [] else [.invalidAmount order.amount]) ++
  (if parties.debit.balance < order.amount then
    [.insufficientFunds parties.debit.id parties.debit.balance order.amount] else []) ++
  (if parties.debit.id = parties.credit.id then [.selfTransfer parties.debit.id] else []) ++
  (if (order.currencyOf parties).IsSupported supported then []
    else [.unsupportedCurrency (order.currencyOf parties)])

end TransferOrder

/-- An order whose accounts are known. -/
structure ApprovedTransfer where
  order : TransferOrder
  parties : Parties
  currency : Currency
deriving DecidableEq

/-- Approves an order that breaks no rule. -/
def TransferOrder.approve (supported : List Currency) (order : TransferOrder) (parties : Parties) :
    Except (List Breach) ApprovedTransfer :=
  match order.breaches supported parties with
  | [] => .ok ⟨order, parties, order.currencyOf parties⟩
  | breaches => .error breaches

end Remittance
