import Remittance.Account
import Remittance.FieldError
/-!
# Accounts before they are checked

An entry names an account by texts that nobody has checked. It is an account when its id and its
currency are well formed and its balance is not negative.

* `AccountEntry.faults` lists what is wrong with an entry, in the order of its fields.
* `AccountEntry.account?` is the account that an entry without faults stands for.
-/

namespace Remittance

/-- An account whose fields are not checked. -/
structure AccountEntry where
  id : String
  balance : Decimal
  currency : String
deriving DecidableEq

/-- What is wrong with an entry. -/
inductive EntryFault where
  | id (text : String)
  | balance (value : Decimal)
  | currency (text : String)
deriving DecidableEq

namespace EntryFault

/-- The field at fault. -/
def field : EntryFault → String
  | .id _ => "id"
  | .balance _ => "balance"
  | .currency _ => "currency"

/-- The wording of a fault. -/
def message : EntryFault → String
  | .id text => AccountId.faultMessage text
  | .balance value => s!"balance must not be negative, got {value}"
  | .currency text => Currency.faultMessage text

/-- The fault as it is reported of the entry at this position. -/
def fieldError (position : Nat) (fault : EntryFault) : FieldError :=
  ⟨s!"accounts[{position}].{fault.field}", fault.message, .invalidField⟩

end EntryFault

namespace AccountEntry

/-- The id is well formed. -/
def idFaults (entry : AccountEntry) : List EntryFault :=
  if (AccountId.ofString? entry.id).isSome then [] else [.id entry.id]

/-- The balance is not negative. -/
def balanceFaults (entry : AccountEntry) : List EntryFault :=
  if entry.balance.NonNegative then [] else [.balance entry.balance]

/-- The currency is well formed. -/
def currencyFaults (entry : AccountEntry) : List EntryFault :=
  if (Currency.ofString? entry.currency).isSome then [] else [.currency entry.currency]

/-- Everything that is wrong with an entry. -/
def faults (entry : AccountEntry) : List EntryFault :=
  entry.idFaults ++ entry.balanceFaults ++ entry.currencyFaults

/-- The account that an entry stands for, if its id and its currency are well formed and its
balance is not negative. -/
def account? (entry : AccountEntry) : Option Account := do
  let id ← AccountId.ofString? entry.id
  let currency ← Currency.ofString? entry.currency
  if entry.balance.NonNegative then some ⟨id, entry.balance, currency⟩ else none

end AccountEntry

/-- The entry that an account is written as. -/
def Account.entry (account : Account) : AccountEntry :=
  ⟨account.id.text, account.balance, account.currency.code⟩

end Remittance
