import Remittance.Account
import Remittance.Decimal.Reader
/-!
# Accounts as records of text

`AccountRecord.account` is the account that three texts stand for, or the first thing that is wrong
with them: the id, then the balance, then the currency.
-/

namespace Remittance

/-- An account as it stands in a table. -/
structure AccountRecord where
  id : String
  balance : String
  currency : String
deriving DecidableEq

/-- Why a record is no account. -/
inductive RecordFault where
  | id (text : String)
  /-- The balance is no decimal. -/
  | unreadableBalance (text : String) (account : AccountId)
  | negativeBalance (balance : Decimal) (account : AccountId)
  | currency (text : String)
deriving DecidableEq

/-- The wording of a fault. -/
def RecordFault.message : RecordFault → String
  | .id text => AccountId.faultMessage text
  | .unreadableBalance text account => s!"Invalid balance '{text}' for account {account}"
  | .negativeBalance balance account => s!"Negative balance {balance} for account {account}"
  | .currency text => Currency.faultMessage text

namespace AccountRecord

/-- The id of a record. -/
def readId (record : AccountRecord) : Except RecordFault AccountId :=
  match AccountId.ofString? record.id with
  | some id => .ok id
  | none => .error (.id record.id)

/-- The balance of a record of the account with this id. -/
def readBalance (record : AccountRecord) (id : AccountId) : Except RecordFault Decimal :=
  match Decimal.read? record.balance.toList with
  | none => .error (.unreadableBalance record.balance id)
  | some balance =>
    if balance.NonNegative then .ok balance else .error (.negativeBalance balance id)

/-- The currency of a record. -/
def readCurrency (record : AccountRecord) : Except RecordFault Currency :=
  match Currency.ofString? record.currency with
  | some currency => .ok currency
  | none => .error (.currency record.currency)

/-- The account that a record stands for. -/
def account (record : AccountRecord) : Except RecordFault Account := do
  let id ← record.readId
  let balance ← record.readBalance id
  let currency ← record.readCurrency
  return ⟨id, balance, currency⟩

end AccountRecord

end Remittance
