import Remittance.Decimal.Arithmetic
import Remittance.Decimal.Printer
/-!
# Accounts

* `AccountId` and `Currency` are checked texts; `ofString?` builds them.
* `Account` is the state of an account before a transfer.
* `Snapshot` is its state after one, with the balance that it had before.
-/

namespace Remittance

/-! ## Account ids -/

/-- The characters of an account id. -/
def AccountId.isAllowed (c : Char) : Bool := c.isAlphanum || c == '-' || c == '.' || c == '@'

/-- The name of an account: one or more allowed characters. -/
structure AccountId where
  /-- The id as it is written. -/
  text : String
  nonempty : text.toList ≠ []
  allowed : text.toList.all AccountId.isAllowed = true
deriving DecidableEq

namespace AccountId

/-- The account id with this text, if it is one. -/
def ofString? (text : String) : Option AccountId :=
  if h : text.toList ≠ [] ∧ text.toList.all isAllowed = true then some ⟨text, h.1, h.2⟩ else none

instance : ToString AccountId := ⟨AccountId.text⟩

/-- What is said of a text that is no account id. -/
def faultMessage (text : String) : String :=
  s!"invalid account id '{text}': only letters, digits, '-', '.' and '@' are allowed"

end AccountId

/-! ## Currencies -/

/-- A currency code: three capital letters. -/
structure Currency where
  /-- The code as it is written. -/
  code : String
  length_eq : code.toList.length = 3
  capitals : code.toList.all Char.isUpper = true
deriving DecidableEq

namespace Currency

/-- The currency with this code, if it is one. -/
def ofString? (code : String) : Option Currency :=
  if h : code.toList.length = 3 ∧ code.toList.all Char.isUpper = true then some ⟨code, h.1, h.2⟩
  else none

instance : ToString Currency := ⟨Currency.code⟩

/-- What is said of a text that is no currency code. -/
def faultMessage (text : String) : String :=
  s!"invalid currency '{text}': expected exactly 3 uppercase letters"

/-- The naira. -/
def ngn : Currency := ⟨"NGN", by decide, by decide⟩

/-- The dollar of the United States. -/
def usd : Currency := ⟨"USD", by decide, by decide⟩

/-- The pound sterling. -/
def gbp : Currency := ⟨"GBP", by decide, by decide⟩

/-- The cedi. -/
def ghs : Currency := ⟨"GHS", by decide, by decide⟩

end Currency

/-! ## Accounts and snapshots -/

/-- An account as it is supplied. -/
structure Account where
  id : AccountId
  balance : Decimal
  currency : Currency
deriving DecidableEq

/-- An account after a transfer. -/
structure Snapshot where
  id : AccountId
  /-- The balance after the transfer. -/
  balance : Decimal
  /-- The balance before the transfer. -/
  balanceBefore : Decimal
  currency : Currency
deriving DecidableEq

namespace Account

/-- The snapshot of an account whose balance is now `balance`. -/
def withBalance (a : Account) (balance : Decimal) : Snapshot :=
  ⟨a.id, balance, a.balance, a.currency⟩

/-- The snapshot of an account that no money entered or left. -/
def unchanged (a : Account) : Snapshot := a.withBalance a.balance

end Account

namespace Snapshot

/-- The account as it is after the transfer. -/
def account (s : Snapshot) : Account := ⟨s.id, s.balance, s.currency⟩

/-- How much the balance grew, where the difference fits. -/
def delta? (s : Snapshot) : Option Decimal := s.balance.sub? s.balanceBefore

end Snapshot

end Remittance
