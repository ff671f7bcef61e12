import Remittance.FieldError
import Remittance.TransferOrder
/-!
# The parties of a transfer

An order names two accounts by their ids. `Parties.find` looks them up among the supplied accounts:
each id has to occur there exactly once. Both sides are looked up, so that both can be reported;
an order that names one account twice looks it up once.
-/

namespace Remittance

/-- The two accounts of a transfer. -/
structure Parties where
  /-- The account that the money leaves. -/
  debit : Account
  /-- The account that the money enters. -/
  credit : Account
deriving DecidableEq

/-- Why an account of an order is not among the supplied ones. -/
inductive PartyFault where
  /-- No supplied account has the id. -/
  | notFound (id : AccountId) (side : Side)
  /-- Several supplied accounts have the id. -/
  | ambiguous (id : AccountId) (occurrences : Nat)
deriving DecidableEq

namespace PartyFault

/-- The wording of a fault. -/
def message : PartyFault → String
  | .notFound id side => s!"{side.word} account '{id}' not found in supplied accounts"
  | .ambiguous id occurrences =>
    s!"account '{id}' appears {occurrences} times in supplied accounts"

/-- The code of a fault. -/
def code : PartyFault → ErrorCode
  | .notFound _ _ => .accountNotFound
  | .ambiguous _ _ => .duplicateAccount

/-- The field that a fault is reported on. -/
def field : PartyFault → String
  | .notFound _ .debit => "instruction.debit_account"
  | .notFound _ .credit => "instruction.credit_account"
  | .ambiguous _ _ => "accounts[].id"

/-- The fault as it is reported. -/
def fieldError (fault : PartyFault) : FieldError := ⟨fault.field, fault.message, fault.code⟩

end PartyFault

/-- The supplied accounts with an id. -/
def accountsWithId (accounts : List Account) (id : AccountId) : List Account :=
  accounts.filter (·.id == id)

/-- The only supplied account with an id. -/
def findAccount (accounts : List Account) (side : Side) (id : AccountId) :
    Except PartyFault Account :=
  match accountsWithId accounts id with
  | [] => .error (.notFound id side)
  | [account] => .ok account
  | several => .error (.ambiguous id several.length)

/-- The accounts of an order, or what is wrong with each of them. -/
def Parties.find (order : TransferOrder) (accounts : List Account) :
    Except (List PartyFault) Parties :=
  let debit := findAccount accounts .debit order.debitAccount
  let credit :=
    if order.IsSelfTransfer then debit else findAccount accounts .credit order.creditAccount
  match debit, credit with
  | .ok debit, .ok credit => .ok ⟨debit, credit⟩
  | .error fault, .ok _ => .error [fault]
  | .ok _, .error fault => .error [fault]
  | .error fault, .error fault' =>
    .error (if order.IsSelfTransfer then [fault] else [fault, fault'])

end Remittance
