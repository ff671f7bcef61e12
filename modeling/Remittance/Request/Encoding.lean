import Remittance.Decimal.Encoding
import Remittance.Json.Printer
import Remittance.Json.Record
import Remittance.Request
/-!
# Requests as JSON

A request is a record of its accounts, which are records themselves, and of its instruction.

* `Request.read` reads one from a text, or reports the one error that it finds first.
* `Request.json` writes one.
-/

namespace Remittance

/-! ## Reading -/

/-- An entry of which some fields are read. -/
structure AccountEntry.Draft where
  id : Option String
  balance : Option Decimal
  currency : Option String

/-- Account entries as records. -/
def AccountEntry.shape : Json.Shape AccountEntry.Draft AccountEntry where
  name := "AccountInput"
  fields := [
    .of "id" (·.id) (fun draft id => { draft with id := some id }) (Json.readString "a string"),
    .of "balance" (·.balance) (fun draft balance => { draft with balance := some balance })
      Decimal.reader,
    .of "currency" (·.currency) (fun draft currency => { draft with currency := some currency })
      (Json.readString "a string")]
  start := ⟨none, none, none⟩
  finish
    | ⟨none, _, _⟩ => .error "id"
    | ⟨_, none, _⟩ => .error "balance"
    | ⟨_, _, none⟩ => .error "currency"
    | ⟨some id, some balance, some currency⟩ => .ok ⟨id, balance, currency⟩

/-- A request of which some fields are read. -/
structure Request.Draft where
  accounts : Option (List AccountEntry)
  instruction : Option String

namespace Request

/-- Requests as records. -/
def shape : Json.Shape Draft Request where
  name := "PaymentRequest"
  fields := [
    .of "accounts" (·.accounts) (fun draft accounts => { draft with accounts := some accounts })
      (Json.readSequence AccountEntry.shape.read),
    .of "instruction" (·.instruction)
      (fun draft instruction => { draft with instruction := some instruction })
      (Json.readString "a string")]
  start := ⟨none, none⟩
  finish
    | ⟨none, _⟩ => .error "accounts"
    | ⟨_, none⟩ => .error "instruction"
    | ⟨some accounts, some instruction⟩ => .ok ⟨accounts, instruction⟩

/-- The error that is reported of a text that is no request. -/
def failureError (text : List Char) (failure : Json.Failure) : FieldError :=
  if failure.fault = .missingField "accounts" then
    ⟨"accounts", "accounts is required", .invalidRequestFormat⟩
  else if failure.fault = .missingField "instruction" then
    ⟨"instruction", "instruction is required", .invalidRequestFormat⟩
  else ⟨"request", "invalid request body: " ++ failure.message text, .invalidRequestFormat⟩

/-- Reads a request from a text that holds nothing else. -/
def read (text : List Char) : Except (List FieldError) Request :=
  (Json.readWhole shape.read text).mapError fun failure => [failureError text failure]

/-- Reads and checks a request. -/
def readChecked (text : List Char) : Except (List FieldError) CheckedRequest :=
  (read text).bind check

end Request

/-! ## Writing -/

/-- An account entry as JSON. -/
def AccountEntry.json (entry : AccountEntry) : Json :=
  .object [("id", .string entry.id), ("balance", entry.balance.json),
    ("currency", .string entry.currency)]

/-- A request as JSON. -/
def Request.json (request : Request) : Json :=
  .object [("accounts", .array (request.accounts.map AccountEntry.json)),
    ("instruction", .string request.instruction)]

end Remittance
