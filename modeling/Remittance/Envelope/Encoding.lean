import Remittance.Decimal.Encoding
import Remittance.Envelope
import Remittance.Json.Printer
/-!
# Responses as JSON

Amounts and balances are numbers with the digits of their decimals; everything else is a string. A
day of settlement is left out where there is none. One response is one line.
-/

namespace Remittance

/-- A reported account as JSON. -/
def Snapshot.json (s : Snapshot) : Json :=
  .object [
    ("id", .string s.id.text),
    ("balance", s.balance.json),
    ("balance_before", s.balanceBefore.json),
    ("currency", .string s.currency.code)]

/-- The member for the day of settlement. -/
def executeByMember : Option Date → List (String × Json)
  | some date => [("execute_by", .string date.toString)]
  | none => []

/-- The report of a transfer as JSON. -/
def Summary.json (s : Summary) : Json :=
  .object <|
    [("type", .string s.side.keyword),
      ("amount", s.amount.json),
      ("currency", .string s.currency.code),
      ("debit_account", .string s.debitAccount.text),
      ("credit_account", .string s.creditAccount.text)] ++
    executeByMember s.executeBy ++
    [("status", .string s.status.text),
      ("status_reason", .string s.reason),
      ("status_code", .string s.code.text),
      ("accounts", .array (s.accounts.map Snapshot.json))]

/-- A reported error as JSON. -/
def FieldError.json (e : FieldError) : Json :=
  .object [
    ("field", .string e.field),
    ("message", .string e.message),
    ("code", .string e.code.text)]

/-- What a response carries as JSON. -/
def ResponseData.json : ResponseData → Json
  | .report summary => summary.json
  | .errorList errors => .object [("errors", .array (errors.map FieldError.json))]

/-- A response as JSON. -/
def Envelope.json (e : Envelope) : Json :=
  .object [
    ("http_status", .number (Nat.toDigits 10 e.httpStatus)),
    ("body", .object [
      ("status", .string e.status.text),
      ("message", .string e.message),
      ("data", e.data.json)])]

/-- The line that a response is written as. -/
def Envelope.line (e : Envelope) : List Char := e.json.render ++ ['\n']

/-- Responses written one after another. -/
def Envelope.lines (es : List Envelope) : List Char := es.flatMap Envelope.line

end Remittance
