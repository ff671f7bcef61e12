import Remittance.Decimal.Encoding
import Remittance.Envelope
import Remittance.Json.Lookup
import Remittance.Json.Record
import Remittance.Json.Tree
import Remittance.Json.Unsigned
/-!
# Reading responses

An envelope is a record of its number and its body, and the body is one of its status, its message
and its data. The data are read as a whole value first: they are the report of a transfer if they
can be, or else a list of errors.

* `Summary.ofJson?` and `ResponseData.ofJson?` say what a value stands for.
* `Envelope.read` reads an envelope from a text that holds nothing else.
-/

namespace Remittance

/-! ## Data -/

/-- The account id that a value stands for. -/
def AccountId.ofJson? (value : Json) : Option AccountId := value.string?.bind ofString?

/-- The currency that a value stands for. -/
def Currency.ofJson? (value : Json) : Option Currency := value.string?.bind ofString?

/-- The date that a value stands for. -/
def Date.ofJson? (value : Json) : Option Date := value.string?.bind (read? ·.toList)

/-- The side that a value stands for. -/
def Side.ofJson? : Json → Option Side := Json.named? keyword [.debit, .credit]

/-- The status of a transfer that a value stands for. -/
def TransferStatus.ofJson? : Json → Option TransferStatus :=
  Json.named? text [.successful, .pending, .failed]

/-- The status code that a value stands for. -/
def StatusCode.ofJson? : Json → Option StatusCode :=
  Json.named? text [.approved, .scheduled, .settlementRejected, .balanceFault]

/-- The error code that a value stands for. -/
def ErrorCode.ofJson? : Json → Option ErrorCode := Json.named? text all

/-- The day of settlement that a field stands for, which may be missing. -/
def executeByOf? : Option Json → Option (Option Date)
  | none | some .null => some none
  | some value => (Date.ofJson? value).map some

/-- The reported account that a value stands for. -/
def Snapshot.ofJson? (value : Json) : Option Snapshot := do
  let [id, balance, balanceBefore, currency] ←
    value.fields? ["id", "balance", "balance_before", "currency"] | none
  return {
    id := ← AccountId.ofJson? (← id)
    balance := ← Decimal.ofJson? (← balance)
    balanceBefore := ← Decimal.ofJson? (← balanceBefore)
    currency := ← Currency.ofJson? (← currency) }

/-- The report of a transfer that a value stands for. -/
def Summary.ofJson? (value : Json) : Option Summary := do
  let [side, amount, currency, debitAccount, creditAccount, executeBy, status, reason, code,
      accounts] ←
    value.fields? ["type", "amount", "currency", "debit_account", "credit_account", "execute_by",
      "status", "status_reason", "status_code", "accounts"] | none
  return {
    side := ← Side.ofJson? (← side)
    amount := ← Decimal.ofJson? (← amount)
    currency := ← Currency.ofJson? (← currency)
    debitAccount := ← AccountId.ofJson? (← debitAccount)
    creditAccount := ← AccountId.ofJson? (← creditAccount)
    executeBy := ← executeByOf? executeBy
    status := ← TransferStatus.ofJson? (← status)
    reason := ← (← reason).string?
    code := ← StatusCode.ofJson? (← code)
    accounts := ← (← (← accounts).items?).mapM Snapshot.ofJson? }

/-- The reported error that a value stands for. -/
def FieldError.ofJson? (value : Json) : Option FieldError := do
  let [field, message, code] ← value.fields? ["field", "message", "code"] | none
  return {
    field := ← (← field).string?
    message := ← (← message).string?
    code := ← ErrorCode.ofJson? (← code) }

/-- The list of errors that a value stands for. -/
def errorsOfJson? (value : Json) : Option (List FieldError) := do
  let [errors] ← value.fields? ["errors"] | none
  (← (← errors).items?).mapM FieldError.ofJson?

/-- What a response with this value for its data carries. -/
def ResponseData.ofJson? (value : Json) : Option ResponseData :=
  ((Summary.ofJson? value).map .report).or ((errorsOfJson? value).map .errorList)

/-! ## Envelopes -/

/-- How deep arrays and objects may be nested in the data of a response. -/
def ResponseData.maxDepth : Nat := 125

/-- Reads the data of a response. -/
def ResponseData.reader : Json.Reader ResponseData := fun cs => do
  let tree ← Json.readTree maxDepth cs
  match ofJson? tree.value with
  | some data => return tree.map fun _ => data
  | none =>
    throw (.unplaced (.refused
      "data did not match any variant of untagged enum ResponseData") tree.rest)

namespace EnvelopeStatus

/-- Every status. -/
def all : List EnvelopeStatus :=
  [.transfer .successful, .transfer .pending, .transfer .failed, .error]

/-- Reads the name of a status. -/
def readName : Json.Reader EnvelopeStatus := fun cs => do
  let name ← Json.readString "variant identifier" cs
  match all.find? (·.text == name.value) with
  | some status => return name.map fun _ => status
  | none => throw (.here (.unknownName name.value (all.map text)) name.rest)

/-- Reads the name of a status as the only key of an object, with no content. -/
def readKey : Json.Reader EnvelopeStatus := fun cs => do
  let key ← Json.nextMember true cs
  if !key.value then throw (.next .valueExpected key.rest)
  let status ← readName key.rest
  let colon ← Json.readColon status.rest
  let content ← Json.readNull "unit" colon.rest
  match hrest : Json.skipBlanks content.rest with
  | '}' :: rest =>
    have hlast : rest.length < content.rest.length := by
      have h := Json.length_skipBlanks_le content.rest
      rw [hrest, List.length_cons] at h
      omega
    return ⟨status.value, rest, Nat.lt_trans hlast
      (Nat.lt_trans content.shorter (Nat.lt_trans colon.shorter
        (Nat.lt_of_lt_of_le status.shorter key.noLonger)))⟩
  | [] => throw (.here .endInObject [])
  | rest => throw (.here .valueExpected rest)

/-- Reads a status. -/
def reader : Json.Reader EnvelopeStatus :=
  Json.afterBlanks fun
    | [] => .error (.next .endInValue [])
    | c :: rest =>
      if c = '"' then readName (c :: rest)
      else if c = '{' then (readKey rest).map (·.widen (Json.length_le_cons _ _))
      else .error (.next .valueExpected (c :: rest))

end EnvelopeStatus

/-- The body of a response. -/
structure ResponseBody where
  status : EnvelopeStatus
  message : String
  data : ResponseData

/-- A body of which some fields are read. -/
structure ResponseBody.Draft where
  status : Option EnvelopeStatus
  message : Option String
  data : Option ResponseData

/-- Bodies as records. -/
def ResponseBody.shape : Json.Shape ResponseBody.Draft ResponseBody where
  name := "ResponseBody"
  fields := [
    .of "status" (·.status) (fun draft status => { draft with status := some status })
      EnvelopeStatus.reader,
    .of "message" (·.message) (fun draft message => { draft with message := some message })
      (Json.readString "a string"),
    .of "data" (·.data) (fun draft data => { draft with data := some data }) ResponseData.reader]
  start := ⟨none, none, none⟩
  finish
    | ⟨none, _, _⟩ => .error "status"
    | ⟨_, none, _⟩ => .error "message"
    | ⟨_, _, none⟩ => .error "data"
    | ⟨some status, some message, some data⟩ => .ok ⟨status, message, data⟩

/-- An envelope of which some fields are read. -/
structure Envelope.Draft where
  httpStatus : Option Nat
  body : Option ResponseBody

namespace Envelope

/-- Envelopes as records. -/
def shape : Json.Shape Draft Envelope where
  name := "ResponseEnvelope"
  fields := [
    .of "http_status" (·.httpStatus)
      (fun draft httpStatus => { draft with httpStatus := some httpStatus })
      (Json.readUnsigned "u16" UInt16.size),
    .of "body" (·.body) (fun draft body => { draft with body := some body })
      ResponseBody.shape.read]
  start := ⟨none, none⟩
  finish
    | ⟨none, _⟩ => .error "http_status"
    | ⟨_, none⟩ => .error "body"
    | ⟨some httpStatus, some body⟩ => .ok ⟨httpStatus, body.status, body.message, body.data⟩

/-- Reads an envelope from a text that holds nothing else. -/
def read (text : List Char) : Except Json.Failure Envelope := Json.readWhole shape.read text

end Envelope

end Remittance
