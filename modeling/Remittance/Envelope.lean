import Remittance.Settlement
/-!
# Responses

* `Summary` reports an executed transfer, with every supplied account.
* `Envelope` is the response to a request: a summary, or the errors for which it was rejected.
-/

namespace Remittance

/-- The report of an executed transfer. -/
structure Summary where
  /-- The side that the instruction names first. -/
  side : Side
  amount : Decimal
  currency : Currency
  debitAccount : AccountId
  creditAccount : AccountId
  executeBy : Option Date
  status : TransferStatus
  reason : String
  code : StatusCode
  /-- Every supplied account, in the order in which they were supplied. -/
  accounts : List Snapshot
deriving DecidableEq

/-- The report on one supplied account: the two accounts of the transfer as the transfer left them,
every other one as it was. -/
def Execution.report (execution : Execution) (account : Account) : Snapshot :=
  if account.id = execution.debit.id then execution.debit
  else if account.id = execution.credit.id then execution.credit
  else account.unchanged

/-- The report of an execution among the supplied accounts. -/
def Summary.ofExecution (order : TransferOrder) (currency : Currency) (execution : Execution)
    (accounts : List Account) : Summary where
  side := order.side
  amount := order.amount
  currency := currency
  debitAccount := order.debitAccount
  creditAccount := order.creditAccount
  executeBy := order.executeBy
  status := execution.status
  reason := execution.reason
  code := execution.code
  accounts := accounts.map execution.report

namespace Summary

/-- The first reported account with this id. -/
def account? (s : Summary) (id : String) : Option Snapshot :=
  s.accounts.find? (·.id.text == id)

/-- The accounts as the transfer left them. -/
def accountsAfter (s : Summary) : List Account := s.accounts.map Snapshot.account

end Summary

/-! ## Envelopes -/

/-- How a request ended. -/
inductive EnvelopeStatus where
  | transfer (status : TransferStatus)
  | error
deriving DecidableEq

/-- The status as it is written. -/
def EnvelopeStatus.text : EnvelopeStatus → String
  | .transfer status => status.text
  | .error => "error"

/-- What a response carries. -/
inductive ResponseData where
  | report (summary : Summary)
  | errorList (errors : List FieldError)
deriving DecidableEq

/-- The response to one request. -/
structure Envelope where
  httpStatus : Nat
  status : EnvelopeStatus
  message : String
  data : ResponseData
deriving DecidableEq

namespace Envelope

/-- The response to an instruction that was executed, whatever its status. -/
def processed (summary : Summary) : Envelope :=
  ⟨200, .transfer summary.status, "Transaction processed successfully", .report summary⟩

/-- The response to a request with errors. -/
def rejection (errors : List FieldError) : Envelope :=
  ⟨400, .error, "Validation failed", .errorList errors⟩

/-- The errors of a response. -/
def errors (e : Envelope) : List FieldError :=
  match e.data with
  | .report _ => []
  | .errorList errors => errors

/-- The first reported account with this id. -/
def account? (e : Envelope) (id : String) : Option Snapshot :=
  match e.data with
  | .report summary => summary.account? id
  | .errorList _ => none

end Envelope

end Remittance
