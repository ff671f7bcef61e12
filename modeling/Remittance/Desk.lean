import Remittance.Envelope
import Remittance.Instruction
/-!
# The transfer desk

A desk processes one instruction against a list of accounts: it reads the instruction, finds the
parties, checks the rules and executes the transfer. The first of these stages that finds a fault
rejects the instruction, with every fault that it finds. A desk keeps no state.

* `Desk.process` is the whole way from the text to the report.
* `Session` runs instructions one after another, each on the accounts that the one before it left.
-/

namespace Remittance

/-! ## Rejections -/

/-- The stages that can reject an instruction. -/
inductive Stage where
  | parse
  | resolve
  | validate
deriving DecidableEq

/-- The stage as a word of a message. -/
def Stage.word : Stage → String
  | .parse => "parse"
  | .resolve => "resolve"
  | .validate => "validate"

/-- Why an instruction was rejected: everything that one stage found. -/
inductive Rejection where
  | unreadable (fault : Instruction.Fault)
  | unresolved (faults : List PartyFault)
  | refused (breaches : List Breach)
deriving DecidableEq

namespace Rejection

/-- The stage that rejected the instruction. -/
def stage : Rejection → Stage
  | .unreadable _ => .parse
  | .unresolved _ => .resolve
  | .refused _ => .validate

/-- The errors as they are reported. -/
def fieldErrors : Rejection → List FieldError
  | .unreadable fault => [fault.fieldError]
  | .unresolved faults => faults.map PartyFault.fieldError
  | .refused breaches => breaches.map Breach.fieldError

/-- The wording of a rejection. -/
def message (rejection : Rejection) : String :=
  s!"instruction rejected at {rejection.stage.word} stage with " ++
    s!"{rejection.fieldErrors.length} error(s)"

end Rejection

/-! ## Desks -/

/-- What a desk goes by. -/
structure Desk where
  /-- The currencies that it supports; an empty list stands for all. -/
  supported : List Currency
  /-- What it does to the debit account of a transfer that is scheduled. -/
  policy : PendingPolicy
  /-- The day on which it works. -/
  today : Date
  /-- The gateway that it asks before it settles. -/
  gateway : Gateway

/-- The response to an instruction, and how often the gateway was asked. -/
structure Outcome where
  result : Except Rejection Summary
  gatewayCalls : Nat

namespace Outcome

/-- The errors of a rejected instruction. -/
def errors (outcome : Outcome) : List FieldError :=
  match outcome.result with
  | .ok _ => []
  | .error rejection => rejection.fieldErrors

/-- The instruction was rejected. -/
def isRejected (outcome : Outcome) : Bool :=
  match outcome.result with
  | .ok _ => false
  | .error _ => true

/-- The response that the outcome is told in. -/
def envelope (outcome : Outcome) : Envelope :=
  match outcome.result with
  | .ok summary => .processed summary
  | .error rejection => .rejection rejection.fieldErrors

end Outcome

namespace Desk

/-- The desk that goes by these settings; a currency that is listed twice is listed once. -/
def ofSettings (supported : List Currency) (policy : PendingPolicy) (today : Date)
    (gateway : Gateway) : Desk :=
  ⟨Currency.distinct supported, policy, today, gateway⟩

/-- The transfer that an instruction asks for, where no stage rejects it. -/
def approve (desk : Desk) (accounts : List Account) (instruction : List Char) :
    Except Rejection ApprovedTransfer := do
  let order ← (Instruction.read instruction).mapError .unreadable
  let parties ← (Parties.find order accounts).mapError .unresolved
  (order.approve desk.supported parties).mapError .refused

/-- Executes an approved transfer. -/
def execute (desk : Desk) (transfer : ApprovedTransfer) : Settlement :=
  transfer.execute desk.policy desk.today desk.gateway

/-- Processes one instruction against the supplied accounts. -/
def process (desk : Desk) (accounts : List Account) (instruction : List Char) : Outcome :=
  match desk.approve accounts instruction with
  | .error rejection => ⟨.error rejection, 0⟩
  | .ok transfer =>
    let settlement := desk.execute transfer
    ⟨.ok (.ofExecution transfer.order transfer.currency settlement.execution accounts),
      settlement.gatewayCalls⟩

end Desk

/-! ## Sessions -/

/-- The accounts after an instruction: as the transfer left them, or as they were when it was
rejected. -/
def Outcome.accountsAfter (outcome : Outcome) (accounts : List Account) : List Account :=
  match outcome.result with
  | .ok summary => summary.accountsAfter
  | .error _ => accounts

/-- One step of a session: an instruction and the desk that processes it. -/
structure SessionStep where
  desk : Desk
  instruction : List Char

/-- The outcomes of the steps of a session, each with the accounts after it. -/
def Session.run (accounts : List Account) : List SessionStep → List (Outcome × List Account)
  | [] => []
  | step :: steps =>
    let outcome := step.desk.process accounts step.instruction
    let accounts := outcome.accountsAfter accounts
    (outcome, accounts) :: Session.run accounts steps

end Remittance
