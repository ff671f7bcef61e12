import Remittance.Rules
/-!
# Settlement

A transfer is settled at once, or scheduled when its day is still to come.

* Settling takes both new balances first and then asks the gateway, once. Where a balance cannot be
  taken or the gateway refuses, the transfer has failed and both accounts are as before.
* Scheduling reserves the amount in the debit account, or holds both accounts as they are; the
  gateway is not asked.
-/

namespace Remittance

/-- Why a transfer is not settled. -/
inductive SettlementFault where
  /-- The gateway refuses. -/
  | rejected (reason : String)
  /-- A balance has no room for the amount. -/
  | balanceOverflow (account : AccountId)
  /-- A balance would be less than zero. -/
  | negativeBalance (account : AccountId)
deriving DecidableEq

/-- The wording of a fault. -/
def SettlementFault.message : SettlementFault → String
  | .rejected reason => s!"settlement rejected: {reason}"
  | .balanceOverflow account => s!"balance overflow on account '{account}'"
  | .negativeBalance account =>
    s!"transfer would leave account '{account}' with a negative balance"

/-- What the outside world says to a transfer that is about to be settled. -/
abbrev Gateway := TransferOrder → Except SettlementFault Unit

/-- Work on a transfer that can fail, with a count of how often a gateway was asked. -/
abbrev Asking := ExceptT SettlementFault (StateM Nat)

namespace Gateway

/-- The gateway that agrees to every transfer. -/
def acceptAll : Gateway := fun _ => .ok ()

/-- Asks the gateway, which is counted. -/
def ask (gateway : Gateway) (order : TransferOrder) : Asking Unit := do
  modify (· + 1)
  gateway order

end Gateway

/-- How a transfer ended. -/
inductive TransferStatus where
  /-- The money was moved. -/
  | successful
  /-- The money will be moved later. -/
  | pending
  /-- The money stays where it was. -/
  | failed
deriving DecidableEq

/-- The status as it is written. -/
def TransferStatus.text : TransferStatus → String
  | .successful => "successful"
  | .pending => "pending"
  | .failed => "failed"

/-- The codes that go with a status. -/
inductive StatusCode where
  /-- Settled. -/
  | approved
  /-- Scheduled. -/
  | scheduled
  /-- The gateway refused. -/
  | settlementRejected
  /-- A balance could not be taken. -/
  | balanceFault
deriving DecidableEq

/-- The code as it is written. -/
def StatusCode.text : StatusCode → String
  | .approved => "AP00"
  | .scheduled => "AP02"
  | .settlementRejected => "SF01"
  | .balanceFault => "SF02"

/-- The code of a fault. -/
def SettlementFault.code : SettlementFault → StatusCode
  | .rejected _ => .settlementRejected
  | .balanceOverflow _ | .negativeBalance _ => .balanceFault

/-- What became of a transfer. -/
structure Execution where
  status : TransferStatus
  code : StatusCode
  /-- Why it has this status. -/
  reason : String
  debit : Snapshot
  credit : Snapshot
deriving DecidableEq

namespace Execution

/-- Both accounts have their new balances. -/
def settled (debit credit : Snapshot) : Execution :=
  ⟨.successful, .approved, "Transaction executed successfully", debit, credit⟩

/-- The money will enter the credit account later. -/
def scheduled (debit credit : Snapshot) : Execution :=
  ⟨.pending, .scheduled, "Transaction scheduled for future execution", debit, credit⟩

/-- Both accounts are as before. -/
def failed (parties : Parties) (fault : SettlementFault) : Execution :=
  ⟨.failed, fault.code, fault.message, parties.debit.unchanged, parties.credit.unchanged⟩

end Execution

/-- What happens to the debit account of a transfer that is scheduled. -/
inductive PendingPolicy where
  /-- The amount leaves the account now. -/
  | reserveDebit
  /-- The amount stays in the account. -/
  | hold
deriving DecidableEq

/-! ## New balances -/

/-- The account after the amount has left it. -/
def Account.debited (account : Account) (amount : Decimal) : Except SettlementFault Snapshot :=
  match account.balance.sub? amount with
  | none => .error (.balanceOverflow account.id)
  | some balance =>
    if balance.NonNegative then .ok (account.withBalance balance)
    else .error (.negativeBalance account.id)

/-- The account after the amount has entered it. -/
def Account.credited (account : Account) (amount : Decimal) : Except SettlementFault Snapshot :=
  match account.balance.add? amount with
  | none => .error (.balanceOverflow account.id)
  | some balance => .ok (account.withBalance balance)

/-! ## Execution -/

/-- What became of a transfer, and how often the gateway was asked. -/
structure Settlement where
  execution : Execution
  gatewayCalls : Nat
deriving DecidableEq

namespace ApprovedTransfer

/-- The day of the transfer is still to come. -/
def IsDeferred (t : ApprovedTransfer) (today : Date) : Prop :=
  ∃ day ∈ t.order.executeBy, today < day

instance (t : ApprovedTransfer) (today : Date) : Decidable (t.IsDeferred today) :=
  inferInstanceAs (Decidable (∃ day ∈ t.order.executeBy, today < day))

/-- Both accounts after the amount has moved. -/
def moved (t : ApprovedTransfer) : Except SettlementFault (Snapshot × Snapshot) := do
  let debit ← t.parties.debit.debited t.order.amount
  let credit ← t.parties.credit.credited t.order.amount
  return (debit, credit)

/-- Moves the amount now. -/
def settle (t : ApprovedTransfer) (gateway : Gateway) : Asking Execution := do
  let (debit, credit) ← t.moved
  gateway.ask t.order
  return .settled debit credit

/-- Schedules the transfer for its day. -/
def schedule (t : ApprovedTransfer) (policy : PendingPolicy) : Asking Execution := do
  match policy with
  | .hold => return .scheduled t.parties.debit.unchanged t.parties.credit.unchanged
  | .reserveDebit =>
    let debit ← t.parties.debit.debited t.order.amount
    return .scheduled debit t.parties.credit.unchanged

/-- What the work on a transfer comes to. Where it fails, both accounts are as before. -/
def conclude (t : ApprovedTransfer) (work : Asking Execution) : Settlement :=
  match work.run.run 0 with
  | (.ok execution, calls) => ⟨execution, calls⟩
  | (.error fault, calls) => ⟨.failed t.parties fault, calls⟩

/-- Settles the transfer, or schedules it when its day is still to come. -/
def execute (t : ApprovedTransfer) (policy : PendingPolicy) (today : Date) (gateway : Gateway) :
    Settlement :=
  t.conclude (if t.IsDeferred today then t.schedule policy else t.settle gateway)

end ApprovedTransfer

end Remittance
