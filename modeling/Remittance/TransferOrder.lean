import Remittance.Account
import Remittance.Date
/-!
# Transfer orders

A transfer order is what an instruction asks for: an amount is to leave the debit account and to
enter the credit account, now or on a later day.
-/

namespace Remittance

/-- The two sides of a transfer. -/
inductive Side where
  /-- The money leaves this account. -/
  | debit
  /-- The money enters this account. -/
  | credit
deriving DecidableEq

namespace Side

/-- The keyword of a side, in capitals. -/
def keyword : Side → String
  | .debit => "DEBIT"
  | .credit => "CREDIT"

/-- The side as a word of a message. -/
def word : Side → String
  | .debit => "debit"
  | .credit => "credit"

/-- The other side. -/
def opposite : Side → Side
  | .debit => .credit
  | .credit => .debit

end Side

/-- One transfer as it is asked for. -/
structure TransferOrder where
  /-- The side that the instruction names first. -/
  side : Side
  debitAccount : AccountId
  creditAccount : AccountId
  amount : Decimal
  /-- The currency, where the instruction states one. -/
  currency : Option Currency
  /-- The day on which the transfer is to be settled, where the instruction states one. -/
  executeBy : Option Date
deriving DecidableEq

namespace TransferOrder

/-- The money would leave and enter the same account. -/
def IsSelfTransfer (o : TransferOrder) : Prop := o.debitAccount = o.creditAccount

instance (o : TransferOrder) : Decidable o.IsSelfTransfer :=
  inferInstanceAs (Decidable (o.debitAccount = o.creditAccount))

end TransferOrder

end Remittance
