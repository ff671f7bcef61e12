import Remittance.FieldError
import Remittance.TransferOrder
/-!
# Why an instruction cannot be read

Every fault has one wording (`Fault.message`), one code (`Fault.code`), and is reported on the field
`instruction`.
-/

namespace Remittance.Instruction

/-- The shapes that a part of an instruction can fail to have. -/
inductive Misshape where
  /-- A sentence does not have one of the two forms. -/
  | sentence
  /-- A clause of one side is not an account, an amount and perhaps a currency. -/
  | leg (side : Side)
  /-- A clause of the date is not one date. -/
  | settlementDay
  /-- A clause starts with a word that is no keyword. -/
  | unknownClause (head : String)
deriving DecidableEq

/-- What stands in a message for a misshapen part. -/
def Misshape.reason : Misshape → String
  | .sentence =>
    "expected 'DEBIT <amount> <currency> FROM ACCOUNT <id> FOR CREDIT TO ACCOUNT <id> [ON <date>]' " ++
    "or 'CREDIT <amount> <currency> TO ACCOUNT <id> FOR DEBIT FROM ACCOUNT <id> [ON <date>]'"
  | .leg side => s!"expected '{side.keyword} <account> <amount> [currency]'"
  | .settlementDay => "expected 'ON <YYYY-MM-DD>'"
  | .unknownClause head => s!"unexpected clause starting with '{head}'"

/-- The keywords that start a clause. -/
inductive Keyword where
  | leg (side : Side)
  | day
deriving DecidableEq

/-- The keyword in capitals. -/
def Keyword.text : Keyword → String
  | .leg side => side.keyword
  | .day => "ON"

/-- Why a text is not an instruction. -/
inductive Fault where
  /-- Nothing is left once the blanks are removed. -/
  | empty
  /-- A part does not have its shape. -/
  | malformed (part : Misshape)
  /-- The clause of a side is missing. -/
  | missingClause (side : Side)
  /-- A second clause with the same keyword. -/
  | repeatedClause (keyword : Keyword)
  | invalidAmount (word : String)
  | invalidAccountId (word : String)
  | invalidCurrency (word : String)
  | invalidDate (word : String)
  /-- The two sides have different amounts. -/
  | amountMismatch (debit credit : Decimal)
  /-- The two sides state different currencies. -/
  | currencyMismatch (debit credit : Currency)
deriving DecidableEq

namespace Fault

/-- The wording of a fault. -/
def message : Fault → String
  | .empty => "instruction is empty"
  | .malformed part => s!"malformed instruction: {part.reason}"
  | .missingClause side => s!"malformed instruction: missing {side.keyword} clause"
  | .repeatedClause keyword =>
    s!"malformed instruction: {keyword.text} clause appears more than once"
  | .invalidAmount word => s!"malformed instruction: '{word}' is not a valid amount"
  | .invalidAccountId word => s!"invalid account id '{word}' in instruction"
  | .invalidCurrency word => s!"malformed instruction: '{word}' is not a valid currency code"
  | .invalidDate word => s!"invalid execution date '{word}': expected YYYY-MM-DD"
  | .amountMismatch debit credit =>
    s!"malformed instruction: debit amount {debit} does not match credit amount {credit}"
  | .currencyMismatch debit credit =>
    s!"debit leg currency {debit} does not match credit leg currency {credit}"

/-- The code of a fault. -/
def code : Fault → ErrorCode
  | .invalidAccountId _ => .invalidAccountId
  | .invalidDate _ => .invalidDateFormat
  | .currencyMismatch _ _ => .currencyMismatch
  | _ => .malformedInstruction

/-- The fault as it is reported. -/
def fieldError (fault : Fault) : FieldError := ⟨"instruction", fault.message, fault.code⟩

end Fault

end Remittance.Instruction
