/-!
# Reported errors

An error that is reported to a caller names the field at fault, says what is wrong, and carries a
code that machines can read.
-/

namespace Remittance

/-- The codes of reported errors. -/
inductive ErrorCode where
  | malformedInstruction
  | invalidAccountId
  | invalidDateFormat
  | accountNotFound
  | duplicateAccount
  | currencyMismatch
  | invalidAmount
  | insufficientFunds
  | selfTransfer
  | unsupportedCurrency
  | invalidRequestFormat
  | invalidField
deriving DecidableEq

namespace ErrorCode

/-- Every code, in the order of their declaration. -/
def all : List ErrorCode :=
  [.malformedInstruction, .invalidAccountId, .invalidDateFormat, .accountNotFound,
    .duplicateAccount, .currencyMismatch, .invalidAmount, .insufficientFunds, .selfTransfer,
    .unsupportedCurrency, .invalidRequestFormat, .invalidField]

/-- The code as it is written. -/
def text : ErrorCode → String
  | .malformedInstruction => "MALFORMED_INSTRUCTION"
  | .invalidAccountId => "INVALID_ACCOUNT_ID"
  | .invalidDateFormat => "INVALID_DATE_FORMAT"
  | .accountNotFound => "ACCOUNT_NOT_FOUND"
  | .duplicateAccount => "DUPLICATE_ACCOUNT"
  | .currencyMismatch => "CURRENCY_MISMATCH"
  | .invalidAmount => "INVALID_AMOUNT"
  | .insufficientFunds => "INSUFFICIENT_FUNDS"
  | .selfTransfer => "SELF_TRANSFER"
  | .unsupportedCurrency => "UNSUPPORTED_CURRENCY"
  | .invalidRequestFormat => "INVALID_REQUEST_FORMAT"
  | .invalidField => "INVALID_FIELD"

/-- The code that is written like this. -/
def ofText? (text : String) : Option ErrorCode := all.find? (·.text == text)

end ErrorCode

/-- One error as it is reported. -/
structure FieldError where
  /-- The field at fault. -/
  field : String
  /-- What is wrong with it. -/
  message : String
  code : ErrorCode
deriving DecidableEq

end Remittance
