import Remittance.Text.Quoted
/-!
# What can be wrong with a JSON text

A text can break the grammar, or hold a value of another kind than the reader asks for. `Fault`
lists both, `Fault.message` words them, and `Found` says what stands where something else is asked
for.
-/

namespace Remittance.Json

/-- What a text holds where something else is asked for. -/
inductive Found where
  | null
  | bool (value : Bool)
  /-- A whole number that fits into sixty-four bits. -/
  | integer (text : String)
  /-- A number that is read as binary floating point. -/
  | float (text : String)
  /-- Any other number. -/
  | number
  | string (text : String)
  | sequence
  | map
deriving DecidableEq

/-- What is found, as messages name it. -/
def Found.message : Found → String
  | .null => "null"
  | .bool value => s!"boolean \x60{value}\x60"
  | .integer text => s!"integer \x60{text}\x60"
  | .float text => s!"floating point \x60{text}\x60"
  | .number => "number"
  | .string text => s!"string {Text.quoted text}"
  | .sequence => "sequence"
  | .map => "map"

/-- What is wrong with a text. -/
inductive Fault where
  /-- The text ends inside an array. -/
  | endInArray
  /-- The text ends inside an object. -/
  | endInObject
  /-- The text ends inside a string. -/
  | endInString
  /-- The text ends where a value is asked for, or inside one. -/
  | endInValue
  | colonExpected
  | itemEndExpected
  | memberEndExpected
  /-- One of `null`, `true` and `false` is misspelt. -/
  | wordExpected
  | valueExpected
  | invalidEscape
  | invalidNumber
  /-- The number is too large for binary floating point. -/
  | numberOutOfRange
  | controlCharacter
  | keyExpected
  /-- One half of a surrogate pair stands without the other. -/
  | loneSurrogate
  /-- Behind the first half of a surrogate pair there is no escape. -/
  | pairUnfinished
  | trailingComma
  | trailingCharacters
  | tooDeep
  /-- The value is of another kind. -/
  | wrongKind (found : Found) (expected : String)
  /-- The value is of the right kind, but not one of those allowed. -/
  | wrongValue (found : Found) (expected : String)
  | missingField (name : String)
  | repeatedField (name : String)
  | unknownName (name : String) (known : List String)
  /-- An array has this number of items and should have more. -/
  | tooShort (size : Nat) (expected : String)
  /-- The value was refused for this reason. -/
  | refused (reason : String)
deriving DecidableEq

/-- A name between grave accents. -/
def marked (name : String) : String := s!"\x60{name}\x60"

/-- The wording of a fault. -/
def Fault.message : Fault → String
  | .endInArray => "EOF while parsing a list"
  | .endInObject => "EOF while parsing an object"
  | .endInString => "EOF while parsing a string"
  | .endInValue => "EOF while parsing a value"
  | .colonExpected => "expected " ++ marked ":"
  | .itemEndExpected => "expected " ++ marked "," ++ " or " ++ marked "]"
  | .memberEndExpected => "expected " ++ marked "," ++ " or " ++ marked "\x7d"
  | .wordExpected => "expected ident"
  | .valueExpected => "expected value"
  | .invalidEscape => "invalid escape"
  | .invalidNumber => "invalid number"
  | .numberOutOfRange => "number out of range"
  | .controlCharacter => "control character (\\u0000-\\u001F) found while parsing a string"
  | .keyExpected => "key must be a string"
  | .loneSurrogate => "lone leading surrogate in hex escape"
  | .pairUnfinished => "unexpected end of hex escape"
  | .trailingComma => "trailing comma"
  | .trailingCharacters => "trailing characters"
  | .tooDeep => "recursion limit exceeded"
  | .wrongKind found expected => s!"invalid type: {found.message}, expected {expected}"
  | .wrongValue found expected => s!"invalid value: {found.message}, expected {expected}"
  | .missingField name => "missing field " ++ marked name
  | .repeatedField name => "duplicate field " ++ marked name
  | .unknownName name known =>
    "unknown variant " ++ marked name ++ ", expected one of " ++ ", ".intercalate (known.map marked)
  | .tooShort size expected => s!"invalid length {size}, expected {expected}"
  | .refused reason => reason

end Remittance.Json
