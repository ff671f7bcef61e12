import Remittance.Json.Basic
import Remittance.Json.Number
import Remittance.Json.Text
import Remittance.Json.Word
/-!
# Values that hold no others

* `readScalar?` reads a word, a number or a string, where one begins.
* `mismatch` is the failure of a reader that asks for a value of another kind. It names the value
  that stands there, so a scalar has to be well formed first.
* `readString` reads a string and `readNull` the word `null`.
-/

namespace Remittance.Json

/-- A word, a number or a string. -/
inductive Scalar where
  | null
  | bool (value : Bool)
  | number (text : List Char)
  | string (text : String)

namespace Scalar

/-- The scalar that a word stands for. -/
def ofWord : Option Bool → Scalar
  | none => .null
  | some value => .bool value

/-- The scalar as messages name it. -/
def found : Scalar → Found
  | .null => .null
  | .bool value => .bool value
  | .number text => .ofNumber text
  | .string text => .string text

/-- The scalar as a value. -/
def json : Scalar → Json
  | .null => .null
  | .bool value => .bool value
  | .number text => .number text
  | .string text => .string text

end Scalar

/-- Reads the scalar that begins with `first`, where one can begin so. -/
def readScalar? (first : Char) (rest : List Char) :
    Option (Except Failure (Parsed Scalar (first :: rest))) :=
  if first = '"' then
    some ((readText rest).map fun text => (text.map .string).widen (length_le_cons _ _))
  else if startsNumber first then
    some ((readNumber .endInValue (first :: rest)).map (·.map .number))
  else
    (readWord? first rest).map (·.map (·.map .ofWord))

/-- The failure of a reader that asks for something else than the value at the front of the text. -/
def mismatch (expected : String) : List Char → Failure
  | [] => .next .endInValue []
  | c :: rest =>
    if c = '[' then .here (.wrongKind .sequence expected) (c :: rest)
    else if c = '{' then .here (.wrongKind .map expected) (c :: rest)
    else
      match readScalar? c rest with
      | none => .next .valueExpected (c :: rest)
      | some (.error failure) => failure
      | some (.ok scalar) => .here (.wrongKind scalar.value.found expected) scalar.rest

/-- Reads a string. -/
def readString (expected : String) : Reader String :=
  afterBlanks fun
    | [] => .error (mismatch expected [])
    | c :: rest =>
      if c = '"' then (readText rest).map (·.widen (length_le_cons _ _))
      else .error (mismatch expected (c :: rest))

/-- Reads the word `null`. -/
def readNull (expected : String) : Reader Unit :=
  afterBlanks fun
    | [] => .error (mismatch expected [])
    | c :: rest =>
      if c = 'n' then readWord c ['u', 'l', 'l'] () rest
      else .error (mismatch expected (c :: rest))

end Remittance.Json
