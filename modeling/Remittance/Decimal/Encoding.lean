import Remittance.Decimal.Printer
import Remittance.Decimal.Reader
import Remittance.Json.Container
/-!
# Decimals as JSON

A decimal is written as a number with its own digits. It is read from a number, from a string that
spells it, or from an object whose only member has the key `Decimal.boxKey` and such a string for
its value.
-/

namespace Remittance.Decimal

/-- A decimal as a JSON number. -/
def json (a : Decimal) : Json := .number a.toChars

/-- The key of an object that stands for a number. -/
def boxKey : String := "$serde_json::private::Number"

/-- What is asked for, in messages. -/
def expected : String := "a Decimal type representing a fixed-point number"

/-- The decimal that a number or a boxed string spells, in front of `rest`. -/
def ofText {cs : List Char} (text : List Char) (p : Json.Parsed Unit cs) :
    Except Json.Failure (Json.Parsed Decimal cs) :=
  match read text with
  | .ok a => .ok (p.map fun _ => a)
  | .error fault => .error (.here (.refused fault.message) p.rest)

/-- The decimal that a scalar stands for. -/
def ofScalar {cs : List Char} (p : Json.Parsed Json.Scalar cs) :
    Except Json.Failure (Json.Parsed Decimal cs) :=
  match p.value with
  | .number text => ofText text (p.map fun _ => ())
  | .string text =>
    match read? text.toList with
    | some a => .ok (p.map fun _ => a)
    | none => .error (.here (.wrongValue (.string text) expected) p.rest)
  | .null => .error (.here (.wrongKind .null expected) p.rest)
  | .bool value => .error (.here (.wrongKind (.bool value) expected) p.rest)

/-- Reads the first member of an object that stands for a decimal. -/
def readBox (cs : List Char) : Except Json.Failure (Json.Reached Decimal cs) := do
  let step ← Json.nextMember true cs
  if !step.value then throw (.unplaced (.wrongKind .map expected) step.rest)
  let key ← Json.readString "field identifier" step.rest
  if key.value ≠ boxKey then throw (.unplaced (.refused "expected field with custom name") key.rest)
  let colon ← Json.readColon key.rest
  let text ← Json.readString "string containing a decimal" colon.rest
  let a ← ofText text.value.toList (text.map fun _ => ())
  have hkey := Nat.lt_of_lt_of_le key.shorter step.noLonger
  return ⟨a.value, a.rest, Nat.le_of_lt (Nat.lt_trans a.shorter (Nat.lt_trans colon.shorter hkey))⟩

/-- Reads a decimal. -/
def reader : Json.Reader Decimal :=
  Json.afterBlanks fun
    | [] => .error (.next .endInValue [])
    | c :: rest =>
      if c = '[' then
        let failure := Json.Failure.unplaced (.wrongKind .sequence expected) rest
        (Json.enclosed Json.closeArray (.error failure)).map (·.widen (Json.length_le_cons _ _))
      else if c = '{' then
        (Json.enclosed Json.closeObject (readBox rest)).map (·.widen (Json.length_le_cons _ _))
      else
        match Json.readScalar? c rest with
        | none => .error (.next .valueExpected (c :: rest))
        | some (.error failure) => .error failure
        | some (.ok scalar) => ofScalar scalar

/-- The decimal that a value stands for. -/
def ofJson? : Json → Option Decimal
  | .number text => read? text
  | .string text => read? text.toList
  | .object [(key, .string text)] => if key = boxKey then read? text.toList else none
  | _ => none

end Remittance.Decimal
