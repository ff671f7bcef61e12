import Remittance.Json.FloatingPoint
import Remittance.Json.Scalar
/-!
# Whole numbers of a bounded size
-/

namespace Remittance.Json

/-- What a number is where a whole number is asked for: a whole number of sixty-four bits, or else
floating point. A minus sign in front of zero makes it floating point. -/
inductive WholeOrFloat where
  | whole (value : Int)
  | float (value : Float)

/-- The number that a text spells, where it is not too large. -/
def WholeOrFloat.ofText? (text : List Char) : Option WholeOrFloat :=
  ((wholeNumber? text).map .whole).or ((FloatingPoint.approximate? text).map .float)

/-- How many characters of the text of a number are read before it shows that the number is too
large: an exponent is given up at its first digit that makes it larger than all that are computed
with. -/
def overflowLength (text : List Char) : Nat :=
  let mantissa := text.takeWhile fun c => c != 'e' && c != 'E'
  let behind := text.drop (mantissa.length + 1)
  let sign := (takeSign behind).token.length
  let digits := (takeSign behind).rest
  let kept := (List.range digits.length).find? fun n =>
    FloatingPoint.maxExponent < digitsValue (digits.take (n + 1))
  match kept with
  | some n => mantissa.length + 1 + sign + (n + 1)
  | none => text.length

/-- Reads a whole number below `bound`. -/
def readUnsigned (expected : String) (bound : Nat) : Reader Nat :=
  afterBlanks fun
    | [] => .error (.next .endInValue [])
    | c :: rest =>
      if startsNumber c then do
        let number ← readNumber .endInValue (c :: rest)
        match WholeOrFloat.ofText? number.value with
        | none =>
          throw (.here .numberOutOfRange ((c :: rest).drop (overflowLength number.value)))
        | some (.float x) =>
          throw (.here (.wrongKind (.float (FloatingPoint.text x)) expected) number.rest)
        | some (.whole n) =>
          if 0 ≤ n ∧ n < bound then return number.map fun _ => n.toNat
          else throw (.here (.wrongValue (.integer (toString n)) expected) number.rest)
      else .error (mismatch expected (c :: rest))

end Remittance.Json
