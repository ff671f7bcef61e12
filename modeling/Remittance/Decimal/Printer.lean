import Remittance.Decimal.Basic
/-!
# The text of a decimal

A decimal is written with its sign, if it is a minus, and with all the places of its scale, trailing
zeros included. There is at least one digit in front of the point; a whole number has no point.
-/

namespace Remittance

namespace Decimal

-- powers are those of the core library, whatever other ones are in scope
attribute [local instance (high)] instPowNat

/-- The last `count` decimal digits of `n`, the highest first. -/
def fixedDigits : (count : Nat) → (n : Nat) → List Char
  | 0, _ => []
  | count + 1, n => fixedDigits count (n / 10) ++ [Nat.digitChar (n % 10)]

@[simp] theorem length_fixedDigits (count n : Nat) : (fixedDigits count n).length = count := by
  induction count generalizing n with
  | zero => rfl
  | succ count ih => simp [fixedDigits, ih]

/-- The text of a decimal, as characters. -/
def toChars (a : Decimal) : List Char :=
  (if a.negative then ['-'] else []) ++
    Nat.toDigits 10 (a.magnitude / 10 ^ a.scale) ++
    if a.scale = 0 then [] else '.' :: fixedDigits a.scale (a.magnitude % 10 ^ a.scale)

/-- The text of a decimal. -/
protected def toString (a : Decimal) : String := String.ofList a.toChars

instance : ToString Decimal := ⟨Decimal.toString⟩

end Decimal

end Remittance
