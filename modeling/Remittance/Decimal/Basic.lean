/-!
# Decimal amounts

A decimal is a whole number, its coefficient, divided by a power of ten, its scale. The coefficient
is kept as a sign and a magnitude of at most ninety-six bits, and the scale is at most twenty-eight;
both bounds are part of the type. The sign is kept apart because a negative number that is rounded
to zero keeps its minus sign.

Two decimals can spell the same number with different scales or signs (`1.0` and `1`, `-0` and `0`),
so the order is that of the numbers, while `=` also compares the scales and the signs.
-/

namespace Remittance

/-- One more than the largest magnitude of a coefficient. -/
def Decimal.coeffBound : Nat := 79228162514264337593543950336

/-- The largest scale. -/
def Decimal.maxScale : Nat := 28

/-- A number with its scale and its sign. -/
structure Decimal where
  /-- There is a minus sign in front; zero can have one too. -/
  negative : Bool
  /-- The digits, read without the point. -/
  magnitude : Nat
  /-- How many of the digits stand behind the point. -/
  scale : Nat
  magnitude_lt : magnitude < Decimal.coeffBound
  scale_le : scale ≤ Decimal.maxScale
deriving DecidableEq

namespace Decimal

-- powers are those of the core library, whatever other ones are in scope
attribute [local instance (high)] instPowNat

/-- The digits with the sign, read without the point: the number is `coeff / 10 ^ scale`. -/
def coeff (a : Decimal) : Int := if a.negative then -(a.magnitude : Int) else a.magnitude

theorem natAbs_coeff (a : Decimal) : a.coeff.natAbs = a.magnitude := by
  unfold coeff
  split <;> simp

/-- The decimal with this coefficient and scale, where both are within bounds. A zero has no
sign. -/
def ofCoeff? (coeff : Int) (scale : Nat) : Option Decimal :=
  if h : coeff.natAbs < coeffBound ∧ scale ≤ maxScale then
    some ⟨decide (coeff < 0), coeff.natAbs, scale, h.1, h.2⟩
  else none

theorem ofCoeff?_eq_some_iff {coeff : Int} {scale : Nat} {a : Decimal} :
    ofCoeff? coeff scale = some a ↔
      a.coeff = coeff ∧ a.scale = scale ∧ a.negative = decide (coeff < 0) := by
  unfold ofCoeff?
  constructor
  · intro h
    split at h
    · cases h
      refine ⟨?_, rfl, rfl⟩
      simp only [Decimal.coeff, decide_eq_true_eq]
      split <;> omega
    · cases h
  · rintro ⟨rfl, rfl, hneg⟩
    rw [dif_pos ⟨a.natAbs_coeff ▸ a.magnitude_lt, a.scale_le⟩]
    simp only [← hneg, natAbs_coeff]

/-- Zero, without a fraction. -/
def zero : Decimal := ⟨false, 0, 0, by decide, by decide⟩

instance : Inhabited Decimal := ⟨zero⟩

/-! ## Order -/

/-- The coefficient that `a` has when `digits` more places are written behind its point. -/
def widened (a : Decimal) (digits : Nat) : Int := a.coeff * 10 ^ digits

/-- `a` is less than `b` as a number: the coefficients are compared at one common scale. -/
protected def lt (a b : Decimal) : Prop := a.widened b.scale < b.widened a.scale

instance : LT Decimal := ⟨Decimal.lt⟩

instance (a b : Decimal) : Decidable (a < b) :=
  inferInstanceAs (Decidable (a.widened b.scale < b.widened a.scale))

/-- `a` and `b` are the same number, whatever their scales. -/
def SameValue (a b : Decimal) : Prop := a.widened b.scale = b.widened a.scale

instance (a b : Decimal) : Decidable (SameValue a b) :=
  inferInstanceAs (Decidable (a.widened b.scale = b.widened a.scale))

/-- `a` is zero or more. -/
def NonNegative (a : Decimal) : Prop := 0 ≤ a.coeff

instance (a : Decimal) : Decidable a.NonNegative := inferInstanceAs (Decidable (0 ≤ a.coeff))

/-- `a` is more than zero. -/
def Positive (a : Decimal) : Prop := 0 < a.coeff

instance (a : Decimal) : Decidable a.Positive := inferInstanceAs (Decidable (0 < a.coeff))

end Decimal

end Remittance
