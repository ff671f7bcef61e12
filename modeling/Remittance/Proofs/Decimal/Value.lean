import Mathlib.Algebra.Order.Field.Rat
import Mathlib.Tactic.FieldSimp
import Mathlib.Tactic.Linarith
import Mathlib.Tactic.NormNum
import Mathlib.Tactic.Positivity
import Mathlib.Tactic.Ring
import Remittance.Decimal.Arithmetic
/-!
# The number of a decimal

`Decimal.toRat` is the number that a decimal stands for. The comparisons of decimals are those of
these numbers, whatever the scales are (`lt_iff_toRat_lt`, `sameValue_iff_toRat_eq`), and
`Decimal.Representable` tells the numbers that some decimal stands for from those that have to be
rounded.
-/

namespace Remittance.Decimal

/-- The number that a decimal stands for. -/
def toRat (a : Decimal) : ℚ := a.coeff / 10 ^ a.scale

/-- Some decimal stands for exactly this number. -/
def Representable (q : ℚ) : Prop := ∃ a : Decimal, a.toRat = q

lemma coeffBound_eq : coeffBound = 2 ^ 96 := by decide

/-! ## Coefficients at other scales -/

lemma coeff_eq (a : Decimal) : (a.coeff : ℚ) = a.toRat * 10 ^ a.scale := by
  unfold toRat
  field_simp

lemma widened_eq (a : Decimal) (digits : ℕ) :
    (a.widened digits : ℚ) = a.toRat * 10 ^ (a.scale + digits) := by
  unfold widened
  push_cast
  rw [coeff_eq, pow_add]
  ring

/-- Writing more places does not change the number. -/
lemma coeffAt_eq {a : Decimal} {scale : ℕ} (h : a.scale ≤ scale) :
    (a.coeffAt scale : ℚ) = a.toRat * 10 ^ scale := by
  rw [coeffAt, widened_eq, Nat.add_sub_cancel' h]

/-- The coefficient of a decimal has at most ninety-six bits. -/
lemma natAbs_coeff_lt (a : Decimal) : a.coeff.natAbs < coeffBound := by
  rw [natAbs_coeff]
  exact a.magnitude_lt

lemma toRat_ofCoeff? {coeff : ℤ} {scale : ℕ} {a : Decimal} (h : ofCoeff? coeff scale = some a) :
    a.toRat = coeff / 10 ^ scale := by
  obtain ⟨hcoeff, hscale, -⟩ := ofCoeff?_eq_some_iff.mp h
  rw [toRat, hcoeff, hscale]

/-- A coefficient within bounds makes a decimal. -/
lemma exists_ofCoeff? {coeff : ℤ} {scale : ℕ} (hcoeff : coeff.natAbs < coeffBound)
    (hscale : scale ≤ maxScale) : ∃ a, ofCoeff? coeff scale = some a := by
  unfold ofCoeff?
  rw [dif_pos ⟨hcoeff, hscale⟩]
  exact ⟨_, rfl⟩

/-! ## Order -/

lemma lt_iff_toRat_lt {a b : Decimal} : a < b ↔ a.toRat < b.toRat := by
  have hpos : (0 : ℚ) < 10 ^ (a.scale + b.scale) := by positivity
  show a.widened b.scale < b.widened a.scale ↔ _
  rw [← Int.cast_lt (R := ℚ), widened_eq, widened_eq, Nat.add_comm b.scale]
  exact mul_lt_mul_iff_of_pos_right hpos

lemma sameValue_iff_toRat_eq {a b : Decimal} : a.SameValue b ↔ a.toRat = b.toRat := by
  have hne : (10 : ℚ) ^ (a.scale + b.scale) ≠ 0 := by positivity
  show a.widened b.scale = b.widened a.scale ↔ _
  rw [← Int.cast_inj (α := ℚ), widened_eq, widened_eq, Nat.add_comm b.scale]
  exact mul_left_inj' hne

lemma nonNegative_iff {a : Decimal} : a.NonNegative ↔ 0 ≤ a.toRat := by
  have hpos : (0 : ℚ) < 10 ^ a.scale := by positivity
  unfold NonNegative
  rw [← Int.cast_nonneg_iff (R := ℚ), coeff_eq]
  exact mul_nonneg_iff_of_pos_right hpos

lemma positive_iff {a : Decimal} : a.Positive ↔ 0 < a.toRat := by
  have hpos : (0 : ℚ) < 10 ^ a.scale := by positivity
  unfold Positive
  rw [← Int.cast_pos (R := ℚ), coeff_eq]
  exact mul_pos_iff_of_pos_right hpos

lemma coeff_eq_zero_iff {a : Decimal} : a.coeff = 0 ↔ a.toRat = 0 := by
  have hne : (10 : ℚ) ^ a.scale ≠ 0 := by positivity
  rw [← Int.cast_eq_zero (α := ℚ), coeff_eq, mul_eq_zero, or_iff_left hne]

/-! ## The opposite number -/

lemma coeff_neg (a : Decimal) : a.neg.coeff = -a.coeff := by
  unfold neg coeff
  split <;> cases a.negative <;> simp_all

@[simp] lemma scale_neg (a : Decimal) : a.neg.scale = a.scale := by
  unfold neg
  split <;> rfl

@[simp] lemma toRat_neg (a : Decimal) : a.neg.toRat = -a.toRat := by
  rw [toRat, toRat, coeff_neg, scale_neg, Int.cast_neg, neg_div]

/-! ## Numbers that need no rounding -/

/-- A whole number of units of one place, with a coefficient that fits, is representable. -/
lemma representable_of_coeff {coeff : ℤ} {scale : ℕ} (hcoeff : coeff.natAbs < coeffBound)
    (hscale : scale ≤ maxScale) : Representable (coeff / 10 ^ scale) := by
  obtain ⟨a, ha⟩ := exists_ofCoeff? hcoeff hscale
  exact ⟨a, toRat_ofCoeff? ha⟩

/-- A sum that fits at a scale with room for both operands is representable. -/
lemma representable_add_of_fits {a b : Decimal} {scale : ℕ} (ha : a.scale ≤ scale)
    (hb : b.scale ≤ scale) (hscale : scale ≤ maxScale)
    (hfits : |a.toRat + b.toRat| * 10 ^ scale < coeffBound) : Representable (a.toRat + b.toRat) := by
  have hsum : ((a.coeffAt scale + b.coeffAt scale : ℤ) : ℚ) = (a.toRat + b.toRat) * 10 ^ scale := by
    rw [Int.cast_add, coeffAt_eq ha, coeffAt_eq hb, add_mul]
  have hbound : (a.coeffAt scale + b.coeffAt scale).natAbs < coeffBound := by
    have hpos : (0 : ℚ) < 10 ^ scale := by positivity
    rw [← abs_of_pos hpos, ← abs_mul, ← hsum] at hfits
    rw [← Nat.cast_lt (α := ℤ), Int.natCast_natAbs]
    exact_mod_cast hfits
  have hrepr := representable_of_coeff hbound hscale
  rwa [hsum, mul_div_cancel_right₀ _ (by positivity)] at hrepr

/-- If a number with `scale` places is representable, then dropping zeros from its end makes its
coefficient fit. -/
lemma exists_dropped_of_representable {coeff : ℤ} {scale : ℕ}
    (h : Representable (coeff / 10 ^ scale)) :
    ∃ digits ≤ scale, ∃ m : ℤ, coeff = m * 10 ^ digits ∧ m.natAbs < coeffBound := by
  obtain ⟨a, ha⟩ := h
  have hcross : a.coeff * 10 ^ scale = coeff * 10 ^ a.scale := by
    have hq : (a.coeff : ℚ) * 10 ^ scale = coeff * 10 ^ a.scale := by
      rw [coeff_eq, ha]
      field_simp
    exact_mod_cast hq
  rcases le_total a.scale scale with hle | hle
  · -- the places that the decimal lacks are the zeros at the end
    refine ⟨scale - a.scale, Nat.sub_le _ _, a.coeff, ?_, a.natAbs_coeff_lt⟩
    have hne : (10 : ℤ) ^ a.scale ≠ 0 := by positivity
    apply mul_right_cancel₀ hne
    rw [← hcross, mul_assoc, ← pow_add, Nat.sub_add_cancel hle]
  · -- the decimal has more places than the coefficient, which is then no larger than its own
    refine ⟨0, Nat.zero_le _, coeff, by simp, ?_⟩
    have hne : (10 : ℤ) ^ scale ≠ 0 := by positivity
    have hcoeff : a.coeff = coeff * 10 ^ (a.scale - scale) := by
      apply mul_right_cancel₀ hne
      rw [hcross, mul_assoc, ← pow_add, Nat.sub_add_cancel hle]
    have hlt := a.natAbs_coeff_lt
    rw [hcoeff, Int.natAbs_mul, Int.natAbs_pow] at hlt
    exact lt_of_le_of_lt (Nat.le_mul_of_pos_right _ (by positivity)) hlt

end Remittance.Decimal
