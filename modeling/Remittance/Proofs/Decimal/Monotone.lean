import Remittance.Proofs.Decimal.Rounding
/-!
# Rounding keeps the order

A sum or a difference is rounded at the place where its coefficient fits, and which place that is
depends on the number. All the same no decimal is passed on the way, as long as it has no more places
than the longer operand: what is at most the exact result is at most the rounded one, and what is at
least the exact result is at least the rounded one (`Decimal.sameSide_of_add?`,
`Decimal.sameSide_of_sub?`).
-/

namespace Remittance.Decimal

/-! ## Dropping digits -/

lemma dropDigits_neg (c : ℤ) (digits : ℕ) : dropDigits (-c) digits = -dropDigits c digits := by
  rw [dropDigits, dropDigits, Int.sign_neg, Int.natAbs_neg, neg_mul]

/-- A whole number of units of the last digit that is kept is not passed from above. -/
lemma le_dropDigits {c m : ℤ} {digits : ℕ} (h : m * 10 ^ digits ≤ c) :
    m ≤ dropDigits c digits := by
  have hpos : (0 : ℤ) < 10 ^ digits := by positivity
  have herror := dropDigits_error c digits
  by_contra hlt
  have hunit : (dropDigits c digits + 1) * 10 ^ digits ≤ m * 10 ^ digits := by
    apply mul_le_mul_of_nonneg_right _ hpos.le
    omega
  rw [add_mul, one_mul] at hunit
  have habs := le_abs_self (c - dropDigits c digits * 10 ^ digits)
  omega

/-- Where a coefficient is still too large, dropping one more digit does not take it below the bound. -/
lemma coeffBound_lt_of_full {c : ℤ} {digits : ℕ} (hfull : (coeffBound : ℤ) ≤ dropDigits c digits) :
    (coeffBound : ℤ) < dropDigits c (digits + 1) * 10 := by
  have hpos : (0 : ℤ) < 10 ^ digits := by positivity
  have herror := dropDigits_error c digits
  have herror' := dropDigits_error c (digits + 1)
  rw [pow_succ] at herror'
  have habs := neg_abs_le (c - dropDigits c digits * 10 ^ digits)
  have habs' := le_abs_self (c - dropDigits c (digits + 1) * (10 ^ digits * 10))
  -- both rounded coefficients, in halves of the unit that the longer one keeps
  have hunits : (2 * dropDigits c digits - 11) * 10 ^ digits ≤
      20 * dropDigits c (digits + 1) * 10 ^ digits := by
    linarith
  have hhalves := le_of_mul_le_mul_right hunits hpos
  -- the bound ends with a six, so that the next ten lies above it
  have hbound : (coeffBound : ℤ) = 79228162514264337593543950336 := rfl
  omega

/-- A coefficient that fits is not passed from above when as many digits are dropped as have to be. -/
lemma mul_le_dropDigits_mul {a c : ℤ} {digits dropped : ℕ} (ha : a.natAbs < coeffBound)
    (h : a * 10 ^ digits ≤ c)
    (hfull : ∀ i < dropped, coeffBound ≤ (dropDigits c i).natAbs) :
    a * 10 ^ digits ≤ dropDigits c dropped * 10 ^ dropped := by
  rcases Nat.lt_or_ge digits dropped with hmore | hfew
  · -- the last digit is dropped from a coefficient that is too large, but still at least the bound
    obtain ⟨kept, rfl⟩ : ∃ kept, dropped = kept + 1 := ⟨dropped - 1, by omega⟩
    have hdigits : (10 : ℤ) ^ digits ≤ 10 ^ kept := by
      apply pow_le_pow_right₀ (by norm_num)
      omega
    have hlow : (1 - coeffBound : ℤ) ≤ dropDigits c kept := by
      apply le_dropDigits
      calc (1 - coeffBound : ℤ) * 10 ^ kept
          ≤ (1 - coeffBound : ℤ) * 10 ^ digits := by
            apply mul_le_mul_of_nonpos_left hdigits
            simp [coeffBound]
        _ ≤ a * 10 ^ digits := by
            apply mul_le_mul_of_nonneg_right _ (by positivity)
            omega
        _ ≤ c := h
    have hkept : (coeffBound : ℤ) ≤ dropDigits c kept := by
      have hlarge := hfull kept (by omega)
      omega
    have hfits := coeffBound_lt_of_full hkept
    calc a * 10 ^ digits
        ≤ coeffBound * 10 ^ digits := by
          apply mul_le_mul_of_nonneg_right _ (by positivity)
          omega
      _ ≤ coeffBound * 10 ^ kept := mul_le_mul_of_nonneg_left hdigits (by positivity)
      _ ≤ dropDigits c (kept + 1) * 10 * 10 ^ kept :=
          mul_le_mul_of_nonneg_right hfits.le (by positivity)
      _ = dropDigits c (kept + 1) * 10 ^ (kept + 1) := by ring
  · have hzeros : a * 10 ^ digits = a * 10 ^ (digits - dropped) * 10 ^ dropped := by
      rw [mul_assoc, ← pow_add, Nat.sub_add_cancel hfew]
    rw [hzeros] at h ⊢
    exact mul_le_mul_of_nonneg_right (le_dropDigits h) (by positivity)

/-- Nor is it passed from below. -/
lemma dropDigits_mul_le_mul {a c : ℤ} {digits dropped : ℕ} (ha : a.natAbs < coeffBound)
    (h : c ≤ a * 10 ^ digits)
    (hfull : ∀ i < dropped, coeffBound ≤ (dropDigits c i).natAbs) :
    dropDigits c dropped * 10 ^ dropped ≤ a * 10 ^ digits := by
  have ha' : (-a).natAbs < coeffBound := by rwa [Int.natAbs_neg]
  have h' : -a * 10 ^ digits ≤ -c := by
    rw [neg_mul]
    omega
  have hfull' : ∀ i < dropped, coeffBound ≤ (dropDigits (-c) i).natAbs := by
    intro i hi
    rw [dropDigits_neg, Int.natAbs_neg]
    exact hfull i hi
  have hopposite := mul_le_dropDigits_mul ha' h' hfull'
  rw [dropDigits_neg, neg_mul, neg_mul] at hopposite
  omega

/-! ## Sums and differences -/

lemma toRat_zero : zero.toRat = 0 := by
  rw [← coeff_eq_zero_iff]
  rfl

/-- On the way from the number `q` to `r` the decimal `x` is not passed. -/
structure SameSide (r : Decimal) (q : ℚ) (x : Decimal) : Prop where
  le : x.toRat ≤ q → x.toRat ≤ r.toRat
  ge : q ≤ x.toRat → r.toRat ≤ x.toRat

/-- The decimal that fits is on the same side of every other one with no more places. -/
lemma sameSide_of_fit? {c : ℤ} {scale : ℕ} {r x : Decimal} (hscale : scale ≤ maxScale)
    (hfit : fit? c scale = some r) (hx : x.scale ≤ scale) : r.SameSide (c / 10 ^ scale) x := by
  obtain ⟨digits, hdigits, hcoeff, hfull⟩ := exists_dropped_of_fitFrom? hscale hfit
  simp only [Nat.zero_add] at hcoeff hfull
  have hpos : (0 : ℚ) < 10 ^ scale := by positivity
  -- all three numbers as coefficients at the scale of the exact result
  have hr : r.toRat * 10 ^ scale = (dropDigits c digits * 10 ^ digits : ℤ) := by
    rw [← hdigits, pow_add, ← mul_assoc, ← coeff_eq, hcoeff]
    push_cast
    rfl
  have hxcoeff : x.toRat * 10 ^ scale = (x.coeff * 10 ^ (scale - x.scale) : ℤ) :=
    (coeffAt_eq hx).symm
  constructor
  · intro hle
    rw [le_div_iff₀ hpos, hxcoeff, Int.cast_le] at hle
    rw [← mul_le_mul_iff_of_pos_right hpos, hxcoeff, hr, Int.cast_le]
    exact mul_le_dropDigits_mul x.natAbs_coeff_lt hle hfull
  · intro hge
    rw [div_le_iff₀ hpos, hxcoeff, Int.cast_le] at hge
    rw [← mul_le_mul_iff_of_pos_right hpos, hxcoeff, hr, Int.cast_le]
    exact dropDigits_mul_le_mul x.natAbs_coeff_lt hge hfull

section
variable {a b r x : Decimal}

/-- A sum is on the same side of every decimal with no more places as the exact sum. -/
theorem sameSide_of_add? (h : add? a b = some r) (hx : x.scale ≤ max a.scale b.scale) :
    r.SameSide (a.toRat + b.toRat) x := by
  rcases add?_cases h with ⟨hzero, rfl⟩ | ⟨hzero, rfl⟩ | hfit
  · rw [hzero, zero_add]
    exact ⟨id, id⟩
  · rw [hzero, add_zero]
    exact ⟨id, id⟩
  · rw [← coeffAt_add_div]
    exact sameSide_of_fit? (max_le a.scale_le b.scale_le) hfit hx

/-- A difference is on the same side of every decimal with no more places as the exact difference. -/
theorem sameSide_of_sub? (h : sub? a b = some r) (hx : x.scale ≤ max a.scale b.scale) :
    r.SameSide (a.toRat - b.toRat) x := by
  have hplaces : x.scale ≤ max a.scale b.neg.scale := by rwa [scale_neg]
  have hside := sameSide_of_add? h hplaces
  rwa [toRat_neg, ← sub_eq_add_neg] at hside

/-- What is added does not lower a number. -/
lemma toRat_le_of_add? (h : add? a b = some r) (hb : 0 ≤ b.toRat) : a.toRat ≤ r.toRat :=
  (sameSide_of_add? h (le_max_left _ _)).le (le_add_of_nonneg_right hb)

/-- What is taken away does not raise a number. -/
lemma toRat_le_of_sub? (h : sub? a b = some r) (hb : 0 ≤ b.toRat) : r.toRat ≤ a.toRat :=
  (sameSide_of_sub? h (le_max_left _ _)).ge (sub_le_self _ hb)

end

end Remittance.Decimal
