import Remittance.Proofs.Decimal.Value
/-!
# How far sums and differences are rounded

A sum that fits nowhere else is rounded to the last place that it keeps. Two facts say what that
does to the number:

* `Decimal.rounds_of_add?`: the result is at most half a unit of its own last place away from the
  exact sum (`Decimal.Rounds`).
* `Decimal.exists_add?_of_representable`: a sum that some decimal stands for is not rounded at all,
  and no other sum is exact (`Decimal.toRat_eq_add_iff`).

Differences are sums with the opposite number.
-/

namespace Remittance.Decimal

/-- `a` is the number `q` rounded to the last place of `a`: it is at most half a unit of that place
away from it. -/
def Rounds (a : Decimal) (q : ℚ) : Prop := |a.toRat - q| * 10 ^ a.scale ≤ 1 / 2

/-- A decimal rounds its own number. -/
lemma rounds_self (a : Decimal) : a.Rounds a.toRat := by
  simp [Rounds]

/-- Rounding does not go below zero. -/
lemma Rounds.nonNegative {a : Decimal} {q : ℚ} (h : a.Rounds q) (hq : 0 ≤ q) : a.NonNegative := by
  have hpos : (0 : ℚ) < 10 ^ a.scale := by positivity
  have hlow : -(1 / 2) ≤ (a.toRat - q) * 10 ^ a.scale := by
    have habs := neg_abs_le ((a.toRat - q) * 10 ^ a.scale)
    rw [abs_mul, abs_of_pos hpos] at habs
    exact le_trans (neg_le_neg h) habs
  have hcoeff : (-1 : ℚ) < a.coeff := by
    have hscaled : 0 ≤ q * 10 ^ a.scale := mul_nonneg hq hpos.le
    rw [coeff_eq]
    linarith
  have hint : -1 < a.coeff := by exact_mod_cast hcoeff
  unfold NonNegative
  omega

/-! ## Dropping digits -/

/-- A rounded quotient is at most half a divisor away from the exact one. -/
lemma roundHalfEven_error {n d : ℕ} (hd : 0 < d) :
    2 * n ≤ 2 * (d * roundHalfEven n d) + d ∧ 2 * (d * roundHalfEven n d) ≤ 2 * n + d := by
  have hdiv : d * (n / d) + n % d = n := Nat.div_add_mod n d
  have hmod : n % d < d := Nat.mod_lt n hd
  unfold roundHalfEven
  split_ifs with hless hmore
  · omega
  · rw [Nat.mul_succ]
    omega
  · -- a tie: the quotient itself is even, or its successor is
    rcases Nat.mod_two_eq_zero_or_one (n / d) with heven | hodd
    · rw [heven, Nat.add_zero]
      omega
    · rw [hodd, Nat.mul_succ]
      omega

/-- Dropping digits moves a coefficient by at most half a unit of the last digit that is kept. -/
lemma dropDigits_error (c : ℤ) (digits : ℕ) :
    2 * |c - dropDigits c digits * 10 ^ digits| ≤ 10 ^ digits := by
  set d : ℕ := 10 ^ digits with hd
  set r : ℕ := roundHalfEven c.natAbs d
  obtain ⟨hlow, hhigh⟩ := roundHalfEven_error (n := c.natAbs) (d := d) (by positivity)
  -- both numbers have the sign of `c`, so their distance is that of their magnitudes
  have hsplit : c - dropDigits c digits * 10 ^ digits = c.sign * (c.natAbs - d * r) := by
    have hc : c.sign * (c.natAbs : ℤ) = c := Int.sign_mul_natAbs c
    have hdrop : dropDigits c digits * 10 ^ digits = c.sign * (d * r) := by
      rw [dropDigits, hd]
      push_cast
      ring
    rw [hdrop, mul_sub, hc]
  have hsign : |c.sign| ≤ 1 := by
    rcases Int.sign_trichotomy c with h | h | h <;> simp [h]
  have hdist : 2 * |(c.natAbs : ℤ) - d * r| ≤ d := by
    have hlow' : 2 * (c.natAbs : ℤ) ≤ 2 * (d * r) + d := by exact_mod_cast hlow
    have hhigh' : 2 * (d * r : ℤ) ≤ 2 * c.natAbs + d := by exact_mod_cast hhigh
    rcases abs_cases ((c.natAbs : ℤ) - d * r) with ⟨h, -⟩ | ⟨h, -⟩ <;> rw [h] <;> linarith
  calc 2 * |c - dropDigits c digits * 10 ^ digits|
      = 2 * (|c.sign| * |(c.natAbs : ℤ) - d * r|) := by rw [hsplit, abs_mul]
    _ ≤ 2 * (1 * |(c.natAbs : ℤ) - d * r|) := by gcongr
    _ ≤ 10 ^ digits := by
        rw [one_mul]
        exact le_trans hdist (by simp [hd])

/-- Zeros are dropped without a trace. -/
lemma dropDigits_mul (m : ℤ) (digits : ℕ) : dropDigits (m * 10 ^ digits) digits = m := by
  have herror := dropDigits_error (m * 10 ^ digits) digits
  set x := dropDigits (m * 10 ^ digits) digits
  have hpos : (0 : ℤ) < 10 ^ digits := by positivity
  rw [← sub_mul, abs_mul, abs_of_pos hpos, ← mul_assoc] at herror
  have hle : 2 * |m - x| ≤ 1 := le_of_mul_le_mul_right (by rwa [one_mul]) hpos
  have hzero : |m - x| = 0 := by
    have := abs_nonneg (m - x)
    omega
  rw [abs_eq_zero] at hzero
  omega

/-- Dropping digits does not take a magnitude above a bound that ends with as many zeros. -/
lemma natAbs_dropDigits_le {c : ℤ} {bound digits : ℕ} (h : c.natAbs ≤ bound * 10 ^ digits) :
    (dropDigits c digits).natAbs ≤ bound := by
  have hpos : 0 < 10 ^ digits := by positivity
  obtain ⟨-, hhigh⟩ := roundHalfEven_error (n := c.natAbs) hpos
  have hround : roundHalfEven c.natAbs (10 ^ digits) ≤ bound := by
    by_contra hlt
    have hmul : 10 ^ digits * (bound + 1) ≤ 10 ^ digits * roundHalfEven c.natAbs (10 ^ digits) :=
      Nat.mul_le_mul_left _ (not_le.mp hlt)
    rw [Nat.mul_succ, Nat.mul_comm _ bound] at hmul
    omega
  rw [dropDigits, Int.natAbs_mul, Int.natAbs_natCast]
  calc c.sign.natAbs * roundHalfEven c.natAbs (10 ^ digits)
      ≤ 1 * roundHalfEven c.natAbs (10 ^ digits) := by
        gcongr
        rcases Int.sign_trichotomy c with hsign | hsign | hsign <;> simp [hsign]
    _ ≤ bound := by rwa [one_mul]

/-! ## The place at which a number fits -/

/-- What `fitFrom?` gives has as many digits dropped as are needed, and no more. -/
lemma exists_dropped_of_fitFrom? {c : ℤ} {dropped scale : ℕ} {a : Decimal}
    (hscale : scale ≤ maxScale) (h : fitFrom? c dropped scale = some a) :
    ∃ digits, a.scale + digits = scale ∧ a.coeff = dropDigits c (dropped + digits) ∧
      ∀ i < digits, coeffBound ≤ (dropDigits c (dropped + i)).natAbs := by
  induction scale generalizing dropped with
  | zero =>
    obtain ⟨hcoeff, ha, -⟩ := ofCoeff?_eq_some_iff.mp h
    exact ⟨0, by omega, hcoeff, by simp⟩
  | succ scale ih =>
    rw [fitFrom?, Option.or_eq_some_iff] at h
    rcases h with hfits | ⟨hnone, hrest⟩
    · obtain ⟨hcoeff, ha, -⟩ := ofCoeff?_eq_some_iff.mp hfits
      exact ⟨0, by omega, hcoeff, by simp⟩
    · -- nothing fits with this digit, so it is one of the dropped ones
      obtain ⟨digits, hdigits, hcoeff, hfull⟩ := ih (Nat.le_of_succ_le hscale) hrest
      refine ⟨digits + 1, by omega, by rw [hcoeff, Nat.add_right_comm]; rfl, ?_⟩
      intro i hi
      cases i with
      | zero =>
        by_contra hlt
        obtain ⟨b, hb⟩ := exists_ofCoeff? (not_le.mp hlt) hscale
        rw [Nat.add_zero, hnone] at hb
        cases hb
      | succ i =>
        have := hfull i (by omega)
        rwa [Nat.add_right_comm] at this

/-- `fitFrom?` finds a decimal as soon as some number of dropped digits makes the rest fit. -/
lemma exists_fitFrom? (c : ℤ) (dropped digits : ℕ) {scale : ℕ} (hscale : scale ≤ maxScale)
    (hdigits : digits ≤ scale) (hfits : (dropDigits c (dropped + digits)).natAbs < coeffBound) :
    ∃ a, fitFrom? c dropped scale = some a := by
  induction scale generalizing dropped digits with
  | zero =>
    obtain rfl : digits = 0 := by omega
    exact exists_ofCoeff? hfits hscale
  | succ scale ih =>
    cases hfirst : ofCoeff? (dropDigits c dropped) (scale + 1) with
    | some a => exact ⟨a, by rw [fitFrom?, hfirst, Option.some_or]⟩
    | none =>
      rw [fitFrom?, hfirst, Option.none_or]
      cases digits with
      | zero =>
        obtain ⟨a, ha⟩ := exists_ofCoeff? hfits hscale
        rw [Nat.add_zero, hfirst] at ha
        cases ha
      | succ digits =>
        apply ih (dropped + 1) digits (by omega) (by omega)
        rwa [Nat.add_right_comm]

/-- The decimal that fits rounds the number. -/
lemma rounds_of_fit? {c : ℤ} {scale : ℕ} {a : Decimal} (hscale : scale ≤ maxScale)
    (h : fit? c scale = some a) : a.Rounds (c / 10 ^ scale) := by
  obtain ⟨digits, hdigits, hcoeff, -⟩ := exists_dropped_of_fitFrom? hscale h
  rw [Nat.zero_add] at hcoeff
  have herror : 2 * |(c : ℚ) - a.coeff * 10 ^ digits| ≤ 10 ^ digits := by
    rw [hcoeff]
    exact_mod_cast dropDigits_error c digits
  have hpos : (0 : ℚ) < 10 ^ digits := by positivity
  have hunits : (a.toRat - c / 10 ^ scale) * 10 ^ a.scale * 10 ^ digits =
      a.coeff * 10 ^ digits - c := by
    rw [sub_mul, ← coeff_eq, sub_mul, mul_assoc, ← pow_add, hdigits]
    field_simp
  have habs : |a.toRat - c / 10 ^ scale| * 10 ^ a.scale * 10 ^ digits =
      |(c : ℚ) - a.coeff * 10 ^ digits| := by
    rw [abs_sub_comm (c : ℚ), ← hunits, abs_mul, abs_mul, abs_of_pos hpos,
      abs_of_pos (by positivity : (0 : ℚ) < 10 ^ a.scale)]
  unfold Rounds
  rw [le_div_iff₀ (by norm_num), ← mul_le_mul_iff_of_pos_right hpos]
  linarith

/-- A representable number is not rounded. -/
lemma exists_fit?_of_representable {c : ℤ} {scale : ℕ} (hscale : scale ≤ maxScale)
    (h : Representable (c / 10 ^ scale)) :
    ∃ a, fit? c scale = some a ∧ a.toRat = c / 10 ^ scale := by
  obtain ⟨zeros, hzeros, m, rfl, hm⟩ := exists_dropped_of_representable h
  have hdrop : dropDigits (m * 10 ^ zeros) zeros = m := dropDigits_mul m zeros
  obtain ⟨a, ha⟩ := exists_fitFrom? (m * 10 ^ zeros) 0 zeros hscale hzeros
    (by rwa [Nat.zero_add, hdrop])
  obtain ⟨digits, hdigits, hcoeff, hfull⟩ := exists_dropped_of_fitFrom? hscale ha
  -- no more digits are dropped than there are zeros at the end
  have hle : digits ≤ zeros := by
    by_contra hlt
    have := hfull zeros (not_le.mp hlt)
    rw [Nat.zero_add, hdrop] at this
    omega
  have hkept : m * 10 ^ zeros = m * 10 ^ (zeros - digits) * 10 ^ digits := by
    rw [mul_assoc, ← pow_add, Nat.sub_add_cancel hle]
  refine ⟨a, ha, ?_⟩
  rw [Nat.zero_add, hkept, dropDigits_mul] at hcoeff
  rw [toRat, hcoeff, hkept, ← hdigits]
  push_cast
  rw [pow_add]
  field_simp

/-- A number that is no further from zero than some decimal fits. -/
lemma exists_fit?_of_natAbs_le {c : ℤ} {scale : ℕ} {a : Decimal} (hscale : scale ≤ maxScale)
    (h : c.natAbs ≤ (a.coeffAt scale).natAbs) : ∃ r, fit? c scale = some r := by
  have hbound : c.natAbs ≤ a.magnitude * 10 ^ (scale - a.scale) := by
    rw [coeffAt, widened, Int.natAbs_mul, Int.natAbs_pow, natAbs_coeff] at h
    exact h
  -- once the places that the decimal lacks are dropped, its own coefficient is a bound
  apply exists_fitFrom? c 0 (scale - a.scale) hscale (Nat.sub_le _ _)
  rw [Nat.zero_add]
  exact lt_of_le_of_lt (natAbs_dropDigits_le hbound) a.magnitude_lt

/-! ## Sums and differences -/

section
variable {a b r : Decimal}

/-- The exact sum as a coefficient at the larger scale. -/
lemma coeffAt_add_div (a b : Decimal) :
    ((a.coeffAt (max a.scale b.scale) + b.coeffAt (max a.scale b.scale) : ℤ) : ℚ) /
      10 ^ max a.scale b.scale = a.toRat + b.toRat := by
  rw [Int.cast_add, coeffAt_eq (le_max_left _ _), coeffAt_eq (le_max_right _ _)]
  field_simp

/-- A sum is one of its operands, when the other one is zero, or what fits of the exact sum. -/
lemma add?_cases (h : add? a b = some r) :
    (a.toRat = 0 ∧ r = b) ∨ (b.toRat = 0 ∧ r = a) ∨
      fit? (a.coeffAt (max a.scale b.scale) + b.coeffAt (max a.scale b.scale))
        (max a.scale b.scale) = some r := by
  unfold add? at h
  split_ifs at h with ha hb
  · exact .inl ⟨coeff_eq_zero_iff.mp ha, (Option.some.inj h).symm⟩
  · exact .inr (.inl ⟨coeff_eq_zero_iff.mp hb, (Option.some.inj h).symm⟩)
  · exact .inr (.inr h)

/-- A sum is rounded to its own last place. -/
theorem rounds_of_add? (h : add? a b = some r) : r.Rounds (a.toRat + b.toRat) := by
  rcases add?_cases h with ⟨hzero, rfl⟩ | ⟨hzero, rfl⟩ | hfit
  · rw [hzero, zero_add]
    exact rounds_self r
  · rw [hzero, add_zero]
    exact rounds_self r
  · rw [← coeffAt_add_div]
    exact rounds_of_fit? (max_le a.scale_le b.scale_le) hfit

/-- A difference is rounded to its own last place. -/
theorem rounds_of_sub? (h : sub? a b = some r) : r.Rounds (a.toRat - b.toRat) := by
  have hrounds := rounds_of_add? h
  rwa [toRat_neg, ← sub_eq_add_neg] at hrounds

/-- A sum has no more places than the longer operand. -/
lemma scale_le_of_add? (h : add? a b = some r) : r.scale ≤ max a.scale b.scale := by
  rcases add?_cases h with ⟨-, rfl⟩ | ⟨-, rfl⟩ | hfit
  · exact le_max_right _ _
  · exact le_max_left _ _
  · obtain ⟨digits, hdigits, -⟩ :=
      exists_dropped_of_fitFrom? (max_le a.scale_le b.scale_le) hfit
    omega

lemma scale_le_of_sub? (h : sub? a b = some r) : r.scale ≤ max a.scale b.scale := by
  have := scale_le_of_add? h
  rwa [scale_neg] at this

/-- A sum that some decimal stands for is taken exactly. -/
theorem exists_add?_of_representable (h : Representable (a.toRat + b.toRat)) :
    ∃ r, add? a b = some r ∧ r.toRat = a.toRat + b.toRat := by
  unfold add?
  split_ifs with ha hb
  · exact ⟨b, rfl, by rw [coeff_eq_zero_iff.mp ha, zero_add]⟩
  · exact ⟨a, rfl, by rw [coeff_eq_zero_iff.mp hb, add_zero]⟩
  · rw [← coeffAt_add_div] at h ⊢
    exact exists_fit?_of_representable (max_le a.scale_le b.scale_le) h

/-- A difference that some decimal stands for is taken exactly. -/
theorem exists_sub?_of_representable (h : Representable (a.toRat - b.toRat)) :
    ∃ r, sub? a b = some r ∧ r.toRat = a.toRat - b.toRat := by
  rw [sub_eq_add_neg, ← toRat_neg] at h ⊢
  exact exists_add?_of_representable h

/-- The difference of two decimals that are not negative always fits. -/
theorem exists_sub?_of_nonNegative (ha : a.NonNegative) (hb : b.NonNegative) :
    ∃ r, sub? a b = some r := by
  unfold sub? add?
  split_ifs with hzero hzero'
  · exact ⟨_, rfl⟩
  · exact ⟨_, rfl⟩
  · rw [scale_neg]
    set scale := max a.scale b.scale
    have hscale : scale ≤ maxScale := max_le a.scale_le b.scale_le
    have hnonneg : 0 ≤ a.coeffAt scale := mul_nonneg ha (by positivity)
    have hnonneg' : 0 ≤ b.coeffAt scale := mul_nonneg hb (by positivity)
    have hneg : b.neg.coeffAt scale = -b.coeffAt scale := by
      simp only [coeffAt, widened, coeff_neg, scale_neg, neg_mul]
    -- the difference is no further from zero than the larger operand
    rcases le_total (b.coeffAt scale) (a.coeffAt scale) with hle | hle
    · exact exists_fit?_of_natAbs_le (a := a) hscale (by omega)
    · exact exists_fit?_of_natAbs_le (a := b) hscale (by omega)

/-- A sum is exact just when some decimal stands for it. -/
theorem toRat_eq_add_iff (h : add? a b = some r) :
    r.toRat = a.toRat + b.toRat ↔ Representable (a.toRat + b.toRat) := by
  constructor
  · intro hexact
    exact ⟨r, hexact⟩
  · intro hrepr
    obtain ⟨r', hr', hexact⟩ := exists_add?_of_representable hrepr
    rw [h] at hr'
    cases hr'
    exact hexact

/-- A difference is exact just when some decimal stands for it. -/
theorem toRat_eq_sub_iff (h : sub? a b = some r) :
    r.toRat = a.toRat - b.toRat ↔ Representable (a.toRat - b.toRat) := by
  have hiff := toRat_eq_add_iff h
  rwa [toRat_neg, ← sub_eq_add_neg] at hiff

end

end Remittance.Decimal
