import Remittance.Proofs.Decimal.Reading
import Remittance.Proofs.Decimal.Rounding
import Remittance.Proofs.Decimal.Spelling
/-!
# How exactly plain numbers are read

A text that spells more digits than a decimal has room for is not refused as long as the digits in
front of the point fit: it is rounded. `Decimal.Keeps` lists what can happen to a plain number, and
`Decimal.keeps_of_readPlain` says that nothing else does:

* all of it is kept, or
* it is cut at the last place that there is, where it is rounded unless a `_` stands there, or
* it is rounded to as many places as the coefficient has room for.

A number that some decimal stands for is kept as it is (`Keeps.exact_of_representable`).
-/

namespace Remittance.Decimal

variable {a b : Decimal} {q : ℚ} {cs rest : List Char} {negative : Bool} {t : Tally}

/-- `a` is less than one unit of its last place away from `q`. -/
def Near (a : Decimal) (q : ℚ) : Prop := |a.toRat - q| * 10 ^ a.scale < 1

lemma abs_mul_pow_ten (x : ℚ) (n : ℕ) : |x * 10 ^ n| = |x| * 10 ^ n := by
  rw [abs_mul, abs_of_pos (by positivity : (0 : ℚ) < 10 ^ n)]

lemma magnitude_eq (a : Decimal) : (a.magnitude : ℚ) = |a.toRat| * 10 ^ a.scale := by
  rw [← abs_mul_pow_ten, ← coeff_eq, ← Int.cast_abs, Int.abs_eq_natAbs, Int.cast_natCast,
    natAbs_coeff]

lemma near_of_eq (h : a.toRat = q) : a.Near q := by
  simp [Near, h]

lemma rounds_of_eq (h : a.toRat = q) : a.Rounds q := h ▸ rounds_self a

lemma Rounds.near (h : a.Rounds q) : a.Near q := lt_of_le_of_lt h (by norm_num)

/-- Whole numbers of units of one place that are less than a unit apart are one. -/
lemma Near.toRat_eq_of_scale_le (h : a.Near b.toRat) (hscale : b.scale ≤ a.scale) :
    a.toRat = b.toRat := by
  have hunits : ((a.coeff - b.coeffAt a.scale : ℤ) : ℚ) = (a.toRat - b.toRat) * 10 ^ a.scale := by
    rw [Int.cast_sub, coeff_eq, coeffAt_eq hscale, sub_mul]
  have hlt : |a.coeff - b.coeffAt a.scale| < 1 := by
    rw [Near, ← abs_mul_pow_ten, ← hunits] at h
    exact_mod_cast h
  have hzero : (a.toRat - b.toRat) * 10 ^ a.scale = 0 := by
    rw [← hunits, Int.abs_lt_one_iff.mp hlt, Int.cast_zero]
  exact sub_eq_zero.mp ((mul_eq_zero.mp hzero).resolve_right (by positivity))

/-! ## What reading keeps of a number -/

/-- What reading keeps of the number `q`: all of it, or the places up to the last one that there is,
or as many places as the coefficient has room for. At the last place the number is rounded if the
text is `sharp`. -/
inductive Keeps (a : Decimal) (q : ℚ) (sharp : Prop) : Prop where
  | exact (heq : a.toRat = q)
  | lastPlace (hscale : a.scale = maxScale) (hnear : a.Near q) (hrounds : sharp → a.Rounds q)
  | full (hrounds : a.Rounds q) (hfull : (coeffBound : ℚ) - 1 < |q| * 10 ^ (a.scale + 1))

namespace Keeps

variable {sharp sharp' : Prop}

lemma near (h : a.Keeps q sharp) : a.Near q := by
  cases h with
  | exact heq => exact near_of_eq heq
  | lastPlace _ hnear _ => exact hnear
  | full hrounds _ => exact hrounds.near

lemma rounds (h : a.Keeps q sharp) (hsharp : sharp) : a.Rounds q := by
  cases h with
  | exact heq => exact rounds_of_eq heq
  | lastPlace _ _ hrounds => exact hrounds hsharp
  | full hrounds _ => exact hrounds

lemma mono (h : a.Keeps q sharp) (hsharp : sharp' → sharp) : a.Keeps q sharp' := by
  cases h with
  | exact heq => exact .exact heq
  | lastPlace hscale hnear hrounds => exact .lastPlace hscale hnear (hrounds ∘ hsharp)
  | full hrounds hfull => exact .full hrounds hfull

/-- A number that some decimal stands for is kept as it is. -/
lemma exact_of_representable (h : a.Keeps q sharp) (hq : Representable q) : a.toRat = q := by
  obtain ⟨b, rfl⟩ := hq
  have hmax : b.scale ≤ maxScale := b.scale_le
  cases h with
  | exact heq => exact heq
  | lastPlace hscale hnear _ => exact hnear.toRat_eq_of_scale_le (hscale ▸ hmax)
  | full hrounds hfull =>
    apply hrounds.near.toRat_eq_of_scale_le
    by_contra hlt
    -- with more places than were kept, its coefficient would have room for them
    obtain ⟨extra, hextra⟩ : ∃ extra, b.scale = a.scale + 1 + extra :=
      ⟨_, (Nat.add_sub_cancel' (not_le.mp hlt)).symm⟩
    have hcoeff : |b.toRat| * 10 ^ (a.scale + 1) * 10 ^ extra ≤ coeffBound - 1 := by
      have hbound : (b.magnitude : ℚ) + 1 ≤ coeffBound := by exact_mod_cast b.magnitude_lt
      rw [mul_assoc, ← pow_add, ← hextra, ← magnitude_eq]
      linarith
    have hone : (1 : ℚ) ≤ 10 ^ extra := one_le_pow₀ (by norm_num)
    have hnonneg : 0 ≤ |b.toRat| * 10 ^ (a.scale + 1) := by positivity
    nlinarith

/-- A number that was rounded has no room for another digit, in front of the point or behind it. -/
lemma exact_or_full (h : a.Keeps q sharp) :
    a.toRat = q ∨ a.scale = maxScale ∨ coeffBound ≤ 10 * a.magnitude := by
  cases h with
  | exact heq => exact .inl heq
  | lastPlace hscale _ _ => exact .inr (.inl hscale)
  | full hrounds hfull =>
    right; right
    have hpos : (0 : ℚ) < 10 ^ a.scale := by positivity
    have hdist : |q| - |a.toRat| ≤ |a.toRat - q| := by
      rw [abs_sub_comm]
      exact abs_sub_abs_le_abs_sub q a.toRat
    have hlow : |q| * 10 ^ a.scale ≤ a.magnitude + 1 / 2 := by
      rw [Rounds] at hrounds
      rw [magnitude_eq]
      nlinarith
    have hscaled : (coeffBound : ℚ) < 10 * a.magnitude + 6 := by
      rw [pow_succ] at hfull
      linarith
    have hnat : coeffBound < 10 * a.magnitude + 6 := by exact_mod_cast hscaled
    unfold coeffBound at *
    omega

end Keeps

/-! ## The plain notation -/

/-- The digits with a sign are as far from a number with this sign as without it. -/
lemma error_decimal (h : t.decimal negative = .ok a) (q : ℚ) :
    |a.toRat - signFactor negative * q| * 10 ^ a.scale = |t.number - q * 10 ^ t.places| := by
  have hsigned := Tally.decimal_eq_ok_iff.mp h
  have hvalue : a.toRat - signFactor negative * q = signFactor negative * (t.toRat - q) := by
    rw [toRat_ofCoeff? hsigned, Tally.toRat]
    cases negative
    · simp [signFactor]
    · simp [signFactor]
      ring
  rw [hvalue, (ofCoeff?_eq_some_iff.mp hsigned).2.1, abs_mul, abs_signFactor, one_mul,
    ← abs_mul_pow_ten, sub_mul, Tally.toRat, div_mul_cancel₀ _ (by positivity)]

lemma scale_decimal (h : t.decimal negative = .ok a) : a.scale = t.places :=
  (ofCoeff?_eq_some_iff.mp (Tally.decimal_eq_ok_iff.mp h)).2.1

lemma toRat_decimal (h : t.decimal negative = .ok a) :
    a.toRat = signFactor negative * t.toRat := by
  have hzero : |a.toRat - signFactor negative * t.toRat| * 10 ^ a.scale = 0 := by
    rw [error_decimal h, Tally.toRat, div_mul_cancel₀ _ (by positivity), sub_self, abs_zero]
  exact sub_eq_zero.mp (abs_eq_zero.mp ((mul_eq_zero.mp hzero).resolve_right (by positivity)))

/-- The first digit that does not fit decides whether the digits in front of it are raised, and the
result is at most half a unit away from the whole number. -/
lemma keeps_of_round {digit : ℕ} {rounded : Tally} (hnumber : t.number < coeffBound)
    (hfull : t.isFull digit = true) (hround : t.round digit = .ok rounded)
    (h : rounded.decimal negative = .ok a) (hdigit : digit < 10)
    (hlow : (t.number * 10 + digit : ℚ) ≤ q * 10 ^ (t.places + 1))
    (hhigh : q * 10 ^ (t.places + 1) < t.number * 10 + digit + 1) :
    a.Keeps (signFactor negative * q) True := by
  have hq : |signFactor negative * q| = q := by
    have hnonneg : 0 ≤ q * 10 ^ (t.places + 1) := le_trans (by positivity) hlow
    rw [abs_mul, abs_signFactor, one_mul, abs_of_nonneg (nonneg_of_mul_nonneg_left hnonneg
      (by positivity))]
  -- there was no room for the digit in the coefficient, or no place for it
  have hkeeps (hplaces : rounded.places = t.places) (hrounds : a.Rounds (signFactor negative * q)) :
      a.Keeps (signFactor negative * q) True := by
    rcases (Bool.or_eq_true _ _).mp hfull with hbound | hlast
    · have hbound' : (coeffBound : ℚ) ≤ t.number * 10 + digit := by
        exact_mod_cast of_decide_eq_true hbound
      refine .full hrounds ?_
      rw [hq, scale_decimal h, hplaces]
      linarith
    · have hmax : t.places = maxScale := by
        simp only [Tally.isAtLastPlace, Bool.and_eq_true, beq_iff_eq] at hlast
        exact hlast.2
      exact .lastPlace (by rw [scale_decimal h, hplaces, hmax]) hrounds.near fun _ => hrounds
  rw [pow_succ] at hlow hhigh
  unfold Tally.round at hround
  split_ifs at hround with hless hroom hplaces
  · cases hround
    apply hkeeps rfl
    have hdigit' : (digit : ℚ) ≤ 4 := by exact_mod_cast Nat.le_of_lt_succ hless
    rw [Rounds, error_decimal h, abs_le]
    constructor <;> linarith
  · cases hround
    apply hkeeps rfl
    have hdigit' : (5 : ℚ) ≤ digit := by exact_mod_cast not_lt.mp hless
    have hdigit'' : (digit : ℚ) ≤ 9 := by exact_mod_cast Nat.le_of_lt_succ hdigit
    rw [Rounds, error_decimal h, abs_le]
    push_cast
    constructor <;> linarith
  · -- the carry leaves the coefficient, and one place is given up for it
    cases hround
    obtain ⟨places, hplaces⟩ := Nat.exists_eq_succ_of_ne_zero hplaces
    have hdigit' : (5 : ℚ) ≤ digit := by exact_mod_cast not_lt.mp hless
    have hdigit'' : (digit : ℚ) ≤ 9 := by exact_mod_cast Nat.le_of_lt_succ hdigit
    have hlargest : t.number = coeffBound - 1 := by omega
    have hcarry : (t.number + 5) / 10 = 7922816251426433759354395034 := by
      rw [hlargest]
      decide
    have hlargest' : (t.number : ℚ) = 79228162514264337593543950335 := by
      rw [hlargest]
      norm_num [coeffBound]
    rw [hplaces, pow_succ, hlargest'] at hlow hhigh
    apply Keeps.full
    · rw [Rounds, error_decimal h, abs_le]
      simp only [hcarry, hplaces, Nat.succ_eq_add_one, Nat.add_sub_cancel]
      push_cast
      constructor <;> linarith
    · rw [hq, scale_decimal h]
      simp only [hplaces, Nat.succ_eq_add_one, Nat.add_sub_cancel, pow_succ]
      norm_num [coeffBound]
      linarith

/-- A plain number without its sign: what is read of it keeps its number. -/
lemma keeps_of_readDigits (hnumber : t.number < coeffBound) (h : readDigits negative t cs = .ok a) :
    a.Keeps (signFactor negative * (t.pushAll cs).toRat) ('_' ∉ cs) := by
  fun_induction readDigits negative t cs with
  | case1 t hstarted => exact .exact (toRat_decimal h)
  | case3 t c rest hdigit hfull hpointed =>
    obtain ⟨-, -, h⟩ := bind_eq_ok_iff.mp h
    obtain ⟨rounded, hround, h⟩ := bind_eq_ok_iff.mp h
    rw [Tally.pushAll_cons, Tally.pushChar_of_isDigit hdigit]
    -- the digits from this one on lie behind the point
    have hpushed : (t.push (digitValue c)).pointed = true := hpointed
    have hlow := Tally.le_toRat_pushAll hpushed rest
    have hhigh := Tally.toRat_pushAll_lt hpushed rest
    simp only [Tally.push, hpointed, if_true, Nat.cast_add, Nat.cast_mul, Nat.cast_ofNat]
      at hlow hhigh
    refine (keeps_of_round hnumber hfull hround h (digitValue_lt hdigit) ?_ ?_).mono fun _ => trivial
    · simpa only [Tally.push, hpointed, if_true] using hlow
    · simpa only [Tally.push, hpointed, if_true] using hhigh
  | case5 t c rest hdigit hfull ih =>
    have hfits : t.number * 10 + digitValue c < coeffBound := by
      have hroom : ¬coeffBound ≤ t.number * 10 + digitValue c := fun hle =>
        hfull (by simp [Tally.isFull, hle])
      exact not_le.mp hroom
    rw [Tally.pushAll_cons, Tally.pushChar_of_isDigit hdigit]
    exact (ih hfits h).mono fun hfree hmem => hfree (List.mem_cons_of_mem _ hmem)
  | case7 t c rest hdigit hpoint hpointed ih =>
    have hpush : t.pushChar c = { t with pointed := true } := by
      rw [Tally.pushChar, if_neg hdigit, if_pos (beq_iff_eq.mp hpoint)]
    rw [Tally.pushAll_cons, hpush]
    exact (ih hnumber h).mono fun hfree hmem => hfree (List.mem_cons_of_mem _ hmem)
  | case9 t c rest hdigit hpoint hunderscore hstarted hlast =>
    -- behind a mark at the last place the digits are dropped without a look at them
    obtain ⟨-, -, h⟩ := bind_eq_ok_iff.mp h
    simp only [Tally.isAtLastPlace, Bool.and_eq_true, beq_iff_eq] at hlast
    obtain ⟨⟨hpointed, hplaces⟩, -⟩ := hlast
    refine .lastPlace (by rw [scale_decimal h, hplaces]) ?_ fun hfree => ?_
    · rw [Near, error_decimal h, abs_lt]
      have hlow := Tally.le_toRat_pushAll hpointed (c :: rest)
      have hhigh := Tally.toRat_pushAll_lt hpointed (c :: rest)
      constructor <;> linarith
    · rw [beq_iff_eq.mp hunderscore] at hfree
      exact absurd List.mem_cons_self hfree
  | case10 t c rest hdigit hpoint hunderscore hstarted hlast ih =>
    have hpush : t.pushChar c = t := by
      rw [Tally.pushChar, if_neg hdigit, if_neg (by simpa using hpoint)]
    rw [Tally.pushAll_cons, hpush]
    exact (ih hnumber h).mono fun hfree hmem => hfree (List.mem_cons_of_mem _ hmem)
  | _ => cases h

/-- A plain number: what is read of it keeps its number. -/
lemma keeps_of_readPlain (h : readPlain cs = .ok a) : a.Keeps (plainNumber cs) ('_' ∉ cs) := by
  have hstart : Tally.start.number < coeffBound := by decide
  unfold readPlain at h
  split at h
  · cases h
  · rw [plainNumber_minus]
    exact (keeps_of_readDigits hstart h).mono fun hfree hmem => hfree (List.mem_cons_of_mem _ hmem)
  · rw [plainNumber_plus]
    exact (keeps_of_readDigits hstart h).mono fun hfree hmem => hfree (List.mem_cons_of_mem _ hmem)
  · next hempty hminus hplus =>
    rw [plainNumber_of_no_minus hminus]
    exact keeps_of_readDigits hstart h

end Remittance.Decimal
