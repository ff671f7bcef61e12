import Remittance.Proofs.Decimal.PlainNumber
/-!
# How exactly decimals are read

An exponent moves the point of a plain number. Places that there are not are rounded away, so the
error of the plain number and that of the shift come together. `Decimal.Approximates` says what is
left of the number of a text in either notation, and `Decimal.approximates_of_read` that this holds
of every text that is read:

* the decimal is less than one unit of its last place away from the number,
* in the plain notation without `_` it is at most half a unit away, and
* numbers that some decimal stands for are read exactly.
-/

namespace Remittance.Decimal

variable {a b : Decimal} {q : ℚ} {cs : List Char} {negative : Bool} {t : Tally}

/-! ## Exponents -/

lemma not_isExponentMark_of_checkTail (h : checkTail cs = .ok ()) :
    ∀ c ∈ cs, isExponentMark c = false := by
  induction cs with
  | nil => simp
  | cons c rest ih =>
    rw [checkTail] at h
    split_ifs at h with hdropped
    simp only [Bool.or_eq_true, beq_iff_eq] at hdropped
    exact List.forall_mem_cons.mpr
      ⟨not_isExponentMark (hdropped.imp_right fun h => .inr (.inl h)), ih h⟩

lemma not_isExponentMark_of_readDigits (h : readDigits negative t cs = .ok a) :
    ∀ c ∈ cs, isExponentMark c = false := by
  fun_induction readDigits negative t cs with
  | case1 t hstarted => simp
  | case3 t c rest hdigit hfull hpointed =>
    obtain ⟨⟨⟩, htail, -⟩ := bind_eq_ok_iff.mp h
    exact List.forall_mem_cons.mpr
      ⟨not_isExponentMark (.inl hdigit), not_isExponentMark_of_checkTail htail⟩
  | case5 t c rest hdigit hfull ih =>
    exact List.forall_mem_cons.mpr ⟨not_isExponentMark (.inl hdigit), ih h⟩
  | case7 t c rest hdigit hpoint hpointed ih =>
    exact List.forall_mem_cons.mpr
      ⟨not_isExponentMark (.inr (.inl (beq_iff_eq.mp hpoint))), ih h⟩
  | case9 t c rest hdigit hpoint hunderscore hstarted hlast =>
    obtain ⟨⟨⟩, htail, -⟩ := bind_eq_ok_iff.mp h
    exact List.forall_mem_cons.mpr
      ⟨not_isExponentMark (.inr (.inr (.inl (beq_iff_eq.mp hunderscore)))),
        not_isExponentMark_of_checkTail htail⟩
  | case10 t c rest hdigit hpoint hunderscore hstarted hlast ih =>
    exact List.forall_mem_cons.mpr
      ⟨not_isExponentMark (.inr (.inr (.inl (beq_iff_eq.mp hunderscore)))), ih h⟩
  | _ => cases h

/-- A plain number has no exponent mark. -/
lemma not_isExponentMark_of_readPlain (h : readPlain cs = .ok a) :
    ∀ c ∈ cs, isExponentMark c = false := by
  unfold readPlain at h
  split at h
  · cases h
  · exact List.forall_mem_cons.mpr ⟨by decide, not_isExponentMark_of_readDigits h⟩
  · exact List.forall_mem_cons.mpr ⟨by decide, not_isExponentMark_of_readDigits h⟩
  · exact not_isExponentMark_of_readDigits h

/-- Dropping digits moves a number by at most half a unit of the last digit that is kept. -/
lemma dropHalfUp_error (n digits : ℕ) :
    2 * n ≤ 2 * (dropHalfUp n digits * 10 ^ digits) + 10 ^ digits ∧
      2 * (dropHalfUp n digits * 10 ^ digits) ≤ 2 * n + 10 ^ digits := by
  cases digits with
  | zero => simp [dropHalfUp]
  | succ digits =>
    set p := 10 ^ digits with hp
    have hkept : n / 10 ^ (digits + 1) = n / p / 10 := by
      rw [pow_succ, ← hp, Nat.div_div_eq_div_mul]
    have hsplit : n = n / p / 10 * (p * 10) + n / p % 10 * p + n % p := by
      have hlow := Nat.div_add_mod n p
      have hhigh := Nat.div_add_mod (n / p) 10
      calc n = p * (10 * (n / p / 10) + n / p % 10) + n % p := by rw [hhigh, hlow]
        _ = _ := by ring
    have hrest : n % p < p := Nat.mod_lt n (by positivity)
    rw [dropHalfUp, hkept, pow_succ, ← hp]
    split_ifs with hless
    · have hdigit : n / p % 10 * p ≤ 4 * p := Nat.mul_le_mul_right _ (Nat.le_of_lt_succ hless)
      omega
    · have hdigit : 5 * p ≤ n / p % 10 * p := Nat.mul_le_mul_right _ (not_lt.mp hless)
      have hdigit' : n / p % 10 * p ≤ 9 * p :=
        Nat.mul_le_mul_right _ (Nat.le_of_lt_succ (Nat.mod_lt _ (by norm_num)))
      rw [Nat.add_mul]
      omega

/-- A number that needs more places than there are loses the digits that stand too far behind. -/
lemma rounds_of_dropHalfUp {n dropped : ℕ} (hdropped : a.scale + n = maxScale + dropped)
    (hnegative : b.negative = a.negative) (hscale : b.scale = maxScale)
    (hmagnitude : b.magnitude = dropHalfUp a.magnitude dropped) : b.Rounds (a.toRat / 10 ^ n) := by
  have hexact : a.toRat / 10 ^ n * 10 ^ maxScale =
      signFactor a.negative * (a.magnitude / 10 ^ dropped) := by
    have hpow : (10 : ℚ) ^ a.scale * 10 ^ n = 10 ^ maxScale * 10 ^ dropped := by
      rw [← pow_add, ← pow_add, hdropped]
    rw [toRat_eq_signFactor_mul]
    field_simp
    rw [mul_assoc, ← hpow, ← mul_assoc]
  have herror : |(dropHalfUp a.magnitude dropped : ℚ) - a.magnitude / 10 ^ dropped| ≤ 1 / 2 := by
    obtain ⟨hlow, hhigh⟩ := dropHalfUp_error a.magnitude dropped
    have hpos : (0 : ℚ) < 10 ^ dropped := by positivity
    have hlow' : 2 * (a.magnitude : ℚ) ≤
        2 * (dropHalfUp a.magnitude dropped * 10 ^ dropped) + 10 ^ dropped := by
      exact_mod_cast hlow
    have hhigh' : 2 * ((dropHalfUp a.magnitude dropped : ℚ) * 10 ^ dropped) ≤
        2 * a.magnitude + 10 ^ dropped := by
      exact_mod_cast hhigh
    have hdiv : (a.magnitude : ℚ) / 10 ^ dropped * 10 ^ dropped = a.magnitude :=
      div_mul_cancel₀ _ hpos.ne'
    rw [abs_le]
    constructor <;> nlinarith
  rw [Rounds, ← abs_mul_pow_ten, sub_mul, hscale, hexact, toRat_eq_signFactor_mul b, hscale,
    hnegative, hmagnitude, mul_assoc, div_mul_cancel₀ _ (by positivity), ← mul_sub, abs_mul,
    abs_signFactor, one_mul]
  exact herror

/-- A negative exponent adds places, or the number is rounded to the last place that there is. -/
lemma shiftDown_cases {n : ℕ} (h : shiftDown a n = .ok b) :
    (b.scale = a.scale + n ∧ b.toRat = a.toRat / 10 ^ n) ∨
      (b.scale = maxScale ∧ maxScale < a.scale + n ∧ b.Rounds (a.toRat / 10 ^ n)) := by
  unfold shiftDown at h
  split_ifs at h with hlarge hscale
  · cases h
    left
    refine ⟨rfl, ?_⟩
    rw [toRat, toRat, pow_add, div_div]
    rfl
  · cases h
    right
    have hdropped := (Nat.add_sub_cancel' (not_le.mp hscale).le).symm
    exact ⟨rfl, not_le.mp hscale, rounds_of_dropHalfUp hdropped rfl rfl rfl⟩

/-- A positive exponent takes places away. Where there are too few of them, zeros are added to the
number, which has to have room for them. -/
lemma shiftUp_cases {n : ℕ} (h : shiftUp a n = .ok b) :
    b.toRat = a.toRat * 10 ^ n ∧
      (b.scale + n = a.scale ∨ a.scale < maxScale ∧ 10 * a.magnitude < coeffBound) := by
  unfold shiftUp at h
  split_ifs at h with hscale hlarge
  · cases h
    refine ⟨?_, .inl (Nat.sub_add_cancel hscale)⟩
    have hpow : (10 : ℚ) ^ a.scale = 10 ^ (a.scale - n) * 10 ^ n := by
      rw [← pow_add, Nat.sub_add_cancel hscale]
    rw [toRat, toRat, hpow]
    field_simp
    rfl
  · obtain ⟨zeros, rfl⟩ : ∃ zeros, n = a.scale + 1 + zeros :=
      ⟨_, (Nat.add_sub_cancel' (not_le.mp hscale)).symm⟩
    have hzeros : a.scale + 1 + zeros - a.scale = zeros + 1 := by omega
    rw [hzeros] at h
    cases hcoeff : ofCoeff? (a.coeff * 10 ^ (zeros + 1)) 0 with
    | none =>
      rw [hcoeff] at h
      cases h
    | some c =>
      rw [hcoeff] at h
      cases h
      refine ⟨?_, .inr ⟨by omega, ?_⟩⟩
      · rw [toRat_ofCoeff? hcoeff]
        push_cast
        rw [coeff_eq]
        ring
      · have hbound := b.natAbs_coeff_lt
        rw [(ofCoeff?_eq_some_iff.mp hcoeff).1, Int.natAbs_mul, Int.natAbs_pow, natAbs_coeff,
          pow_succ] at hbound
        have hone : 1 ≤ 10 ^ zeros := Nat.one_le_pow _ _ (by norm_num)
        calc 10 * a.magnitude ≤ 10 * a.magnitude * 10 ^ zeros := Nat.le_mul_of_pos_right _ hone
          _ = a.magnitude * (10 ^ zeros * 10) := by ring
          _ < coeffBound := hbound

/-! ## Either notation -/

/-- What is left of the number that a text spells. -/
structure Approximates (a : Decimal) (cs : List Char) : Prop where
  /-- The number moved by less than one unit of the last place. -/
  near : a.Near (spelledNumber cs)
  /-- A plain number without marks between its digits moved by at most half a unit. -/
  rounds : (∀ c ∈ cs, c ≠ '_' ∧ isExponentMark c = false) → a.Rounds (spelledNumber cs)
  /-- Nothing is altered where decimals stand for the number, and for the number in front of the
  exponent. -/
  exact : Representable (plainNumber (mantissa cs)) → Representable (spelledNumber cs) →
    a.toRat = spelledNumber cs

lemma approximates_of_readPlain (h : readPlain cs = .ok a) : a.Approximates cs := by
  have hplain := spelledNumber_eq_plainNumber (not_isExponentMark_of_readPlain h)
  have hkeeps := keeps_of_readPlain h
  rw [← hplain] at hkeeps
  refine ⟨hkeeps.near, fun hfree => hkeeps.rounds fun hmem => (hfree _ hmem).1 rfl, fun _ hq => ?_⟩
  exact hkeeps.exact_of_representable hq

/-- Moving the point of a number takes its error along: a unit of the last place stays one, and a
number without room for its places is rounded once more. -/
lemma near_of_shiftDown {n : ℕ} (hnear : a.Near q) (h : shiftDown a n = .ok b) :
    b.Near (q / 10 ^ n) := by
  have hshift : |a.toRat / 10 ^ n - q / 10 ^ n| * 10 ^ (a.scale + n) < 1 := by
    have hpos : (0 : ℚ) < 10 ^ n := by positivity
    rw [← sub_div, abs_div, abs_of_pos hpos, pow_add, mul_comm (10 ^ a.scale), ← mul_assoc,
      div_mul_cancel₀ _ hpos.ne']
    exact hnear
  rcases shiftDown_cases h with ⟨hscale, hvalue⟩ | ⟨hscale, hlong, hrounds⟩
  · rw [Near, hscale, hvalue]
    exact hshift
  · have htenth : 10 * |a.toRat / 10 ^ n - q / 10 ^ n| * 10 ^ maxScale < 1 := by
      have hpow : (10 : ℚ) ^ (maxScale + 1) ≤ 10 ^ (a.scale + n) :=
        pow_le_pow_right₀ (by norm_num) hlong
      calc 10 * |a.toRat / 10 ^ n - q / 10 ^ n| * 10 ^ maxScale
          = |a.toRat / 10 ^ n - q / 10 ^ n| * 10 ^ (maxScale + 1) := by ring
        _ ≤ |a.toRat / 10 ^ n - q / 10 ^ n| * 10 ^ (a.scale + n) := by gcongr
        _ < 1 := hshift
    have htriangle : |b.toRat - q / 10 ^ n| ≤
        |b.toRat - a.toRat / 10 ^ n| + |a.toRat / 10 ^ n - q / 10 ^ n| := abs_sub_le ..
    rw [Rounds, hscale] at hrounds
    rw [Near, hscale]
    have hpos : (0 : ℚ) < 10 ^ maxScale := by positivity
    nlinarith

lemma toRat_of_shiftDown {n : ℕ} (hexact : a.toRat = q) (hq : Representable (q / 10 ^ n))
    (h : shiftDown a n = .ok b) : b.toRat = q / 10 ^ n := by
  rw [← hexact] at hq ⊢
  rcases shiftDown_cases h with ⟨-, hvalue⟩ | ⟨hscale, -, hrounds⟩
  · exact hvalue
  · obtain ⟨c, hc⟩ := hq
    rw [← hc] at hrounds ⊢
    exact hrounds.near.toRat_eq_of_scale_le (hscale ▸ c.scale_le)

lemma near_of_shiftUp {n : ℕ} {sharp : Prop} (hkeeps : a.Keeps q sharp) (h : shiftUp a n = .ok b) :
    b.Near (q * 10 ^ n) := by
  obtain ⟨hvalue, hscale | ⟨hlast, hroom⟩⟩ := shiftUp_cases h
  · have hpos : (0 : ℚ) < 10 ^ n := by positivity
    have hnear := hkeeps.near
    rw [Near, ← hscale, pow_add] at hnear
    rw [Near, hvalue, ← sub_mul, abs_mul, abs_of_pos hpos, mul_assoc, mul_comm (10 ^ n)]
    exact hnear
  · -- a number that was rounded has no room for a zero at its end
    rcases hkeeps.exact_or_full with heq | hscale | hfull
    · exact near_of_eq (by rw [hvalue, heq])
    · omega
    · omega

lemma digitsNumber_of_readExponent? {n : ℕ} (h : readExponent? cs = some n) :
    digitsNumber cs = n := by
  simp only [readExponent?, foldl_digitValue, Option.ite_none_right_eq_some,
    Option.some.injEq] at h
  obtain ⟨⟨-, hall, -⟩, rfl⟩ := h
  rw [digitsNumber]
  congr 1
  split at hall
  · simpa [List.filter_cons] using hall
  · simpa using hall

/-- A text in the scientific notation is a plain number whose point is moved by the exponent. -/
lemma exists_shift_of_readScientific (h : readScientific cs = .ok a) :
    ∃ (base : Decimal) (n : ℕ), readPlain (mantissa cs) = .ok base ∧
      ((exponentNumber (exponent cs) = -(n : ℤ) ∧ shiftDown base n = .ok a) ∨
        (exponentNumber (exponent cs) = n ∧ shiftUp base n = .ok a)) := by
  unfold readScientific at h
  split at h
  · cases h
  · next mark behind hmark =>
    have hexponent : exponent cs = behind := by rw [exponent, hmark, List.tail_cons]
    obtain ⟨base, hbase, h⟩ := bind_eq_ok_iff.mp h
    rw [hexponent]
    split at h
    · next digits =>
      split at h
      · next n hn =>
        exact ⟨base, n, hbase, .inl ⟨by rw [exponentNumber, digitsNumber_of_readExponent? hn], h⟩⟩
      · cases h
    · next hminus =>
      split at h
      · next n hn =>
        refine ⟨base, n, hbase, .inr ⟨?_, h⟩⟩
        rw [exponentNumber, digitsNumber_of_readExponent? hn]
        exact hminus
      · cases h

lemma exists_isExponentMark_of_readScientific (h : readScientific cs = .ok a) :
    ∃ c ∈ cs, isExponentMark c = true := by
  by_contra hfree
  have hmark : cs.dropWhile (!isExponentMark ·) = [] := by
    simpa [List.dropWhile_eq_nil_iff] using hfree
  rw [readScientific, hmark] at h
  cases h

lemma approximates_of_readScientific (h : readScientific cs = .ok a) : a.Approximates cs := by
  obtain ⟨base, n, hbase, hshift⟩ := exists_shift_of_readScientific h
  have hkeeps := keeps_of_readPlain hbase
  refine ⟨?_, fun hfree => ?_, fun hplain hq => ?_⟩
  · rcases hshift with ⟨hn, hdown⟩ | ⟨hn, hup⟩
    · rw [spelledNumber, hn, zpow_neg, zpow_natCast, ← div_eq_mul_inv]
      exact near_of_shiftDown hkeeps.near hdown
    · rw [spelledNumber, hn, zpow_natCast]
      exact near_of_shiftUp hkeeps hup
  · obtain ⟨c, hmem, hc⟩ := exists_isExponentMark_of_readScientific h
    rw [(hfree c hmem).2] at hc
    cases hc
  · have hexact := hkeeps.exact_of_representable hplain
    rcases hshift with ⟨hn, hdown⟩ | ⟨hn, hup⟩
    · rw [spelledNumber, hn, zpow_neg, zpow_natCast, ← div_eq_mul_inv] at hq ⊢
      exact toRat_of_shiftDown hexact hq hdown
    · rw [spelledNumber, hn, zpow_natCast, ← hexact]
      exact (shiftUp_cases hup).1

/-- What is read of a text leaves less than one unit of the last place of its number out. -/
theorem approximates_of_read (h : read cs = .ok a) : a.Approximates cs := by
  unfold read at h
  split at h
  · next base hplain =>
    cases h
    exact approximates_of_readPlain hplain
  · exact approximates_of_readScientific h

end Remittance.Decimal
