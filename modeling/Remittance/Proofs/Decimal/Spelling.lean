import Mathlib.Algebra.Order.Field.Power
import Mathlib.Data.List.TakeWhile
import Remittance.Decimal.Reader
import Remittance.Proofs.Decimal.Value
/-!
# The number that a text spells

`Decimal.spelledNumber` is the number that a text spells, however many digits it has. It is said
without a reader: by the digits of the text, by those of them that stand behind the point, by the
sign in front and by the exponent.

The readers of decimals keep a tally of the digits that they have read. A tally that takes in every
digit, without a limit (`Tally.pushAll`), comes to exactly this number; the digits behind any place
move it by less than one unit of that place (`Tally.le_toRat_pushAll`, `Tally.toRat_pushAll_lt`), and
the reader itself keeps this tally for as long as it fits (`readDigits_digits_append`).
-/

namespace Remittance.Decimal

/-! ## Numbers of texts -/

/-- The number that the digits of a text spell, whatever stands between them. -/
def digitsNumber (cs : List Char) : ℕ := Nat.ofDigitChars 10 (cs.filter Char.isDigit) 0

/-- How many digits of a text stand behind its point. -/
def fractionLength (cs : List Char) : ℕ := (cs.dropWhile (· != '.')).countP Char.isDigit

/-- What a minus sign in front makes of a number. -/
def signFactor (negative : Bool) : ℚ := if negative then -1 else 1

/-- The number that a text in the plain notation spells. -/
def plainNumber (cs : List Char) : ℚ :=
  signFactor (cs.head? == some '-') * (digitsNumber cs / 10 ^ fractionLength cs)

/-- The whole number that an exponent spells. -/
def exponentNumber : List Char → ℤ
  | '-' :: digits => -digitsNumber digits
  | digits => digitsNumber digits

/-- What stands in front of the exponent mark. -/
def mantissa (cs : List Char) : List Char := cs.takeWhile (!isExponentMark ·)

/-- What stands behind the exponent mark. -/
def exponent (cs : List Char) : List Char := (cs.dropWhile (!isExponentMark ·)).tail

/-- The number that a text spells in either notation. -/
def spelledNumber (cs : List Char) : ℚ :=
  plainNumber (mantissa cs) * 10 ^ exponentNumber (exponent cs)

/-- A text without an exponent mark spells the number of the plain notation. -/
lemma spelledNumber_eq_plainNumber {cs : List Char} (h : ∀ c ∈ cs, isExponentMark c = false) :
    spelledNumber cs = plainNumber cs := by
  have hmantissa : mantissa cs = cs := by
    simpa [mantissa, List.takeWhile_eq_self_iff] using h
  have hexponent : exponent cs = [] := by
    have hmark : cs.dropWhile (!isExponentMark ·) = [] := by
      simpa [List.dropWhile_eq_nil_iff] using h
    rw [exponent, hmark, List.tail_nil]
  simp [spelledNumber, hmantissa, hexponent, exponentNumber, digitsNumber]

@[simp] lemma abs_signFactor (negative : Bool) : |signFactor negative| = 1 := by
  cases negative <;> simp [signFactor]

/-- The sign of a decimal stands apart from its digits. -/
lemma toRat_eq_signFactor_mul (a : Decimal) :
    a.toRat = signFactor a.negative * (a.magnitude / 10 ^ a.scale) := by
  rw [toRat, coeff, signFactor]
  split <;> simp [neg_div]

lemma digitValue_lt {c : Char} (h : c.isDigit = true) : digitValue c < 10 := by
  have hle := (Char.isDigit_iff_toNat.mp h).2
  simp only [digitValue, Char.reduceToNat] at *
  omega

/-! ## Taking in every digit -/

namespace Tally

/-- The number of a tally with its point. -/
def toRat (t : Tally) : ℚ := t.number / 10 ^ t.places

/-- Takes in one more character; only digits and the point count. -/
def pushChar (t : Tally) (c : Char) : Tally :=
  if c.isDigit then t.push (digitValue c)
  else if c = '.' then { t with pointed := true }
  else t

/-- Takes in all the digits of a text, however many they are. -/
def pushAll (t : Tally) (cs : List Char) : Tally := cs.foldl pushChar t

variable {t : Tally} {c : Char} {cs rest : List Char}

@[simp] lemma pushAll_nil : t.pushAll [] = t := rfl

@[simp] lemma pushAll_cons : t.pushAll (c :: cs) = (t.pushChar c).pushAll cs := rfl

lemma pushChar_of_isDigit (h : c.isDigit = true) : t.pushChar c = t.push (digitValue c) := if_pos h

lemma pushChar_of_not_isDigit (h : c.isDigit = false) :
    (t.pushChar c).number = t.number ∧ (t.pushChar c).places = t.places ∧
      (t.pushChar c).pointed = (t.pointed || c == '.') := by
  by_cases hpoint : c = '.' <;> simp [pushChar, h, hpoint]

/-- Every digit goes to the end of the number, in front of the point and behind it. -/
lemma number_pushAll :
    (t.pushAll cs).number = Nat.ofDigitChars 10 (cs.filter Char.isDigit) t.number := by
  induction cs generalizing t with
  | nil => rfl
  | cons c cs ih =>
    cases hdigit : c.isDigit with
    | true =>
      rw [pushAll_cons, ih, List.filter_cons_of_pos hdigit, Nat.ofDigitChars_cons,
        pushChar_of_isDigit hdigit, push, Nat.mul_comm 10, digitValue]
    | false =>
      rw [pushAll_cons, ih, List.filter_cons_of_neg (by simp [hdigit]),
        (pushChar_of_not_isDigit hdigit).1]

/-- Digits that nothing stands between all go to the same side of the point. -/
lemma pushAll_of_digits {ds : List Char} (hdigits : ∀ c ∈ ds, c.isDigit = true) :
    t.pushAll ds = ⟨Nat.ofDigitChars 10 ds t.number,
      if t.pointed then t.places + ds.length else t.places, t.pointed, t.started || !ds.isEmpty⟩ := by
  induction ds generalizing t with
  | nil => simp
  | cons c ds ih =>
    rw [pushAll_cons, ih fun c hc => hdigits c (List.mem_cons_of_mem _ hc),
      pushChar_of_isDigit (hdigits c List.mem_cons_self), Nat.ofDigitChars_cons]
    cases hpointed : t.pointed with
    | false => simp [push, hpointed, digitValue, Nat.mul_comm]
    | true => simp [push, hpointed, digitValue, Nat.mul_comm, Nat.add_assoc, Nat.add_comm 1]

/-- Behind the point, every digit is one more place. -/
lemma places_pushAll_of_pointed (h : t.pointed = true) :
    (t.pushAll cs).places = t.places + cs.countP Char.isDigit := by
  induction cs generalizing t with
  | nil => rfl
  | cons c cs ih =>
    cases hdigit : c.isDigit with
    | true =>
      rw [pushAll_cons, pushChar_of_isDigit hdigit, ih (by simpa [push] using h),
        List.countP_cons_of_pos hdigit]
      simp only [push, h, if_true]
      omega
    | false =>
      obtain ⟨-, hplaces, hpointed⟩ := pushChar_of_not_isDigit (t := t) hdigit
      rw [pushAll_cons, ih (by simp [hpointed, h]), hplaces,
        List.countP_cons_of_neg (by simp [hdigit])]

/-- In front of the point there are no places yet. -/
lemma places_pushAll_of_not_pointed (h : t.pointed = false) :
    (t.pushAll cs).places = t.places + fractionLength cs := by
  induction cs generalizing t with
  | nil => rfl
  | cons c cs ih =>
    by_cases hpoint : c = '.'
    · subst hpoint
      rw [pushAll_cons, places_pushAll_of_pointed rfl]
      simp [pushChar, fractionLength]
    · have hskip : fractionLength (c :: cs) = fractionLength cs := by
        simp [fractionLength, hpoint]
      have hpush : (t.pushChar c).places = t.places ∧ (t.pushChar c).pointed = false := by
        cases hdigit : c.isDigit with
        | true => simp [pushChar_of_isDigit hdigit, push, h]
        | false =>
          obtain ⟨-, hplaces, hpointed⟩ := pushChar_of_not_isDigit (t := t) hdigit
          exact ⟨hplaces, by simp [hpointed, h, hpoint]⟩
      rw [pushAll_cons, ih hpush.2, hpush.1, hskip]

/-- The tally of a whole text is the number of its digits with its point. -/
lemma toRat_start_pushAll (cs : List Char) :
    (start.pushAll cs).toRat = digitsNumber cs / 10 ^ fractionLength cs := by
  rw [toRat, number_pushAll, places_pushAll_of_not_pointed rfl, digitsNumber]
  simp [start]

/-! ## What digits behind a place amount to -/

lemma number_le_pushAll : t.number * 10 ^ cs.countP Char.isDigit ≤ (t.pushAll cs).number := by
  induction cs generalizing t with
  | nil => simp
  | cons c cs ih =>
    cases hdigit : c.isDigit with
    | true =>
      rw [pushAll_cons, List.countP_cons_of_pos hdigit, pushChar_of_isDigit hdigit]
      calc t.number * 10 ^ (cs.countP Char.isDigit + 1)
          = t.number * 10 * 10 ^ cs.countP Char.isDigit := by ring
        _ ≤ (t.number * 10 + digitValue c) * 10 ^ cs.countP Char.isDigit :=
            Nat.mul_le_mul_right _ (Nat.le_add_right _ _)
        _ ≤ _ := ih (t := t.push (digitValue c))
    | false =>
      rw [pushAll_cons, List.countP_cons_of_neg (by simp [hdigit]),
        ← (pushChar_of_not_isDigit (t := t) hdigit).1]
      exact ih

lemma number_pushAll_lt : (t.pushAll cs).number < (t.number + 1) * 10 ^ cs.countP Char.isDigit := by
  induction cs generalizing t with
  | nil => simp
  | cons c cs ih =>
    cases hdigit : c.isDigit with
    | true =>
      rw [pushAll_cons, List.countP_cons_of_pos hdigit, pushChar_of_isDigit hdigit]
      have hvalue := digitValue_lt hdigit
      calc ((t.push (digitValue c)).pushAll cs).number
          < (t.number * 10 + digitValue c + 1) * 10 ^ cs.countP Char.isDigit := ih
        _ ≤ (t.number * 10 + 10) * 10 ^ cs.countP Char.isDigit :=
            Nat.mul_le_mul_right _ (by omega)
        _ = (t.number + 1) * 10 ^ (cs.countP Char.isDigit + 1) := by ring
    | false =>
      rw [pushAll_cons, List.countP_cons_of_neg (by simp [hdigit]),
        ← (pushChar_of_not_isDigit (t := t) hdigit).1]
      exact ih

lemma toRat_pushAll_mul (h : t.pointed = true) :
    (t.pushAll cs).toRat * 10 ^ t.places = (t.pushAll cs).number / 10 ^ cs.countP Char.isDigit := by
  rw [toRat, places_pushAll_of_pointed h, pow_add]
  field_simp

/-- Digits behind the point do not make a number smaller. -/
lemma le_toRat_pushAll (h : t.pointed = true) (cs : List Char) :
    (t.number : ℚ) ≤ (t.pushAll cs).toRat * 10 ^ t.places := by
  rw [toRat_pushAll_mul h, le_div_iff₀ (by positivity)]
  exact_mod_cast number_le_pushAll

/-- Digits behind the point make a number larger by less than one unit of the place in front of
them. -/
lemma toRat_pushAll_lt (h : t.pointed = true) (cs : List Char) :
    (t.pushAll cs).toRat * 10 ^ t.places < t.number + 1 := by
  rw [toRat_pushAll_mul h, div_lt_iff₀ (by positivity)]
  exact_mod_cast number_pushAll_lt

end Tally

/-- The number of digits, put together from the left. -/
lemma foldl_digitValue (ds : List Char) (n : ℕ) :
    ds.foldl (fun n c => n * 10 + digitValue c) n = Nat.ofDigitChars 10 ds n := by
  induction ds generalizing n with
  | nil => rfl
  | cons c ds ih => rw [List.foldl_cons, ih, Nat.ofDigitChars_cons, Nat.mul_comm 10, digitValue]

/-- A sign in front is no digit; only a minus sign changes the number. -/
lemma plainNumber_minus (cs : List Char) :
    plainNumber ('-' :: cs) = signFactor true * (Tally.start.pushAll cs).toRat := by
  rw [Tally.toRat_start_pushAll]
  rfl

lemma plainNumber_plus (cs : List Char) :
    plainNumber ('+' :: cs) = signFactor false * (Tally.start.pushAll cs).toRat := by
  rw [Tally.toRat_start_pushAll]
  rfl

lemma plainNumber_of_no_minus {cs : List Char} (h : ∀ rest, cs ≠ '-' :: rest) :
    plainNumber cs = signFactor false * (Tally.start.pushAll cs).toRat := by
  have hhead : (cs.head? == some '-') = false := by
    cases cs with
    | nil => rfl
    | cons c rest =>
      have hc : c ≠ '-' := fun hc => h rest (hc ▸ rfl)
      simp [hc]
  rw [Tally.toRat_start_pushAll, plainNumber, hhead]

/-! ## Digits that fit -/

/-- The reader takes in digits for as long as the coefficient and the scale have room for them. -/
lemma readDigits_digits_append {negative : Bool} {t : Tally} {ds rest : List Char}
    (hdigits : ∀ c ∈ ds, c.isDigit = true) (hnumber : (t.pushAll ds).number < coeffBound)
    (hplaces : (t.pushAll ds).places ≤ maxScale) :
    readDigits negative t (ds ++ rest) = readDigits negative (t.pushAll ds) rest := by
  induction ds generalizing t with
  | nil => rfl
  | cons c ds ih =>
    have hdigit : c.isDigit = true := hdigits c List.mem_cons_self
    rw [Tally.pushAll_cons, Tally.pushChar_of_isDigit hdigit] at hnumber hplaces ⊢
    have hroom : t.isFull (digitValue c) = false := by
      have hle : (t.push (digitValue c)).number ≤ ((t.push (digitValue c)).pushAll ds).number :=
        le_trans (Nat.le_mul_of_pos_right _ (by positivity)) Tally.number_le_pushAll
      have hfits : ¬coeffBound ≤ t.number * 10 + digitValue c :=
        not_le.mpr (lt_of_le_of_lt hle hnumber)
      have hlast : t.isAtLastPlace = false := by
        rw [Tally.isAtLastPlace, Bool.and_eq_false_iff]
        cases hpointed : t.pointed with
        | false => exact .inl rfl
        | true =>
          rw [Tally.places_pushAll_of_pointed (by exact hpointed)] at hplaces
          simp only [Tally.push, hpointed, if_true] at hplaces
          right
          simp only [beq_eq_false_iff_ne]
          omega
      simp [Tally.isFull, hfits, hlast]
    rw [List.cons_append, readDigits, if_pos hdigit, hroom, if_neg (by simp),
      ih (fun c hc => hdigits c (List.mem_cons_of_mem _ hc)) hnumber hplaces]

end Remittance.Decimal
