import Remittance.Decimal.Printer
import Remittance.Proofs.Decimal.Reading
import Remittance.Proofs.Decimal.Spelling
/-!
# The text of a decimal is read as the decimal

Every decimal is read from its own text with its value and its scale (`read_toChars`). Only the sign
of a zero is not: a text of zeros is read as a zero without a sign, whatever stands in front of it
(`Decimal.unsignZero`).
-/

namespace Remittance.Decimal

-- powers are those of the core library, whatever other ones are in scope
attribute [local instance (high)] instPowNat

variable {a : Decimal}

/-! ## Digits -/

lemma isDigit_of_mem_fixedDigits {count n : ℕ} : ∀ c ∈ fixedDigits count n, c.isDigit = true := by
  induction count generalizing n with
  | zero => simp [fixedDigits]
  | succ count ih =>
    intro c hc
    rcases List.mem_append.mp hc with hc | hc
    · exact ih c hc
    · rw [List.mem_singleton.mp hc]
      rw [Nat.isDigit_digitChar]
      exact decide_eq_true (Nat.mod_lt n (by norm_num))

/-- The last digits of a number spell its remainder. -/
lemma ofDigitChars_fixedDigits (count n init : ℕ) :
    Nat.ofDigitChars 10 (fixedDigits count n) init = init * 10 ^ count + n % 10 ^ count := by
  induction count generalizing n with
  | zero => simp [fixedDigits, Nat.mod_one]
  | succ count ih =>
    rw [fixedDigits, Nat.ofDigitChars_append, ih, Nat.ofDigitChars_cons_digitChar_of_lt_ten
      (by omega), Nat.ofDigitChars_nil, Nat.pow_succ, Nat.mul_comm (10 ^ count), Nat.mod_mul]
    ring

/-! ## Reading a decimal back -/

/-- The decimal without the sign of a zero. -/
def unsignZero (a : Decimal) : Decimal := if a.magnitude = 0 then { a with negative := false } else a

@[simp] lemma scale_unsignZero (a : Decimal) : a.unsignZero.scale = a.scale := by
  unfold unsignZero
  split <;> rfl

/-- It is the same number. -/
@[simp] lemma coeff_unsignZero (a : Decimal) : a.unsignZero.coeff = a.coeff := by
  unfold unsignZero
  split
  · next hzero => simp [coeff, hzero]
  · rfl

@[simp] lemma nonNegative_unsignZero (a : Decimal) : a.unsignZero.NonNegative ↔ a.NonNegative := by
  rw [NonNegative, NonNegative, coeff_unsignZero]

/-- Only a zero with a sign is changed. -/
lemma unsignZero_eq_self (h : a.negative = true → a.magnitude ≠ 0) : a.unsignZero = a := by
  unfold unsignZero
  split
  · next hzero =>
    have hsign : a.negative = false := by
      cases hnegative : a.negative with
      | false => rfl
      | true => exact absurd hzero (h hnegative)
    cases a
    cases hsign
    rfl
  · rfl

lemma ofCoeff?_unsignZero (a : Decimal) :
    ofCoeff? (if a.negative then -(a.magnitude : Int) else a.magnitude) a.scale =
      some a.unsignZero := by
  rw [ofCoeff?_eq_some_iff, coeff_unsignZero, scale_unsignZero]
  refine ⟨rfl, rfl, ?_⟩
  unfold unsignZero
  split
  · next hzero => simp [hzero]
  · next hne => cases hsign : a.negative <;> simp; omega

/-- The digits in front of the point. -/
def wholeChars (a : Decimal) : List Char := Nat.toDigits 10 (a.magnitude / 10 ^ a.scale)

/-- The point and the digits behind it. -/
def fractionChars (a : Decimal) : List Char :=
  if a.scale = 0 then [] else '.' :: fixedDigits a.scale (a.magnitude % 10 ^ a.scale)

lemma toChars_eq (a : Decimal) :
    a.toChars = (if a.negative then ['-'] else []) ++ (a.wholeChars ++ a.fractionChars) :=
  List.append_assoc ..

lemma isDigit_of_mem_wholeChars : ∀ c ∈ a.wholeChars, c.isDigit = true :=
  fun _ hc => Nat.isDigit_of_mem_toDigits (by norm_num) (by norm_num) hc

/-- The digits of a decimal are read one by one. -/
lemma readDigits_chars (negative : Bool) (a : Decimal) :
    readDigits negative .start (a.wholeChars ++ a.fractionChars) =
      Tally.decimal ⟨a.magnitude, a.scale, a.scale ≠ 0, true⟩ negative := by
  have hfits : a.magnitude / 10 ^ a.scale < coeffBound :=
    lt_of_le_of_lt (Nat.div_le_self ..) a.magnitude_lt
  have hwhole : Tally.start.pushAll a.wholeChars = ⟨a.magnitude / 10 ^ a.scale, 0, false, true⟩ := by
    rw [Tally.pushAll_of_digits isDigit_of_mem_wholeChars]
    simp [wholeChars, Tally.start, Nat.ofDigitChars_ten_toDigits, Nat.toDigits_ne_nil]
  rw [readDigits_digits_append isDigit_of_mem_wholeChars (by rwa [hwhole])
    (by rw [hwhole]; exact Nat.zero_le _), hwhole]
  unfold fractionChars
  split
  · next hscale =>
    simp [readDigits, hscale]
  · next hscale =>
    have hfraction : (Tally.mk (a.magnitude / 10 ^ a.scale) 0 true true).pushAll
        (fixedDigits a.scale (a.magnitude % 10 ^ a.scale)) = ⟨a.magnitude, a.scale, true, true⟩ := by
      rw [Tally.pushAll_of_digits isDigit_of_mem_fixedDigits, ofDigitChars_fixedDigits, Nat.mod_mod,
        Nat.mul_comm, Nat.div_add_mod]
      simp
    have hread : readDigits negative ⟨a.magnitude / 10 ^ a.scale, 0, true, true⟩
        (fixedDigits a.scale (a.magnitude % 10 ^ a.scale) ++ []) =
          readDigits negative ⟨a.magnitude, a.scale, true, true⟩ [] := by
      rw [readDigits_digits_append isDigit_of_mem_fixedDigits
        (by rw [hfraction]; exact a.magnitude_lt) (by rw [hfraction]; exact a.scale_le), hfraction]
    rw [List.append_nil] at hread
    rw [readDigits, if_neg (by decide), if_pos (by decide), if_neg (by simp), hread, readDigits]
    simp [hscale]

lemma isDigit_or_point_of_mem_fractionChars :
    ∀ c ∈ a.fractionChars, c.isDigit = true ∨ c = '.' := by
  unfold fractionChars
  split
  · simp
  · exact List.forall_mem_cons.mpr ⟨.inr rfl, fun c hc => .inl (isDigit_of_mem_fixedDigits c hc)⟩

/-- A decimal is written with digits, and perhaps a point and a minus sign. -/
lemma mem_toChars : ∀ c ∈ a.toChars, c.isDigit = true ∨ c = '.' ∨ c = '-' := by
  intro c hc
  rw [toChars_eq, List.mem_append, List.mem_append] at hc
  rcases hc with hc | hc | hc
  · split at hc
    · exact .inr (.inr (List.mem_singleton.mp hc))
    · cases hc
  · exact .inl (isDigit_of_mem_wholeChars c hc)
  · exact (isDigit_or_point_of_mem_fractionChars c hc).imp_right .inl

lemma toChars_ne_nil (a : Decimal) : a.toChars ≠ [] := by
  rw [toChars_eq]
  exact List.append_ne_nil_of_right_ne_nil _
    (List.append_ne_nil_of_left_ne_nil Nat.toDigits_ne_nil _)

/-- There is no sign in front of a digit. -/
lemma readPlain_of_isDigit {c : Char} {cs : List Char} (h : c.isDigit = true) :
    readPlain (c :: cs) = readDigits false .start (c :: cs) := by
  unfold readPlain
  split
  · next heq => cases heq
  · next heq =>
    cases heq
    cases h
  · next heq =>
    cases heq
    cases h
  · rfl

/-- A decimal is read from its own text, save for the sign of a zero. -/
theorem readPlain_toChars (a : Decimal) : readPlain a.toChars = .ok a.unsignZero := by
  have hread : readDigits a.negative .start (a.wholeChars ++ a.fractionChars) =
      .ok a.unsignZero := by
    rw [readDigits_chars, Tally.decimal_eq_ok_iff]
    exact ofCoeff?_unsignZero a
  rw [toChars_eq]
  cases hsign : a.negative with
  | true =>
    rw [hsign] at hread
    exact hread
  | false =>
    rw [hsign] at hread
    -- the text starts with a digit, so no sign is taken off
    obtain ⟨c, rest, hchars⟩ : ∃ c rest, a.wholeChars = c :: rest :=
      List.exists_cons_of_ne_nil Nat.toDigits_ne_nil
    have hdigit : c.isDigit = true :=
      isDigit_of_mem_wholeChars c (by rw [hchars]; exact List.mem_cons_self)
    rw [hchars] at hread ⊢
    exact (readPlain_of_isDigit hdigit).trans hread

/-- In either notation, what is read of the text of a decimal is the decimal. -/
theorem read?_toChars (a : Decimal) : read? a.toChars = some a.unsignZero := by
  have hmark : ∀ c ∈ a.toChars, isExponentMark c = false := fun c hc =>
    not_isExponentMark ((mem_toChars c hc).imp_right (Or.imp_right .inr))
  rw [read?_eq_readPlain hmark, readPlain_toChars]
  rfl

end Remittance.Decimal
