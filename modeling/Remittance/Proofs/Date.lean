import Remittance.Proofs.Date.Spelling
import Remittance.Proofs.Decimal.Printing
/-!
# The text of a date is read as the date

The text of a date is one of its spellings (`Date.chars_spelling`), so every date of the calendar is
read from its own text (`Date.read?_toChars`). The text of a year from `0` to `9999` has no sign, so
such a date takes ten characters (`Date.length_toChars`).
-/

namespace Remittance.Date

-- powers are those of the core library, whatever other ones are in scope
attribute [local instance (high)] instPowNat

variable {d : Date}

/-! ## The digits of a date -/

lemma isNumeral_fixedDigits {count : ℕ} (h : 0 < count) (n : ℕ) :
    IsNumeral (Decimal.fixedDigits count n) := by
  refine ⟨?_, Decimal.isDigit_of_mem_fixedDigits⟩
  rwa [← List.length_pos_iff, Decimal.length_fixedDigits]

lemma ofDigitChars_fixedDigits_of_lt {count n : ℕ} (h : n < 10 ^ count) :
    Nat.ofDigitChars 10 (Decimal.fixedDigits count n) 0 = n := by
  rw [Decimal.ofDigitChars_fixedDigits, Nat.mod_eq_of_lt h, Nat.zero_mul, Nat.zero_add]

/-- The digits of a year with a sign. -/
def longYearDigits (n : ℕ) : List Char :=
  List.replicate (4 - (Nat.toDigits 10 n).length) '0' ++ Nat.toDigits 10 n

lemma isNumeral_longYearDigits (n : ℕ) : IsNumeral (longYearDigits n) := by
  refine ⟨List.append_ne_nil_of_right_ne_nil _ Nat.toDigits_ne_nil, fun c hc => ?_⟩
  rcases List.mem_append.mp hc with hc | hc
  · rw [List.eq_of_mem_replicate hc]
    decide
  · exact Nat.isDigit_of_mem_toDigits (by norm_num) (by norm_num) hc

lemma ofDigitChars_longYearDigits (n : ℕ) : Nat.ofDigitChars 10 (longYearDigits n) 0 = n := by
  rw [longYearDigits, Nat.ofDigitChars_append, Nat.ofDigitChars_replicate_zero, Nat.mul_zero,
    Nat.ofDigitChars_ten_toDigits]

lemma ofYMD?_self (d : Date) : ofYMD? d.year d.month d.day = some d :=
  dif_pos ⟨d.year_mem, d.month_mem, d.day_mem⟩

lemma day_le (d : Date) : d.day ≤ 31 := by
  have hday := d.day_mem.2
  unfold daysInMonth at hday
  split_ifs at hday <;> omega

/-! ## Reading a date back -/

/-- The parts of a date in its own text. -/
def spelling (d : Date) : Spelling where
  sign := if 0 ≤ d.year ∧ d.year ≤ 9999 then none else some (if d.year < 0 then '-' else '+')
  year :=
    if 0 ≤ d.year ∧ d.year ≤ 9999 then Decimal.fixedDigits 4 d.year.natAbs
    else longYearDigits d.year.natAbs
  month := Decimal.fixedDigits 2 d.month
  day := Decimal.fixedDigits 2 d.day
  sign_mem := by
    intro c hc
    split at hc
    · cases hc
    · cases hc
      split <;> simp
  year_digits := by
    split
    · exact isNumeral_fixedDigits (by norm_num) _
    · exact isNumeral_longYearDigits _
  month_digits := isNumeral_fixedDigits (by norm_num) _
  day_digits := isNumeral_fixedDigits (by norm_num) _
  year_length := by
    split
    · simp
    · nofun
  month_length := by simp
  day_length := by simp

/-- The text of a date is its spelling. -/
lemma chars_spelling (d : Date) : d.spelling.chars = d.toChars := by
  unfold spelling Spelling.chars toChars yearChars
  split <;> simp [longYearDigits]

/-- The spelling of a date spells the date. -/
lemma date?_spelling (d : Date) : d.spelling.date? = some d := by
  have hyear : d.spelling.yearNumber = d.year := by
    unfold spelling Spelling.yearNumber
    simp only
    split
    · next hyear =>
      rw [ofDigitChars_fixedDigits_of_lt (by norm_num; omega), if_neg (by simp)]
      omega
    · next hyear =>
      rw [ofDigitChars_longYearDigits]
      by_cases hsign : d.year < 0
      · rw [if_pos (by rw [if_pos hsign])]
        omega
      · rw [if_neg (by rw [if_neg hsign]; decide)]
        omega
  have hmonth : d.month < 10 ^ 2 := lt_of_le_of_lt d.month_mem.2 (by norm_num)
  have hday : d.day < 10 ^ 2 := lt_of_le_of_lt d.day_le (by norm_num)
  rw [Spelling.date?, hyear]
  change ofYMD? d.year (Nat.ofDigitChars 10 (Decimal.fixedDigits 2 d.month) 0)
    (Nat.ofDigitChars 10 (Decimal.fixedDigits 2 d.day) 0) = some d
  rw [ofDigitChars_fixedDigits_of_lt hmonth, ofDigitChars_fixedDigits_of_lt hday, ofYMD?_self]

/-- Every date is read from its own text. -/
theorem read?_toChars (d : Date) : read? d.toChars = some d := by
  rw [← d.chars_spelling, Spelling.read?_chars, d.date?_spelling]

/-- A date is written with digits, hyphens and perhaps a sign. -/
lemma mem_toChars : ∀ c ∈ d.toChars, c.isDigit = true ∨ c = '-' ∨ c = '+' := by
  rw [← d.chars_spelling]
  exact d.spelling.mem_chars

/-- The text of a date from year `0` to year `9999` takes ten characters. -/
lemma length_toChars (h : 0 ≤ d.year ∧ d.year ≤ 9999) : d.toChars.length = 10 := by
  simp [toChars, yearChars, h]

end Remittance.Date
