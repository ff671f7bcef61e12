import Remittance.Date
import Remittance.Proofs.Decimal.Spelling
import Remittance.Proofs.Text.Spacing
/-!
# How dates are spelled

Without blanks, the texts that are read as dates are those that spell one: perhaps a sign, the digits
of the year, and one or two digits each of the month and of the day, with hyphens between them
(`Date.read?_eq_some_iff`). Among the spellings with ten characters are, beside the plain ones of
four digits, two and two, those with a sign and seven digits (`Date.Spelling.length_chars_eq_ten_iff`).
-/

namespace Remittance.Date

variable {cs ds rest : List Char} {d : Date} {n limit : ℕ} {year : ℤ}

/-- One or more digits. -/
def IsNumeral (ds : List Char) : Prop := ds ≠ [] ∧ ∀ c ∈ ds, c.isDigit = true

/-- The parts of a date as they are written. -/
structure Spelling where
  /-- The sign in front of the year, if there is one. -/
  sign : Option Char
  year : List Char
  month : List Char
  day : List Char
  sign_mem : ∀ c ∈ sign, c = '-' ∨ c = '+'
  year_digits : IsNumeral year
  month_digits : IsNumeral month
  day_digits : IsNumeral day
  year_length : sign = none → year.length ≤ 4
  month_length : month.length ≤ 2
  day_length : day.length ≤ 2

namespace Spelling

/-- The text of the parts. -/
def chars (s : Spelling) : List Char :=
  s.sign.toList ++ (s.year ++ '-' :: (s.month ++ '-' :: s.day))

/-- The number of the year. -/
def yearNumber (s : Spelling) : ℤ :=
  if s.sign = some '-' then -(Nat.ofDigitChars 10 s.year 0 : ℤ) else Nat.ofDigitChars 10 s.year 0

/-- The date that is spelled, if the calendar has it. -/
def date? (s : Spelling) : Option Date :=
  ofYMD? s.yearNumber (Nat.ofDigitChars 10 s.month 0) (Nat.ofDigitChars 10 s.day 0)

/-- Four digits of the year, two of the month and two of the day: `YYYY-MM-DD`. -/
def IsPlain (s : Spelling) : Prop :=
  s.sign = none ∧ s.year.length = 4 ∧ s.month.length = 2 ∧ s.day.length = 2

/-- A sign, and seven digits together. -/
def IsSigned (s : Spelling) : Prop :=
  s.sign ≠ none ∧ s.year.length + s.month.length + s.day.length = 7

/-- A spelling with ten characters is the plain one, or has a sign. -/
theorem length_chars_eq_ten_iff (s : Spelling) : s.chars.length = 10 ↔ s.IsPlain ∨ s.IsSigned := by
  have hlength : s.chars.length =
      s.sign.toList.length + s.year.length + s.month.length + s.day.length + 2 := by
    simp only [chars, List.length_append, List.length_cons]
    omega
  have hyear := s.year_length
  have hmonth := s.month_length
  have hday := s.day_length
  unfold IsPlain IsSigned
  cases hsign : s.sign with
  | none =>
    have hyear := hyear hsign
    simp only [hsign, Option.toList_none, List.length_nil] at hlength
    simp only [ne_eq, not_true_eq_false, false_and, or_false, true_and]
    omega
  | some c =>
    simp only [hsign, Option.toList_some, List.length_singleton] at hlength
    simp only [reduceCtorEq, false_and, false_or, ne_eq, not_false_eq_true, true_and]
    omega

/-- The characters of a spelling are digits, hyphens and perhaps a sign. -/
lemma mem_chars (s : Spelling) : ∀ c ∈ s.chars, c.isDigit = true ∨ c = '-' ∨ c = '+' := by
  intro c hc
  simp only [chars, List.mem_append, List.mem_cons] at hc
  rcases hc with hc | hc | rfl | hc | rfl | hc
  · exact .inr (s.sign_mem c (Option.mem_toList.mp hc))
  · exact .inl (s.year_digits.2 c hc)
  · exact .inr (.inl rfl)
  · exact .inl (s.month_digits.2 c hc)
  · exact .inr (.inl rfl)
  · exact .inl (s.day_digits.2 c hc)

end Spelling

/-! ## The parts of a date -/

/-- Digits are read up to the first character that is none. -/
lemma readNumber?_append (hdigits : ∀ c ∈ ds, c.isDigit = true) (hne : ds ≠ [])
    (hlimit : ds.length ≤ limit) (hrest : ∀ c ∈ rest.head?, c.isDigit = false) :
    readNumber? limit (ds ++ rest) = some (Nat.ofDigitChars 10 ds 0, rest) := by
  have hstop : rest.takeWhile Char.isDigit = [] := by
    cases rest with
    | nil => rfl
    | cons c rest => simp [hrest c (by simp)]
  have htaken : ((ds ++ rest).takeWhile Char.isDigit).take limit = ds := by
    rw [List.takeWhile_append_of_pos hdigits, hstop, List.append_nil, List.take_of_length_le hlimit]
  simp only [readNumber?, htaken, if_neg hne, Decimal.foldl_digitValue, List.drop_left]

/-- What is read as a number is digits at the front of a text. -/
lemma exists_of_readNumber? (h : readNumber? limit cs = some (n, rest)) :
    ∃ ds, cs = ds ++ rest ∧ IsNumeral ds ∧ ds.length ≤ limit ∧ n = Nat.ofDigitChars 10 ds 0 := by
  simp only [readNumber?] at h
  split at h
  · cases h
  · next hne =>
    obtain ⟨rfl, rfl⟩ := Prod.mk.inj (Option.some.inj h)
    have hprefix : (cs.takeWhile Char.isDigit).take limit <+: cs :=
      (List.take_prefix _ _).trans (List.takeWhile_prefix _)
    refine ⟨_, (List.prefix_iff_eq_append.mp hprefix).symm, ⟨hne, fun c hc => ?_⟩,
      List.length_take_le _ _, Decimal.foldl_digitValue ..⟩
    exact List.mem_takeWhile_imp (List.mem_of_mem_take hc)

/-- What is read as a year is digits, perhaps with a sign in front; without one, they are four at
most. -/
lemma exists_of_readYear? (h : readYear? cs = some (year, rest)) :
    ∃ sign ds, cs = sign.toList ++ (ds ++ rest) ∧ (∀ c ∈ sign, c = '-' ∨ c = '+') ∧ IsNumeral ds ∧
      (sign = none → ds.length ≤ 4) ∧
      year = if sign = some '-' then -(Nat.ofDigitChars 10 ds 0 : ℤ)
        else Nat.ofDigitChars 10 ds 0 := by
  unfold readYear? at h
  split at h
  all_goals
    obtain ⟨⟨n, behind⟩, hnumber, heq⟩ := Option.map_eq_some_iff.mp h
    obtain ⟨rfl, rfl⟩ := Prod.mk.inj heq
    obtain ⟨ds, rfl, hdigits, hlength, rfl⟩ := exists_of_readNumber? hnumber
  · exact ⟨some '-', ds, rfl, by simp, hdigits, nofun, by simp⟩
  · exact ⟨some '+', ds, rfl, by simp, hdigits, nofun, by simp⟩
  · exact ⟨none, ds, rfl, by simp, hdigits, fun _ => hlength, by simp⟩

/-- A year without a sign has at most four digits. -/
lemma readYear?_of_isDigit {c : Char} {cs : List Char} (h : c.isDigit = true) :
    readYear? (c :: cs) = (readNumber? 4 (c :: cs)).map fun (n, rest) => ((n : ℤ), rest) := by
  unfold readYear?
  split
  · next heq =>
    cases heq
    cases h
  · next heq =>
    cases heq
    cases h
  · rfl

lemma readYear?_minus {cs : List Char} : readYear? ('-' :: cs) =
    (readNumber? cs.length cs).map fun (n, rest) => (-(n : ℤ), rest) := rfl

lemma readYear?_plus {cs : List Char} : readYear? ('+' :: cs) =
    (readNumber? cs.length cs).map fun (n, rest) => ((n : ℤ), rest) := rfl

lemma readHyphen?_eq_some_iff : readHyphen? cs = some rest ↔ cs = '-' :: rest := by
  unfold readHyphen?
  split <;> simp_all

/-- There are no blanks to take off in front of a digit or a sign. -/
lemma trimStart_cons {c : Char} {cs : List Char} (h : c.isDigit = true ∨ c = '-' ∨ c = '+') :
    Text.trimStart (c :: cs) = c :: cs := by
  have hprinted : 0x21 ≤ c.toNat ∧ c.toNat ≤ 0x7E := by
    rcases h with h | rfl | rfl
    · obtain ⟨hlow, hhigh⟩ := Char.isDigit_iff_toNat.mp h
      exact ⟨le_trans (by decide) hlow, le_trans hhigh (by decide)⟩
    · decide
    · decide
  rw [Text.trimStart, List.dropWhile_cons_of_neg (by simp [Text.isBlank_of_printed hprinted])]

lemma trimStart_numeral (h : IsNumeral ds) (rest : List Char) :
    Text.trimStart (ds ++ rest) = ds ++ rest := by
  obtain ⟨c, ds, rfl⟩ := List.exists_cons_of_ne_nil h.1
  exact trimStart_cons (.inl (h.2 c List.mem_cons_self))

/-! ## Whole dates -/

namespace Spelling

lemma trimStart_chars (s : Spelling) : Text.trimStart s.chars = s.chars := by
  cases hsign : s.sign with
  | none =>
    rw [chars, hsign]
    exact trimStart_numeral s.year_digits _
  | some c =>
    rw [chars, hsign]
    exact trimStart_cons (.inr (s.sign_mem c hsign))

/-- The year of a spelling is read whole. -/
lemma readYear?_chars (s : Spelling) :
    readYear? s.chars = some (s.yearNumber, '-' :: (s.month ++ '-' :: s.day)) := by
  have hhyphen : ∀ c ∈ ('-' :: (s.month ++ '-' :: s.day)).head?, c.isDigit = false := by simp
  have hnumber (limit : ℕ) (h : s.year.length ≤ limit) :
      readNumber? limit (s.year ++ '-' :: (s.month ++ '-' :: s.day)) =
        some (Nat.ofDigitChars 10 s.year 0, '-' :: (s.month ++ '-' :: s.day)) :=
    readNumber?_append s.year_digits.2 s.year_digits.1 h hhyphen
  cases hsign : s.sign with
  | none =>
    have hread := hnumber 4 (s.year_length hsign)
    obtain ⟨c, cs, hyear⟩ := List.exists_cons_of_ne_nil s.year_digits.1
    have hdigit : c.isDigit = true := s.year_digits.2 c (hyear ▸ List.mem_cons_self)
    rw [chars, yearNumber, hsign, Option.toList_none, List.nil_append]
    rw [hyear, List.cons_append] at hread ⊢
    rw [readYear?_of_isDigit hdigit, hread]
    simp
  | some c =>
    have hread := hnumber (s.year ++ '-' :: (s.month ++ '-' :: s.day)).length (by simp)
    rw [chars, yearNumber, hsign, Option.toList_some, List.singleton_append]
    rcases s.sign_mem c hsign with rfl | rfl
    · rw [readYear?_minus, hread]
      simp
    · rw [readYear?_plus, hread]
      simp

/-- A spelling is read as the date that it spells. -/
lemma read?_chars (s : Spelling) : read? s.chars = s.date? := by
  have hhyphen (cs : List Char) : Text.trimStart ('-' :: cs) = '-' :: cs :=
    trimStart_cons (.inr (.inl rfl))
  have hmonth : readNumber? 2 (s.month ++ '-' :: s.day) =
      some (Nat.ofDigitChars 10 s.month 0, '-' :: s.day) :=
    readNumber?_append s.month_digits.2 s.month_digits.1 s.month_length (by simp)
  have hday : readNumber? 2 (s.day ++ []) = some (Nat.ofDigitChars 10 s.day 0, []) :=
    readNumber?_append s.day_digits.2 s.day_digits.1 s.day_length (by simp)
  have hstart : Text.trimStart (s.day ++ []) = s.day ++ [] := trimStart_numeral s.day_digits []
  have hend : Text.trimStart [] = [] := rfl
  rw [List.append_nil] at hday hstart
  rw [read?, s.trimStart_chars, s.readYear?_chars]
  simp [hhyphen, readHyphen?, trimStart_numeral s.month_digits, hmonth, hstart, hday, hend, date?]

end Spelling

/-- Without blanks, what is read as a date spells it. -/
theorem read?_eq_some_iff (hfree : ∀ c ∈ cs, Text.isBlank c = false) :
    read? cs = some d ↔ ∃ s : Spelling, s.chars = cs ∧ s.date? = some d := by
  constructor
  · intro h
    simp only [read?, Option.bind_eq_bind, Option.bind_eq_some_iff] at h
    obtain ⟨⟨year, cs₁⟩, hyear, cs₂, hhyphen, ⟨month, cs₃⟩, hmonth, cs₄, hhyphen', ⟨day, cs₅⟩, hday,
      hdate⟩ := h
    -- what is left behind each part has no blanks either
    rw [Text.trimStart_of_free hfree] at hyear
    obtain ⟨sign, ys, rfl, hsign, hys, hyslength, rfl⟩ := exists_of_readYear? hyear
    have hfree₁ : ∀ c ∈ cs₁, Text.isBlank c = false := fun c hc => hfree c (by simp [hc])
    rw [Text.trimStart_of_free hfree₁, readHyphen?_eq_some_iff] at hhyphen
    subst hhyphen
    have hfree₂ : ∀ c ∈ cs₂, Text.isBlank c = false := fun c hc => hfree₁ c (by simp [hc])
    rw [Text.trimStart_of_free hfree₂] at hmonth
    obtain ⟨ms, rfl, hms, hmslength, rfl⟩ := exists_of_readNumber? hmonth
    have hfree₃ : ∀ c ∈ cs₃, Text.isBlank c = false := fun c hc => hfree₂ c (by simp [hc])
    rw [Text.trimStart_of_free hfree₃, readHyphen?_eq_some_iff] at hhyphen'
    subst hhyphen'
    have hfree₄ : ∀ c ∈ cs₄, Text.isBlank c = false := fun c hc => hfree₃ c (by simp [hc])
    rw [Text.trimStart_of_free hfree₄] at hday
    obtain ⟨ds, rfl, hds, hdslength, rfl⟩ := exists_of_readNumber? hday
    have hfree₅ : ∀ c ∈ cs₅, Text.isBlank c = false := fun c hc => hfree₄ c (by simp [hc])
    rw [Text.trimStart_of_free hfree₅] at hdate
    obtain ⟨rfl, hdate⟩ := Option.ite_none_right_eq_some.mp hdate
    exact ⟨⟨sign, ys, ms, ds, hsign, hys, hms, hds, hyslength, hmslength, hdslength⟩,
      by simp [Spelling.chars], hdate⟩
  · rintro ⟨s, rfl, hdate⟩
    rw [s.read?_chars, hdate]

end Remittance.Date
