import Mathlib.Data.List.DropRight
import Mathlib.Data.List.TakeWhile
import Remittance.Proofs.Decimal.Reading
import Remittance.Proofs.Json.Number
/-!
# The texts of numbers

`NumberText` says which texts are numbers: with an exponent, too, in which no number is ever written.
What is taken for a number is one (`numberText_of_readNumber`), and it is told from what follows it
(`NumberText.takeWhile_append`), because a blank, a comma or a closing bracket follows a value, or
nothing at all (`EndsValue`).
-/

namespace Remittance.Json

variable {cs ds rest text : List Char} {c : Char}

/-! ## What follows a value -/

/-- The characters that can follow a value: blanks, the comma and the closing brackets. -/
def followers : List Char := [' ', '\n', '\t', '\r', ',', ']', '}']

/-- A value that stands in front of this text is over. -/
def EndsValue (rest : List Char) : Prop := ∀ c ∈ rest.head?, c ∈ followers

@[simp] lemma endsValue_nil : EndsValue [] := by simp [EndsValue]

@[simp] lemma endsValue_cons : EndsValue (c :: rest) ↔ c ∈ followers := by simp [EndsValue]

lemma mem_followers_of_isBlank (h : isBlank c = true) : c ∈ followers := by
  simp only [isBlank, Bool.or_eq_true, beq_iff_eq] at h
  obtain ((rfl | rfl) | rfl) | rfl := h <;> decide

/-- Blanks in front of what follows a value follow it too. -/
lemma EndsValue.of_skipBlanks (h : EndsValue (skipBlanks rest)) : EndsValue rest := by
  cases rest with
  | nil => exact endsValue_nil
  | cons c rest =>
    by_cases hc : isBlank c = true
    · exact endsValue_cons.mpr (mem_followers_of_isBlank hc)
    · rwa [skipBlanks_cons (Bool.eq_false_iff.mpr hc)] at h

@[simp] lemma skipBlanks_skipBlanks (cs : List Char) : skipBlanks (skipBlanks cs) = skipBlanks cs :=
  List.dropWhile_idempotent _ _

/-! ## Numbers -/

/-- The text of an exponent: nothing, or its letter, perhaps a sign, and one digit or more. -/
def ExponentPart (exponent : List Char) : Prop :=
  exponent = [] ∨ ∃ letter sign digits, (letter = 'e' ∨ letter = 'E') ∧
    (sign = [] ∨ sign = ['+'] ∨ sign = ['-']) ∧ digits ≠ [] ∧ (∀ c ∈ digits, c.isDigit = true) ∧
    exponent = letter :: (sign ++ digits)

/-- The text of a number. -/
def NumberText (text : List Char) : Prop :=
  ∃ sign whole fraction exponent, (sign = [] ∨ sign = ['-']) ∧ WholePart whole ∧
    FractionPart fraction ∧ ExponentPart exponent ∧ text = sign ++ (whole ++ (fraction ++ exponent))

/-- The characters of numbers. -/
def isNumberChar (c : Char) : Bool := continuesNumber c || c == '-' || c == '+'

lemma NumberText.isNumberChar (h : NumberText text) : ∀ c ∈ text, isNumberChar c = true := by
  have hdigits {digits : List Char} (h : ∀ c ∈ digits, c.isDigit = true) :
      ∀ c ∈ digits, Json.isNumberChar c = true := by
    intro c hc
    simp [Json.isNumberChar, continuesNumber, h c hc]
  obtain ⟨sign, whole, fraction, exponent, hsign, hwhole, hfraction, hexponent, rfl⟩ := h
  simp only [List.mem_append]
  rintro c (hc | hc | hc | hc)
  · rcases hsign with rfl | rfl
    · cases hc
    · rw [List.mem_singleton.mp hc]
      rfl
  · exact hdigits hwhole.isDigit c hc
  · obtain rfl | ⟨digits, -, hfraction, rfl⟩ := hfraction
    · cases hc
    · rcases List.mem_cons.mp hc with rfl | hc
      · rfl
      · exact hdigits hfraction c hc
  · obtain rfl | ⟨letter, sign, digits, hletter, hsign, -, hexponent, rfl⟩ := hexponent
    · cases hc
    · rcases List.mem_cons.mp hc with rfl | hc
      · rcases hletter with rfl | rfl <;> rfl
      rcases List.mem_append.mp hc with hc | hc
      · rcases hsign with rfl | rfl | rfl
        · cases hc
        · rw [List.mem_singleton.mp hc]
          rfl
        · rw [List.mem_singleton.mp hc]
          rfl
      · exact hdigits hexponent c hc

/-- A number is told from what follows it. -/
lemma NumberText.takeWhile_append (h : NumberText text) (hrest : EndsValue rest) :
    (text ++ rest).takeWhile Json.isNumberChar = text := by
  have hbehind : rest.takeWhile Json.isNumberChar = [] := by
    cases rest with
    | nil => rfl
    | cons c rest =>
      -- no character that can follow a value belongs to a number
      have hfollowers : (followers.all fun c => !Json.isNumberChar c) = true := by decide
      have hc := List.all_eq_true.mp hfollowers c (endsValue_cons.mp hrest)
      exact List.takeWhile_cons_of_neg (by simpa using hc)
  rw [List.takeWhile_append_of_pos h.isNumberChar, hbehind, List.append_nil]

/-- A number starts with a digit or a minus sign. -/
lemma NumberText.exists_cons (h : NumberText text) :
    ∃ c behind, text = c :: behind ∧ startsNumber c = true := by
  obtain ⟨sign, whole, fraction, exponent, hsign, hwhole, -, -, rfl⟩ := h
  obtain rfl | rfl := hsign
  · obtain ⟨c, digits, rfl⟩ := List.exists_cons_of_ne_nil hwhole.ne_nil
    exact ⟨c, digits ++ (fraction ++ exponent), rfl,
      by simp [startsNumber, hwhole.isDigit c List.mem_cons_self]⟩
  · exact ⟨'-', whole ++ (fraction ++ exponent), rfl, rfl⟩

/-- What begins with another character is no number. -/
lemma NumberText.not_cons (h : NumberText text) (hc : startsNumber c = false) :
    c :: ds ≠ text ++ rest := by
  obtain ⟨d, behind, rfl, hd⟩ := h.exists_cons
  intro heq
  rw [(List.cons.inj heq).1, hd] at hc
  cases hc

section

variable {atEnd : Fault} {t : Taken cs}

lemma token_of_takeDigits (h : takeDigits atEnd cs = .ok t) :
    t.token ≠ [] ∧ ∀ c ∈ t.token, c.isDigit = true := by
  unfold takeDigits at h
  split at h
  · cases h
  · next c rest =>
    split at h
    · next hc =>
      cases h
      refine ⟨List.cons_ne_nil _ _, List.forall_mem_cons.mpr ⟨hc, fun d hd => ?_⟩⟩
      exact List.mem_takeWhile_imp hd
    · cases h

lemma wholePart_of_takeWhole (h : takeWhole atEnd cs = .ok t) : WholePart t.token := by
  unfold takeWhole at h
  split at h
  · split at h
    · cases h
    · cases h
      exact ⟨List.cons_ne_nil _ _, by simp [Taken.cons, Taken.nothing],
        fun rest heq => (List.cons.inj heq).2.symm⟩
  · next hzero =>
    obtain ⟨hne, hdigits⟩ := token_of_takeDigits h
    refine ⟨hne, hdigits, fun digits htoken => ?_⟩
    -- a zero that more digits follow is refused, so the text ends behind this one
    have hcs := t.append_eq
    rw [htoken, List.cons_append] at hcs
    cases hbehind : digits ++ t.rest with
    | nil => exact (List.append_eq_nil_iff.mp hbehind).1
    | cons d behind =>
      rw [hbehind] at hcs
      exact absurd hcs.symm (hzero d behind)

lemma fractionPart_of_takeFraction (h : takeFraction atEnd cs = .ok t) : FractionPart t.token := by
  unfold takeFraction at h
  split at h
  · next rest =>
    obtain ⟨digits, hdigits, rfl⟩ := map_eq_ok_iff.mp h
    obtain ⟨hne, hall⟩ := token_of_takeDigits hdigits
    exact .inr ⟨digits.token, hne, hall, rfl⟩
  · cases h
    exact .inl rfl

lemma token_takeSign (cs : List Char) :
    (takeSign cs).token = [] ∨ (takeSign cs).token = ['+'] ∨ (takeSign cs).token = ['-'] := by
  unfold takeSign
  split
  · exact .inr (.inl rfl)
  · exact .inr (.inr rfl)
  · exact .inl rfl

lemma exponentPart_of_takeExponent (h : takeExponent atEnd cs = .ok t) : ExponentPart t.token := by
  unfold takeExponent at h
  split at h
  · cases h
    exact .inl rfl
  · next letter rest =>
    split at h
    · next hletter =>
      obtain ⟨digits, hdigits, rfl⟩ := map_eq_ok_iff.mp h
      obtain ⟨hne, hall⟩ := token_of_takeDigits hdigits
      exact .inr ⟨letter, (takeSign rest).token, digits.token, hletter, token_takeSign rest, hne,
        hall, rfl⟩
    · cases h
      exact .inl rfl

lemma exists_parts_of_takeMagnitude (h : takeMagnitude atEnd cs = .ok t) :
    ∃ whole fraction exponent, WholePart whole ∧ FractionPart fraction ∧ ExponentPart exponent ∧
      t.token = whole ++ (fraction ++ exponent) := by
  unfold takeMagnitude at h
  obtain ⟨whole, hwhole, h⟩ := bind_eq_ok_iff.mp h
  obtain ⟨fraction, hfraction, h⟩ := bind_eq_ok_iff.mp h
  obtain ⟨exponent, hexponent, h⟩ := bind_eq_ok_iff.mp h
  cases h
  exact ⟨_, _, _, wholePart_of_takeWhole hwhole, fractionPart_of_takeFraction hfraction,
    exponentPart_of_takeExponent hexponent, rfl⟩

/-- What is taken for a number is one. -/
lemma numberText_of_takeNumber (h : takeNumber atEnd cs = .ok t) : NumberText t.token := by
  unfold takeNumber at h
  split at h
  · next rest =>
    obtain ⟨magnitude, hmagnitude, rfl⟩ := map_eq_ok_iff.mp h
    obtain ⟨whole, fraction, exponent, hwhole, hfraction, hexponent, htoken⟩ :=
      exists_parts_of_takeMagnitude hmagnitude
    exact ⟨['-'], whole, fraction, exponent, .inr rfl, hwhole, hfraction, hexponent,
      congrArg ('-' :: ·) htoken⟩
  · obtain ⟨whole, fraction, exponent, hwhole, hfraction, hexponent, htoken⟩ :=
      exists_parts_of_takeMagnitude h
    exact ⟨[], whole, fraction, exponent, .inl rfl, hwhole, hfraction, hexponent, htoken⟩

lemma numberText_of_readNumber {p : Parsed (List Char) cs} (h : readNumber atEnd cs = .ok p) :
    NumberText p.value ∧ cs = p.value ++ p.rest := by
  unfold readNumber at h
  split at h
  · cases h
  · next t htake =>
    cases h
    exact ⟨numberText_of_takeNumber htake, t.append_eq.symm⟩

end

end Remittance.Json
