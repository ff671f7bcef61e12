import Mathlib.Tactic.Common
import Remittance.Json.Printer
import Remittance.Json.Scalar
import Remittance.Proofs.Json.Reading
/-!
# Strings are read as they are written

Every string is read back from its text in quotes (`gives_readString`), whatever characters it
holds, and a line break never stands in this text (`line_break_notMem_quote`).
-/

namespace Remittance.Json

variable {c : Char} {cs rest whole before : List Char}

/-! ## Characters -/

/-- A character is written as an escape with a letter, as an escape with its number, or as it is. -/
lemma escapeChar_cases (c : Char) :
    (∃ letter, escapeChar c = ['\\', letter] ∧ simpleEscape? letter = some c) ∨
    (c.toNat < 0x20 ∧
      escapeChar c = ['\\', 'u', '0', '0', hexDigit (c.toNat / 16), hexDigit c.toNat]) ∨
    (escapeChar c = [c] ∧ c ≠ '"' ∧ c ≠ '\\' ∧ isControl c = false) := by
  generalize htext : escapeChar c = text
  unfold escapeChar at htext
  split_ifs at htext with hquote hslash hline hreturn htab hback hfeed hcontrol
  all_goals subst htext
  · exact .inl ⟨'"', rfl, congrArg some hquote.symm⟩
  · exact .inl ⟨'\\', rfl, congrArg some hslash.symm⟩
  · exact .inl ⟨'n', rfl, congrArg some hline.symm⟩
  · exact .inl ⟨'r', rfl, congrArg some hreturn.symm⟩
  · exact .inl ⟨'t', rfl, congrArg some htab.symm⟩
  · exact .inl ⟨'b', rfl, congrArg some hback.symm⟩
  · exact .inl ⟨'f', rfl, congrArg some hfeed.symm⟩
  · exact .inr (.inl ⟨hcontrol, rfl⟩)
  · exact .inr (.inr ⟨rfl, hquote, hslash, decide_eq_false hcontrol⟩)

/-- A digit of base sixteen has the value that it is written for. -/
lemma hexDigitValue?_hexDigit (n : ℕ) : hexDigitValue? (hexDigit n) = some (n % 16) := by
  have hdigit : ∀ m < 16, hexDigitValue? (Nat.digitChar m) = some m := by decide
  exact hdigit (n % 16) (Nat.mod_lt n (by decide))

lemma hexDigit_ne_line_break (n : ℕ) : hexDigit n ≠ '\n' := by
  intro heq
  have hvalue := hexDigitValue?_hexDigit n
  rw [heq] at hvalue
  cases hvalue

/-- The escape with the number of a character stands for the character. -/
lemma gives_readUnicodeEscape (rest : List Char) (hc : c.toNat < 0x20) :
    Gives (readUnicodeEscape ('0' :: '0' :: hexDigit (c.toNat / 16) :: hexDigit c.toNat :: rest))
      c rest := by
  have hzero : hexDigitValue? '0' = some 0 := rfl
  have hvalue : hexValue? '0' '0' (hexDigit (c.toNat / 16)) (hexDigit c.toNat) = some c.toNat := by
    simp only [hexValue?, hzero, hexDigitValue?_hexDigit, Option.bind_eq_bind, Option.bind_some,
      Option.pure_def, Option.some.injEq]
    omega
  have htrailing : isTrailingSurrogate c.toNat = false := by
    rw [isTrailingSurrogate, decide_eq_false (by omega), Bool.false_and]
  have hleading : isLeadingSurrogate c.toNat = false := by
    rw [isLeadingSurrogate, decide_eq_false (by omega), Bool.false_and]
  refine ⟨by simp only [List.length_cons]; omega, ?_⟩
  simp [readUnicodeEscape, readHex, hvalue, htrailing, hleading, Parsed.map, Char.ofNat_toNat]

/-- A character is read back from the text that it is written as. -/
lemma readTextFrom_escapeChar (c : Char) (h : (escapeChar c ++ cs).length ≤ whole.length) :
    readTextFrom whole before (escapeChar c ++ cs) h =
      readTextFrom whole (c :: before) cs
        (Nat.le_trans (by rw [List.length_append]; exact Nat.le_add_left ..) h) := by
  obtain ⟨letter, heq, hletter⟩ | ⟨hcontrol, heq⟩ | ⟨heq, hquote, hslash, hcontrol⟩ :=
    escapeChar_cases c
  · have hread : Gives (readEscape (letter :: cs)) c cs :=
      ⟨length_lt_cons _ _, by simp [readEscape, hletter]⟩
    obtain ⟨_, hread⟩ := hread
    simp only [heq, List.cons_append, List.nil_append]
    rw [readTextFrom]
    simp [hread]
  · have hread : Gives (readEscape ('u' :: '0' :: '0' :: hexDigit (c.toNat / 16) ::
        hexDigit c.toNat :: cs)) c cs :=
      gives_map_widen.mpr (gives_readUnicodeEscape cs hcontrol)
    obtain ⟨_, hread⟩ := hread
    simp only [heq, List.cons_append, List.nil_append]
    rw [readTextFrom]
    simp [hread]
  · simp only [heq, List.cons_append, List.nil_append]
    rw [readTextFrom]
    simp [hquote, hslash, hcontrol]

/-! ## Strings -/

lemma gives_readTextFrom (before text : List Char)
    (h : (escape text ++ '"' :: rest).length ≤ whole.length) :
    Gives (readTextFrom whole before (escape text ++ '"' :: rest) h)
      (String.ofList (before.reverse ++ text)) rest := by
  induction text generalizing before with
  | nil =>
    simp only [escape, List.flatMap_nil, List.nil_append, List.append_nil, Gives]
    rw [readTextFrom]
    exact ⟨h, rfl⟩
  | cons c text ih =>
    have hsplit : escape (c :: text) ++ '"' :: rest =
        escapeChar c ++ (escape text ++ '"' :: rest) := by
      simp [escape]
    simp only [hsplit] at h ⊢
    rw [readTextFrom_escapeChar]
    simpa using ih (c :: before) _

/-- A string is read back behind its opening quote. -/
theorem gives_readText (s : String) : Gives (readText (escape s.toList ++ '"' :: rest)) s rest := by
  have hread := gives_readTextFrom [] s.toList (length_le_self (escape s.toList ++ '"' :: rest))
  simpa [readText] using hread

/-- The text of a string starts with a quote. -/
lemma quote_append (s : String) (rest : List Char) :
    quote s ++ rest = '"' :: (escape s.toList ++ '"' :: rest) := by
  simp [quote]

/-- Every string is read back from its text in quotes. -/
theorem gives_readString (expected s : String) (rest : List Char) :
    Gives (readString expected (quote s ++ rest)) s rest := by
  rw [readString, gives_afterBlanks, quote_append, skipBlanks_cons rfl]
  simpa using gives_readText s

/-- A line break is written as an escape. -/
lemma line_break_notMem_quote (s : String) : '\n' ∉ quote s := by
  have hchar (c : Char) : '\n' ∉ escapeChar c := by
    obtain ⟨letter, heq, hletter⟩ | ⟨-, heq⟩ | ⟨heq, -, -, hcontrol⟩ := escapeChar_cases c
    · have hne : letter ≠ '\n' := by
        rintro rfl
        cases hletter
      simp [heq, hne.symm]
    · simp [heq, (hexDigit_ne_line_break _).symm]
    · have hne : c ≠ '\n' := by
        rintro rfl
        cases hcontrol
      simp [heq, hne.symm]
  simp [quote, escape, hchar]

end Remittance.Json
