import Mathlib.Tactic.Common
import Mathlib.Tactic.NormNum.Basic
import Remittance.Json.Number
import Remittance.Proofs.Json.Reading
/-!
# Numbers are read as they are written

`Numeral` says which texts are written for numbers: an optional minus sign, a whole part without a
leading zero, and perhaps a point with digits behind it. Such a text is taken as a whole where no
character follows that could be part of a number (`gives_readNumber`).
-/

namespace Remittance.Json

variable {cs rest whole fraction text token : List Char} {c : Char}

/-- The characters that a number can go on with. -/
def continuesNumber (c : Char) : Bool := c.isDigit || c == '.' || c == 'e' || c == 'E'

/-- A number that stands in front of this text is over. -/
def EndsNumber (rest : List Char) : Prop := ∀ c ∈ rest.head?, continuesNumber c = false

@[simp] lemma endsNumber_cons : EndsNumber (c :: rest) ↔ continuesNumber c = false := by
  simp [EndsNumber]

/-- The text of a whole part: one digit or more, of which the first is a zero only if it is the
only one. -/
structure WholePart (whole : List Char) : Prop where
  ne_nil : whole ≠ []
  isDigit : ∀ c ∈ whole, c.isDigit = true
  eq_zero : ∀ rest, whole = '0' :: rest → rest = []

/-- The text of a fraction: nothing, or a point and one digit or more. -/
def FractionPart (fraction : List Char) : Prop :=
  fraction = [] ∨ ∃ digits, digits ≠ [] ∧ (∀ c ∈ digits, c.isDigit = true) ∧
    fraction = '.' :: digits

/-- The text of a number without an exponent. -/
def Numeral (text : List Char) : Prop :=
  ∃ sign whole fraction, (sign = [] ∨ sign = ['-']) ∧ WholePart whole ∧ FractionPart fraction ∧
    text = sign ++ (whole ++ fraction)

/-! ## Taking a number -/

section

variable (atEnd : Fault)

/-- The step takes this token and leaves this rest. -/
def Takes (step : Except Failure (Taken cs)) (token rest : List Char) : Prop :=
  ∃ h, step = .ok ⟨token, rest, h⟩

lemma Takes.cons {step : Except Failure (Taken cs)} (h : Takes step token rest) (c : Char) :
    Takes (step.map (·.cons c)) (c :: token) rest := by
  obtain ⟨_, rfl⟩ := h
  exact ⟨_, rfl⟩

lemma EndsNumber.isDigit (h : EndsNumber rest) : ∀ c ∈ rest.head?, c.isDigit = false := by
  intro c hc
  have := h c hc
  simp_all [continuesNumber]

/-- Digits are taken up to the first character that is none. -/
lemma takes_takeDigits (hne : token ≠ []) (hdigits : ∀ c ∈ token, c.isDigit = true)
    (hrest : ∀ c ∈ rest.head?, c.isDigit = false) :
    Takes (takeDigits atEnd (token ++ rest)) token rest := by
  obtain ⟨c, digits, rfl⟩ := List.exists_cons_of_ne_nil hne
  obtain ⟨hc, hdigits⟩ := List.forall_mem_cons.mp hdigits
  have hdrop : rest.dropWhile Char.isDigit = rest := by
    cases rest with
    | nil => rfl
    | cons d rest => exact List.dropWhile_cons_of_neg (by simpa using hrest d rfl)
  have htake : rest.takeWhile Char.isDigit = [] := by
    cases rest with
    | nil => rfl
    | cons d rest => exact List.takeWhile_cons_of_neg (by simpa using hrest d rfl)
  refine ⟨rfl, ?_⟩
  simp only [takeDigits, List.cons_append, hc, if_true, Taken.span, Taken.cons]
  congr 2
  · rw [List.takeWhile_append_of_pos hdigits, htake, List.append_nil]
  · rw [List.dropWhile_append_of_pos hdigits, hdrop]

lemma takes_takeWhole (hwhole : WholePart whole) (hrest : ∀ c ∈ rest.head?, c.isDigit = false) :
    Takes (takeWhole atEnd (whole ++ rest)) whole rest := by
  obtain ⟨hne, hdigits, hzero⟩ := hwhole
  obtain ⟨c, digits, rfl⟩ := List.exists_cons_of_ne_nil hne
  by_cases hc : c = '0'
  · -- a zero stands in front: it is the whole part, so what follows it is no digit
    subst hc
    obtain rfl := hzero digits rfl
    cases rest with
    | nil => exact ⟨rfl, rfl⟩
    | cons d rest =>
      have hd : d.isDigit = false := hrest d rfl
      exact ⟨rfl, by simp [takeWhole, hd, Taken.cons, Taken.nothing]⟩
  · have hwhole : takeWhole atEnd (c :: digits ++ rest) = takeDigits atEnd (c :: digits ++ rest) :=
      takeWhole.eq_2 _ _ fun d behind heq => hc (List.cons.inj heq).1
    rw [hwhole]
    exact takes_takeDigits atEnd hne hdigits hrest

lemma takes_takeFraction (hfraction : FractionPart fraction) (hrest : EndsNumber rest) :
    Takes (takeFraction atEnd (fraction ++ rest)) fraction rest := by
  obtain rfl | ⟨digits, hne, hdigits, rfl⟩ := hfraction
  · refine ⟨rfl, takeFraction.eq_2 _ _ fun behind heq => ?_⟩
    obtain rfl : rest = '.' :: behind := heq
    cases endsNumber_cons.mp hrest
  · exact (takes_takeDigits atEnd hne hdigits hrest.isDigit).cons '.'

lemma takes_takeExponent (hrest : EndsNumber rest) : Takes (takeExponent atEnd rest) [] rest := by
  refine ⟨rfl, ?_⟩
  cases rest with
  | nil => rfl
  | cons c rest =>
    have hc : ¬(c = 'e' ∨ c = 'E') := by
      rintro (rfl | rfl) <;> cases endsNumber_cons.mp hrest
    rw [takeExponent, if_neg hc]
    rfl

/-- A fraction does not start with a digit. -/
lemma FractionPart.head (hfraction : FractionPart fraction) (hrest : EndsNumber rest) :
    ∀ c ∈ (fraction ++ rest).head?, c.isDigit = false := by
  obtain rfl | ⟨digits, -, -, rfl⟩ := hfraction
  · exact hrest.isDigit
  · simp [show Char.isDigit '.' = false from rfl]

lemma takes_takeMagnitude (hwhole : WholePart whole) (hfraction : FractionPart fraction)
    (hrest : EndsNumber rest) :
    Takes (takeMagnitude atEnd (whole ++ (fraction ++ rest))) (whole ++ fraction) rest := by
  obtain ⟨_, hw⟩ := takes_takeWhole atEnd hwhole (hfraction.head hrest)
  obtain ⟨_, hf⟩ := takes_takeFraction atEnd hfraction hrest
  obtain ⟨_, he⟩ := takes_takeExponent atEnd hrest
  refine ⟨by simp, ?_⟩
  simp [takeMagnitude, hw, hf, he, bind, Except.bind, pure, Except.pure, Taken.append]

/-- The text of a number is taken as a whole. -/
lemma takes_takeNumber (htext : Numeral text) (hrest : EndsNumber rest) :
    Takes (takeNumber atEnd (text ++ rest)) text rest := by
  obtain ⟨sign, whole, fraction, hsign, hwhole, hfraction, rfl⟩ := htext
  have htakes := takes_takeMagnitude atEnd hwhole hfraction hrest
  rw [List.append_assoc, List.append_assoc]
  obtain rfl | rfl := hsign
  · -- without a sign the text starts with a digit
    obtain ⟨c, digits, rfl⟩ := List.exists_cons_of_ne_nil hwhole.ne_nil
    have hc : c.isDigit = true := hwhole.isDigit c List.mem_cons_self
    rw [takeNumber.eq_2 _ _ fun behind heq => by
      obtain rfl : c = '-' := (List.cons.inj heq).1
      cases hc]
    exact htakes
  · exact htakes.cons '-'

/-- A number is read as the text that was written for it. -/
theorem gives_readNumber (htext : Numeral text) (hrest : EndsNumber rest) :
    Gives (readNumber atEnd (text ++ rest)) text rest := by
  obtain ⟨happend, htake⟩ := takes_takeNumber atEnd htext hrest
  unfold readNumber
  split
  · next heq => cases htake.symm.trans heq
  · next heq =>
    cases htake.symm.trans heq
    exact ⟨_, rfl⟩

end

/-- The text of a number starts with a minus sign or a digit. -/
lemma Numeral.exists_cons (htext : Numeral text) :
    ∃ c rest, text = c :: rest ∧ startsNumber c = true := by
  obtain ⟨sign, whole, fraction, hsign, hwhole, -, rfl⟩ := htext
  obtain rfl | rfl := hsign
  · obtain ⟨c, digits, rfl⟩ := List.exists_cons_of_ne_nil hwhole.ne_nil
    exact ⟨c, digits ++ fraction, rfl,
      by simp [startsNumber, hwhole.isDigit c List.mem_cons_self]⟩
  · exact ⟨'-', whole ++ fraction, rfl, rfl⟩

/-- The text of a number is written with digits, signs and points. -/
lemma Numeral.mem (htext : Numeral text) (hc : c ∈ text) : c.isDigit = true ∨ c = '-' ∨ c = '.' := by
  obtain ⟨sign, whole, fraction, hsign, hwhole, hfraction, rfl⟩ := htext
  rw [List.mem_append, List.mem_append] at hc
  obtain hc | hc | hc := hc
  · obtain rfl | rfl := hsign
    · cases hc
    · exact .inr (.inl (List.mem_singleton.mp hc))
  · exact .inl (hwhole.isDigit c hc)
  · obtain rfl | ⟨digits, -, hdigits, rfl⟩ := hfraction
    · cases hc
    · exact (List.mem_cons.mp hc).elim (fun hc => .inr (.inr hc)) fun hc => .inl (hdigits c hc)

/-! ## Numbers in digits -/

/-- The digits of a number have no zero in front of them. -/
lemma wholePart_toDigits (n : ℕ) : WholePart (Nat.toDigits 10 n) where
  ne_nil := Nat.toDigits_ne_nil
  isDigit _ hc := Nat.isDigit_of_mem_toDigits (b := 10) (by decide) (by decide) hc
  eq_zero := by
    induction n using Nat.strong_induction_on with
    | _ n ih =>
      intro rest heq
      rw [Nat.toDigits_eq_if (by decide)] at heq
      split at heq
      · exact (List.cons.inj heq).2.symm
      · next hle =>
        -- the first digit is the first one of the digits in front of the last
        obtain ⟨c, digits, hdigits⟩ :=
          List.exists_cons_of_ne_nil (Nat.toDigits_ne_nil (b := 10) (n := n / 10))
        rw [hdigits, List.cons_append, List.cons.injEq] at heq
        obtain ⟨rfl, -⟩ := heq
        have hnil : digits = [] := ih (n / 10) (by omega) digits hdigits
        have hzero : n / 10 = 0 := by
          have hvalue := Nat.ofDigitChars_ten_toDigits (n := n / 10)
          rw [hdigits, hnil] at hvalue
          exact hvalue.symm
        omega

/-- The digits of a number are the text of a number. -/
lemma numeral_toDigits (n : ℕ) : Numeral (Nat.toDigits 10 n) :=
  ⟨[], _, [], .inl rfl, wholePart_toDigits n, .inl rfl, by simp⟩

end Remittance.Json
