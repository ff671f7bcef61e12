import Remittance.Json.Reading
/-!
# The numbers of JSON

An optional minus sign, a whole part without leading zeros, and optionally a fraction and an
exponent. `takeNumber` takes such a number from the front of a text, so its token is a part of the
text (`Taken.append_eq`); `readNumber` is the reader that gives this token.

What is said of a text that ends inside a number depends on who reads it, so it is a parameter.
-/

namespace Remittance.Json

/-- The digits at the front of a text, of which there has to be one. `atEnd` is the fault where
the text ends instead. -/
def takeDigits (atEnd : Fault) : (cs : List Char) → Except Failure (Taken cs)
  | [] => .error (.here atEnd [])
  | c :: rest =>
    if c.isDigit then .ok ((Taken.span Char.isDigit rest).cons c)
    else .error (.next .invalidNumber (c :: rest))

/-- The whole part of a number: a zero, or digits of which the first is another one. -/
def takeWhole (atEnd : Fault) : (cs : List Char) → Except Failure (Taken cs)
  | '0' :: d :: rest =>
    if d.isDigit then .error (.next .invalidNumber (d :: rest))
    else .ok ((Taken.nothing (d :: rest)).cons '0')
  | cs => takeDigits atEnd cs

/-- The fraction of a number, if it has one. -/
def takeFraction (atEnd : Fault) : (cs : List Char) → Except Failure (Taken cs)
  | '.' :: rest => (takeDigits atEnd rest).map (·.cons '.')
  | cs => .ok (.nothing cs)

/-- An optional sign of an exponent. -/
def takeSign : (cs : List Char) → Taken cs
  | '+' :: rest => (Taken.nothing rest).cons '+'
  | '-' :: rest => (Taken.nothing rest).cons '-'
  | cs => .nothing cs

/-- The exponent of a number, if it has one. -/
def takeExponent (atEnd : Fault) : (cs : List Char) → Except Failure (Taken cs)
  | [] => .ok (.nothing [])
  | c :: rest =>
    if c = 'e' ∨ c = 'E' then
      (takeDigits atEnd (takeSign rest).rest).map fun digits =>
        ((takeSign rest).append digits).cons c
    else .ok (.nothing (c :: rest))

/-- A number without its sign. -/
def takeMagnitude (atEnd : Fault) (cs : List Char) : Except Failure (Taken cs) := do
  let whole ← takeWhole atEnd cs
  let fraction ← takeFraction atEnd whole.rest
  let exponent ← takeExponent atEnd fraction.rest
  return whole.append (fraction.append exponent)

/-- A number. -/
def takeNumber (atEnd : Fault) : (cs : List Char) → Except Failure (Taken cs)
  | '-' :: rest => (takeMagnitude atEnd rest).map (·.cons '-')
  | cs => takeMagnitude atEnd cs

theorem token_ne_nil_of_takeDigits {atEnd : Fault} {cs : List Char} {t : Taken cs}
    (h : takeDigits atEnd cs = .ok t) : t.token ≠ [] := by
  unfold takeDigits at h
  split at h
  · cases h
  · split at h
    · cases h
      exact List.cons_ne_nil _ _
    · cases h

theorem token_ne_nil_of_takeWhole {atEnd : Fault} {cs : List Char} {t : Taken cs}
    (h : takeWhole atEnd cs = .ok t) : t.token ≠ [] := by
  unfold takeWhole at h
  split at h
  · split at h
    · cases h
    · cases h
      exact List.cons_ne_nil _ _
  · exact token_ne_nil_of_takeDigits h

theorem token_ne_nil_of_takeMagnitude {atEnd : Fault} {cs : List Char} {t : Taken cs}
    (h : takeMagnitude atEnd cs = .ok t) : t.token ≠ [] := by
  unfold takeMagnitude at h
  cases hw : takeWhole atEnd cs with
  | error failure => rw [hw] at h; cases h
  | ok whole =>
    rw [hw] at h
    cases hf : takeFraction atEnd whole.rest with
    | error failure => simp [hf, bind, Except.bind] at h
    | ok fraction =>
      cases he : takeExponent atEnd fraction.rest with
      | error failure => simp [hf, he, bind, Except.bind] at h
      | ok exponent =>
        simp only [hf, he, bind, Except.bind, pure, Except.pure, Except.ok.injEq] at h
        subst h
        exact List.append_ne_nil_of_left_ne_nil (token_ne_nil_of_takeWhole hw) _

/-- A number has at least one character. -/
theorem token_ne_nil_of_takeNumber {atEnd : Fault} {cs : List Char} {t : Taken cs}
    (h : takeNumber atEnd cs = .ok t) : t.token ≠ [] := by
  unfold takeNumber at h
  split at h
  · next rest =>
    cases hm : takeMagnitude atEnd rest with
    | error failure => rw [hm] at h; cases h
    | ok magnitude =>
      rw [hm] at h
      cases h
      exact List.cons_ne_nil _ _
  · exact token_ne_nil_of_takeMagnitude h

/-- Reads a number; the value is its text. -/
def readNumber (atEnd : Fault) : Reader (List Char) := fun cs =>
  match h : takeNumber atEnd cs with
  | .error failure => .error failure
  | .ok t => .ok ⟨t.token, t.rest, t.length_rest_lt (token_ne_nil_of_takeNumber h)⟩

/-- The character begins a number. -/
def startsNumber (c : Char) : Bool := c == '-' || c.isDigit

/-- The number that digits spell. -/
def digitsValue (digits : List Char) : Nat :=
  digits.foldl (fun n c => n * 10 + (c.toNat - '0'.toNat)) 0

/-- The whole number of sixty-four bits that a text spells: digits, or a minus sign and digits that
are not a zero. -/
def wholeNumber? (text : List Char) : Option Int :=
  match text with
  | '-' :: digits =>
    if digits.all Char.isDigit ∧ digitsValue digits ≤ UInt64.size / 2 ∧ digitsValue digits ≠ 0 then
      some (-(digitsValue digits : Int))
    else none
  | digits =>
    if digits.all Char.isDigit ∧ digitsValue digits < UInt64.size then
      some (digitsValue digits : Int)
    else none

/-- The number as messages name it: a whole number of sixty-four bits by its value. -/
def Found.ofNumber (text : List Char) : Found :=
  match wholeNumber? text with
  | some n => .integer (toString n)
  | none => .number

end Remittance.Json
