import Remittance.Decimal.Basic
/-!
# Reading decimals

Two notations are read.

* The plain one (`readPlain`): a sign, digits, at most one point, and `_` anywhere behind the first
  digit. The digits are taken from the left for as long as the coefficient has room and the scale is
  below its bound; the first digit that does not fit decides the rounding, and those behind it are
  dropped. In front of the point every digit has to fit. A `_` behind the last place that there is
  counts as a dropped zero, so nothing is rounded; only behind a long number (`Tally.isShort`) it is
  skipped like anywhere else.
* The scientific one (`readScientific`): a plain number and an exponent of ten.

`read?` accepts either, the plain one first.
-/

namespace Remittance

namespace Decimal

-- powers are those of the core library, whatever other ones are in scope
attribute [local instance (high)] instPowNat

/-- Why a text is not a decimal. -/
inductive Fault where
  /-- The text has no character. -/
  | empty
  /-- The text has no digit. -/
  | noDigit
  /-- A second point. -/
  | secondPoint
  /-- A `_` in front of the first digit. -/
  | leadingUnderscore
  /-- A character that no number has. -/
  | strayCharacter
  /-- The part in front of the point is too large. -/
  | wholeTooLarge
  /-- Rounding carried into a number that is too large. -/
  | roundedTooLarge
  /-- There is no exponent, or it is not a number. -/
  | noExponent
  /-- The exponent asks for this scale. -/
  | scaleTooLarge (scale : Nat)
  /-- The exponent makes the number too large. -/
  | valueTooLarge
deriving DecidableEq

/-- The wording of a fault. -/
def Fault.message : Fault → String
  | .empty => "Invalid decimal: empty"
  | .noDigit => "Invalid decimal: no digits found"
  | .secondPoint => "Invalid decimal: two decimal points"
  | .leadingUnderscore => "Invalid decimal: must start lead with a number"
  | .strayCharacter => "Invalid decimal: unknown character"
  | .wholeTooLarge => "Invalid decimal: overflow from too many digits"
  | .roundedTooLarge => "Invalid decimal: overflow from mantissa after rounding"
  | .noExponent => "Failed to parse"
  | .scaleTooLarge scale => s!"Scale exceeds the maximum precision allowed: {scale} > {maxScale}"
  | .valueTooLarge => "Number exceeds maximum value that can be represented."

/-- The value of a decimal digit. -/
def digitValue (c : Char) : Nat := c.toNat - '0'.toNat

/-! ## The plain notation -/

/-- The digits read so far: their number, how many stand behind the point, whether the point was
seen and whether any digit was seen. -/
structure Tally where
  /-- The number that the digits spell without the point. -/
  number : Nat
  /-- How many digits stand behind the point. -/
  places : Nat
  /-- The point was seen. -/
  pointed : Bool
  /-- A digit was seen. -/
  started : Bool

namespace Tally

/-- Nothing read yet. -/
def start : Tally := ⟨0, 0, false, false⟩

/-- One more digit. -/
def push (t : Tally) (digit : Nat) : Tally :=
  ⟨t.number * 10 + digit, if t.pointed then t.places + 1 else t.places, t.pointed, true⟩

/-- There is no further place behind the point. -/
def isAtLastPlace (t : Tally) : Bool := t.pointed && t.places == maxScale

/-- One more digit would need a larger coefficient or a larger scale than there is. -/
def isFull (t : Tally) (digit : Nat) : Bool :=
  coeffBound ≤ t.number * 10 + digit || t.isAtLastPlace

/-- A tenth of the largest number of sixty-four bits, with a margin below it. -/
def shortBound : Nat := (UInt64.size - 1) / 10 - 255

/-- The number without its last digit is below the bound for short ones. -/
def isShort (t : Tally) : Bool := t.number / 10 < shortBound

/-- The digits as a decimal with the given sign, which a zero does not take on. -/
def decimal (t : Tally) (negative : Bool) : Except Fault Decimal :=
  match ofCoeff? (if negative then -(t.number : Int) else t.number) t.places with
  | some a => .ok a
  | none => .error .wholeTooLarge

/-- The digits after the first dropped digit has been looked at: five and more round away from
zero. A carry out of the coefficient gives up one place. -/
def round (t : Tally) (dropped : Nat) : Except Fault Tally :=
  if dropped < 5 then .ok t
  else if t.number + 1 < coeffBound then .ok { t with number := t.number + 1 }
  else if t.places = 0 then .error .roundedTooLarge
  else .ok { t with number := (t.number + 5) / 10, places := t.places - 1 }

end Tally

/-- What may stand behind the dropped digit. -/
def checkTail : List Char → Except Fault Unit
  | [] => .ok ()
  | c :: rest =>
    if c.isDigit || c == '_' then checkTail rest
    else if c == '.' then .error .secondPoint
    else .error .strayCharacter

/-- Reads the digits of a plain number, behind its sign. -/
def readDigits (negative : Bool) (t : Tally) : List Char → Except Fault Decimal
  | [] => if t.started then t.decimal negative else .error .noDigit
  | c :: rest =>
    if c.isDigit then
      if t.isFull (digitValue c) then
        if t.pointed then do
          checkTail rest
          let rounded ← t.round (digitValue c)
          rounded.decimal negative
        else .error .wholeTooLarge
      else readDigits negative (t.push (digitValue c)) rest
    else if c == '.' then
      if t.pointed then .error .secondPoint else readDigits negative { t with pointed := true } rest
    else if c == '_' then
      if !t.started then .error .leadingUnderscore
      else if t.isAtLastPlace && t.isShort then do
        checkTail rest
        t.decimal negative
      else readDigits negative t rest
    else .error .strayCharacter

/-- Reads a number in the plain notation. -/
def readPlain : List Char → Except Fault Decimal
  | [] => .error .empty
  | '-' :: rest => readDigits true .start rest
  | '+' :: rest => readDigits false .start rest
  | cs => readDigits false .start cs

/-! ## The scientific notation -/

/-- Reads a whole number of at most thirty-two bits, with an optional `+` in front. -/
def readExponent? (cs : List Char) : Option Nat :=
  let digits := match cs with
    | '+' :: rest => rest
    | _ => cs
  let value := digits.foldl (fun n c => n * 10 + digitValue c) 0
  if digits ≠ [] ∧ digits.all Char.isDigit ∧ value < UInt32.size then some value else none

/-- The number without its last `digits` digits: a highest dropped digit of five or more rounds
up. -/
def dropHalfUp (n : Nat) : (digits : Nat) → Nat
  | 0 => n
  | digits + 1 =>
    if n / 10 ^ digits % 10 < 5 then n / 10 ^ (digits + 1) else n / 10 ^ (digits + 1) + 1

theorem dropHalfUp_le (n digits : Nat) : dropHalfUp n digits ≤ n := by
  cases digits with
  | zero => exact Nat.le_refl n
  | succ digits =>
    have hle : n / 10 ^ digits ≤ n := Nat.div_le_self _ _
    have hsucc : n / 10 ^ (digits + 1) = n / 10 ^ digits / 10 := by
      rw [Nat.pow_succ, Nat.div_div_eq_div_mul]
    rw [dropHalfUp]
    split <;> omega

/-- The number divided by `10 ^ n`. Where this needs more places than there are, the magnitude is
rounded to the largest scale; the sign stays even if the magnitude becomes zero. -/
def shiftDown (a : Decimal) (n : Nat) : Except Fault Decimal :=
  if maxScale < n then .error (.scaleTooLarge n)
  else if h : a.scale + n ≤ maxScale then .ok { a with scale := a.scale + n, scale_le := h }
  else
    let dropped := a.scale + n - maxScale
    .ok ⟨a.negative, dropHalfUp a.magnitude dropped, maxScale,
      Nat.lt_of_le_of_lt (dropHalfUp_le _ _) a.magnitude_lt, Nat.le_refl _⟩

/-- The number multiplied by `10 ^ n`. -/
def shiftUp (a : Decimal) (n : Nat) : Except Fault Decimal :=
  if n ≤ a.scale then
    .ok { a with scale := a.scale - n, scale_le := Nat.le_trans (Nat.sub_le _ _) a.scale_le }
  else if maxScale < n then .error (.scaleTooLarge n)
  else (ofCoeff? (a.coeff * 10 ^ (n - a.scale)) 0).elim (.error .valueTooLarge) .ok

/-- The mark in front of an exponent. -/
def isExponentMark (c : Char) : Bool := c == 'e' || c == 'E'

/-- Reads a number in the scientific notation. -/
def readScientific (cs : List Char) : Except Fault Decimal :=
  match cs.dropWhile (!isExponentMark ·) with
  | [] => .error .noExponent
  | _ :: exponent => do
    let base ← readPlain (cs.takeWhile (!isExponentMark ·))
    match exponent with
    | '-' :: digits =>
      match readExponent? digits with
      | some n => shiftDown base n
      | none => .error .noExponent
    | _ =>
      match readExponent? exponent with
      | some n => shiftUp base n
      | none => .error .noExponent

/-- Reads a number in either notation; the fault is that of the scientific one. -/
def read (cs : List Char) : Except Fault Decimal :=
  match readPlain cs with
  | .ok a => .ok a
  | .error _ => readScientific cs

/-- The decimal that a text spells in either notation. -/
def read? (cs : List Char) : Option Decimal := (read cs).toOption

end Decimal

end Remittance
