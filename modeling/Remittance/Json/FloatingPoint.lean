import Remittance.Json.Number
/-!
# Numbers as binary floating point

A number with a fraction or an exponent is no whole number. Where one is asked for, the message
shows the number as binary floating point of sixty-four bits.

* `FloatingPoint.approximate?` is the number itself, made from the leading digits that fit into
  sixty-four bits and one multiplication or division by a power of ten.
* `FloatingPoint.shortest` is the fewest digits that tell a positive number from its neighbours.
* `FloatingPoint.text` writes the number with them: positional where the point falls within the
  first sixteen digits or at most four zeros follow it, and otherwise with an exponent.
-/

namespace Remittance.Json.FloatingPoint

-- powers are those of the core library, whatever other ones are in scope
attribute [local instance (high)] instPowNat

/-! ## From digits to a number -/

/-- Puts digits behind a number for as long as it fits into sixty-four bits, and gives the number
and the digits that are left. -/
def absorb (n : Nat) : (digits : List Char) → Nat × List Char
  | [] => (n, [])
  | c :: digits =>
    let next := n * 10 + (c.toNat - '0'.toNat)
    if next < UInt64.size then absorb next digits else (n, c :: digits)

/-- The number divided by a power of ten, at most `10 ^ 308` at a time. -/
def divide (x : Float) (power : Nat) : Float :=
  if power ≤ 308 then x / Float.ofScientific 1 false power
  else if x == 0 then x
  else divide (x / Float.ofScientific 1 false 308) (power - 308)
termination_by power

/-- The number multiplied by a power of ten, where this is finite. -/
def multiply? (x : Float) (power : Nat) : Option Float :=
  if power ≤ 308 then
    let y := x * Float.ofScientific 1 false power
    if y.isFinite then some y else none
  else if x == 0 then some x
  else none

/-- The parts of a number without its sign. -/
structure Parts where
  whole : List Char
  fraction : List Char
  /-- The exponent is below zero. -/
  negative : Bool
  exponent : List Char

/-- The parts of the text of a number. -/
def Parts.ofText (text : List Char) : Parts :=
  let whole := text.takeWhile Char.isDigit
  let behind := text.dropWhile Char.isDigit
  let fraction :=
    match behind with
    | '.' :: rest => rest.takeWhile Char.isDigit
    | _ => []
  let exponent := (behind.dropWhile fun c => c != 'e' && c != 'E').drop 1
  match exponent with
  | '-' :: digits => ⟨whole, fraction, true, digits⟩
  | '+' :: digits => ⟨whole, fraction, false, digits⟩
  | digits => ⟨whole, fraction, false, digits⟩

/-- The largest exponent that is computed with. -/
def maxExponent : Nat := UInt32.size / 2 - 1

/-- The leading digits of a number and the power of ten that they are multiplied by, before the
exponent. -/
def Parts.scaled (parts : Parts) : Nat × Int :=
  let (whole, dropped) := absorb 0 parts.whole
  let (digits, left) := absorb whole parts.fraction
  (digits, dropped.length - (parts.fraction.length - left.length))

/-- The floating point number nearest to the leading digits, times its power of ten; `none` where
it is not finite. -/
def Parts.value? (parts : Parts) : Option Float :=
  let (digits, power) := parts.scaled
  let exponent := digitsValue parts.exponent
  let x := Float.ofNat digits
  if maxExponent < exponent then
    if parts.negative || digits == 0 then some 0 else none
  else
    match power + (if parts.negative then -(exponent : Int) else exponent) with
    | .ofNat n => multiply? x n
    | .negSucc n => some (divide x (n + 1))

/-- The floating point number for the text of a number, where it is finite. -/
def approximate? (text : List Char) : Option Float :=
  match text with
  | '-' :: magnitude => (Parts.ofText magnitude).value?.map Neg.neg
  | magnitude => (Parts.ofText magnitude).value?

/-! ## From a number to digits -/

/-- A positive number `coeff * 2 ^ exponent`. -/
structure Binary where
  coeff : Nat
  exponent : Int

/-- The bit in front of the fifty-two bits of a fraction, which is not written down. -/
def hiddenBit : Nat := 0x10000000000000

/-- The magnitude of a finite floating point number. -/
def Binary.ofFloat (x : Float) : Binary :=
  let bits := x.toBits.toNat
  let fraction : Nat := bits % hiddenBit
  let biased : Nat := bits / hiddenBit % 0x800
  if biased = 0 then ⟨fraction, -1074⟩ else ⟨hiddenBit + fraction, (biased : Int) - 1075⟩

/-- A natural number times a power of two and a power of ten, as a quotient. -/
structure Quotient where
  num : Nat
  den : Nat

/-- `n * 2 ^ two / 10 ^ ten`. -/
def quotient (n : Nat) (two ten : Int) : Quotient :=
  ⟨n * 2 ^ two.toNat * 10 ^ (-ten).toNat, 2 ^ (-two).toNat * 10 ^ ten.toNat⟩

/-- Digits of a number: `digits * 10 ^ exponent`. -/
structure Decimals where
  digits : Nat
  exponent : Int

/-- The numbers that are read back as `x` lie between these two, in quarters of its last place;
they belong to them where the coefficient is even. -/
def Binary.neighbourhood (x : Binary) : Nat × Nat :=
  (4 * x.coeff - (if x.coeff = hiddenBit ∧ x.exponent ≠ -1074 then 1 else 2), 4 * x.coeff + 2)

/-- The number `d * 10 ^ ten` is read back as `x`. -/
def Binary.covers (x : Binary) (d : Nat) (ten : Int) : Bool :=
  let (low, high) := x.neighbourhood
  let low := quotient low (x.exponent - 2) ten
  let high := quotient high (x.exponent - 2) ten
  if x.coeff % 2 = 0 then low.num ≤ d * low.den && d * high.den ≤ high.num
  else low.num < d * low.den && d * high.den < high.num

/-- The nearest multiple of `10 ^ ten` that is read back as `x`, if one is. -/
def Binary.onGrid? (x : Binary) (ten : Int) : Option Decimals :=
  let exact := quotient x.coeff x.exponent ten
  let below := exact.num / exact.den
  let left := 2 * (exact.num % exact.den)
  let belowFirst := left < exact.den || (left == exact.den && below % 2 == 0)
  let candidates := if belowFirst then [below, below + 1] else [below + 1, below]
  (candidates.find? fun d => x.covers d ten).map (⟨·, ten⟩)

/-- The decimal digits of a number without the zeros at its end. -/
def trimZeros (d : Decimals) : Nat → Decimals
  | 0 => d
  | n + 1 =>
    if d.digits % 10 = 0 ∧ d.digits ≠ 0 then trimZeros ⟨d.digits / 10, d.exponent + 1⟩ n else d

/-- The power of ten at the first digit of a positive number lies at most one below this. -/
def Binary.topPower (x : Binary) : Int :=
  let q := quotient x.coeff x.exponent 0
  if q.den ≤ q.num then (Nat.toDigits 10 (q.num / q.den)).length - 1
  else -((Nat.toDigits 10 (q.den / q.num)).length : Int)

/-- The fewest digits that are read back as a positive number: the coarsest grid with such a
number wins. -/
def shortest (x : Binary) : Decimals :=
  let grids := (List.range 19).filterMap fun (n : Nat) => x.onGrid? (x.topPower + 1 - n)
  trimZeros (grids.headD ⟨x.coeff, 0⟩) 19

/-! ## Writing -/

/-- The text of an exponent: a sign and at least two digits. -/
def exponentText (exponent : Int) : List Char :=
  let digits := Nat.toDigits 10 exponent.natAbs
  (if exponent < 0 then '-' else '+') :: List.replicate (2 - digits.length) '0' ++ digits

/-- The text of a positive number. -/
def magnitudeText (d : Decimals) : List Char :=
  let digits := Nat.toDigits 10 d.digits
  let point := digits.length + d.exponent
  if 0 ≤ d.exponent ∧ point ≤ 16 then
    digits ++ List.replicate d.exponent.toNat '0' ++ ['.', '0']
  else if 0 < point ∧ point ≤ 16 then
    digits.take point.toNat ++ '.' :: digits.drop point.toNat
  else if -5 < point ∧ point ≤ 0 then
    '0' :: '.' :: List.replicate (-point).toNat '0' ++ digits
  else
    let exponent := 'e' :: exponentText (point - 1)
    match digits with
    | [digit] => digit :: exponent
    | first :: others => first :: '.' :: others ++ exponent
    | [] => exponent

/-- The text of a finite floating point number. -/
def text (x : Float) : String :=
  let magnitude := if x == 0 then ['0', '.', '0'] else magnitudeText (shortest (Binary.ofFloat x))
  String.ofList (if x.toBits.toNat < UInt64.size / 2 then magnitude else '-' :: magnitude)

end Remittance.Json.FloatingPoint
