import Remittance.Decimal.Printer
import Remittance.Decimal.Reader
import Remittance.Text.Blank
/-!
# Calendar dates

A date of the proleptic Gregorian calendar: the rule of leap years holds for every year, the years
before year one are zero and negative. That the day exists is part of the type.

* `Date.ofYMD?` is the date with a given year, month and day.
* `Date.read?` reads `year-month-day`.
* `Date.toChars` writes it: four digits of the year, two of the month and two of the day.
-/

namespace Remittance

/-- Every fourth year is a leap year, but not every hundredth, save every four hundredth. -/
def isLeapYear (year : Int) : Bool :=
  year % 4 == 0 && (year % 100 != 0 || year % 400 == 0)

/-- The number of days of a month. -/
def daysInMonth (year : Int) (month : Nat) : Nat :=
  if month = 2 then if isLeapYear year then 29 else 28
  else if month = 4 ∨ month = 6 ∨ month = 9 ∨ month = 11 then 30
  else 31

/-- The first year that a date can have. -/
def Date.firstYear : Int := -262143

/-- The last year that a date can have. -/
def Date.lastYear : Int := 262142

/-- A day of the calendar. -/
structure Date where
  /-- The year, where zero is the year before year one. -/
  year : Int
  /-- The month, counted from one. -/
  month : Nat
  /-- The day of the month, counted from one. -/
  day : Nat
  year_mem : Date.firstYear ≤ year ∧ year ≤ Date.lastYear
  month_mem : 1 ≤ month ∧ month ≤ 12
  day_mem : 1 ≤ day ∧ day ≤ daysInMonth year month
deriving DecidableEq

namespace Date

/-- The date with this year, month and day, if the calendar has it. -/
def ofYMD? (year : Int) (month day : Nat) : Option Date :=
  if h : (firstYear ≤ year ∧ year ≤ lastYear) ∧ (1 ≤ month ∧ month ≤ 12) ∧
      (1 ≤ day ∧ day ≤ daysInMonth year month) then
    some ⟨year, month, day, h.1, h.2.1, h.2.2⟩
  else none

/-- The first date stands before the second one in the calendar. -/
protected def lt (a b : Date) : Prop :=
  a.year < b.year ∨ a.year = b.year ∧ (a.month < b.month ∨ a.month = b.month ∧ a.day < b.day)

instance : LT Date := ⟨Date.lt⟩

instance (a b : Date) : Decidable (a < b) :=
  inferInstanceAs (Decidable (a.year < b.year ∨
    a.year = b.year ∧ (a.month < b.month ∨ a.month = b.month ∧ a.day < b.day)))

/-! ## Reading -/

/-- Reads the digits at the front of a text, at least one and at most `limit` of them. -/
def readNumber? (limit : Nat) (cs : List Char) : Option (Nat × List Char) :=
  let digits := (cs.takeWhile Char.isDigit).take limit
  if digits = [] then none
  else some (digits.foldl (fun n c => n * 10 + Decimal.digitValue c) 0, cs.drop digits.length)

/-- Reads a year: at most four digits, or a sign and any number of digits. -/
def readYear? (cs : List Char) : Option (Int × List Char) :=
  match cs with
  | '-' :: rest => (readNumber? rest.length rest).map fun (n, rest) => (-(n : Int), rest)
  | '+' :: rest => (readNumber? rest.length rest).map fun (n, rest) => ((n : Int), rest)
  | _ => (readNumber? 4 cs).map fun (n, rest) => ((n : Int), rest)

/-- Reads the hyphen between two parts of a date. -/
def readHyphen? : List Char → Option (List Char)
  | '-' :: rest => some rest
  | _ => none

/-- Reads a date: a year, a month and a day of at most two digits each, with hyphens between them.
Blanks may stand around each part. -/
def read? (cs : List Char) : Option Date := do
  let (year, cs) ← readYear? (Text.trimStart cs)
  let cs ← readHyphen? (Text.trimStart cs)
  let (month, cs) ← readNumber? 2 (Text.trimStart cs)
  let cs ← readHyphen? (Text.trimStart cs)
  let (day, cs) ← readNumber? 2 (Text.trimStart cs)
  if Text.trimStart cs = [] then ofYMD? year month day else none

/-! ## Writing -/

/-- The text of a year: four digits, and a sign and at least four digits outside `0` to `9999`. -/
def yearChars (year : Int) : List Char :=
  if 0 ≤ year ∧ year ≤ 9999 then Decimal.fixedDigits 4 year.natAbs
  else
    let digits := Nat.toDigits 10 year.natAbs
    (if year < 0 then '-' else '+') :: (List.replicate (4 - digits.length) '0' ++ digits)

/-- The text of a date, as characters. -/
def toChars (d : Date) : List Char :=
  yearChars d.year ++ '-' :: Decimal.fixedDigits 2 d.month ++ '-' :: Decimal.fixedDigits 2 d.day

/-- The text of a date. -/
protected def toString (d : Date) : String := String.ofList d.toChars

instance : ToString Date := ⟨Date.toString⟩

end Date

end Remittance
