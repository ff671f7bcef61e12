/-!
# Rows of comma-separated values

A row is a list of fields. Commas stand between the fields, and a line feed or a carriage return
ends the row. A field that begins with a quote runs to the next quote that is not doubled, whatever
stands in between; what follows that quote is read as if there had been none. Line ends in front of
a row are passed over.

* `fieldsOf` reads the fields of one row.
* `rowsOf` cuts bytes into rows. Each row knows its place: how many rows, line feeds and bytes stand
  in front of it, where the line ends that are passed over belong to the row behind them.
* `closedRowsOf` gives the rows that are complete, whatever follows the bytes.
-/

namespace Remittance.Csv

/-- A carriage return or a line feed. -/
def isLineEnd (b : UInt8) : Bool := b == 13 || b == 10

/-- The byte of a comma. -/
def comma : UInt8 := 44

/-- The byte of a quote. -/
def quote : UInt8 := 34

/-- Where the reading of a row stands. -/
inductive Mode where
  /-- In front of a field. -/
  | start
  /-- In a field without quotes, or behind the closing quote of another one. -/
  | plain
  /-- Between quotes. -/
  | quoted
  /-- Behind a quote that closes a field or is the first half of a doubled one. -/
  | closed
deriving DecidableEq

/-- Puts a byte in front of the first field of a row. -/
def keep (b : UInt8) : List (List UInt8) × List UInt8 → List (List UInt8) × List UInt8
  | ([], rest) => ([[b]], rest)
  | (field :: fields, rest) => ((b :: field) :: fields, rest)

/-- Puts an empty field in front of a row. -/
def separate (row : List (List UInt8) × List UInt8) : List (List UInt8) × List UInt8 :=
  ([] :: row.1, row.2)

/-- The fields from here to the end of the row, and the bytes behind it. -/
def fieldsFrom : Mode → List UInt8 → List (List UInt8) × List UInt8
  | _, [] => ([[]], [])
  | mode, b :: bytes =>
    if mode = .start ∧ b = quote then fieldsFrom .quoted bytes
    else if mode = .quoted ∧ b = quote then fieldsFrom .closed bytes
    else if mode = .quoted ∨ mode = .closed ∧ b = quote then keep b (fieldsFrom .quoted bytes)
    else if b = comma then separate (fieldsFrom .start bytes)
    else if isLineEnd b then ([[]], bytes)
    else keep b (fieldsFrom .plain bytes)

/-- The fields of the row at the front of the bytes, and the bytes behind the row. -/
def fieldsOf (bytes : List UInt8) : List (List UInt8) × List UInt8 := fieldsFrom .start bytes

theorem keep_snd (b : UInt8) (row : List (List UInt8) × List UInt8) : (keep b row).2 = row.2 := by
  unfold keep
  split <;> rfl

theorem length_fieldsFrom_le (mode : Mode) (bytes : List UInt8) :
    (fieldsFrom mode bytes).2.length ≤ bytes.length := by
  induction bytes generalizing mode with
  | nil => exact Nat.le_refl _
  | cons b bytes ih =>
    unfold fieldsFrom
    repeat' split
    all_goals simp only [keep_snd, separate, List.length_cons]
    all_goals first | exact Nat.le_succ_of_le (ih _) | exact Nat.le_succ _

/-- A row takes at least one byte. -/
theorem length_fieldsOf_lt (b : UInt8) (bytes : List UInt8) :
    (fieldsOf (b :: bytes)).2.length < (b :: bytes).length := by
  unfold fieldsOf fieldsFrom
  repeat' split
  all_goals simp only [keep_snd, separate, List.length_cons]
  all_goals first | exact Nat.lt_succ_of_le (length_fieldsFrom_le _ _) | exact Nat.lt_succ_self _

/-- Where a row begins. -/
structure Place where
  /-- The number of rows in front of it. -/
  row : Nat
  /-- The line, counted from one. -/
  line : Nat
  /-- The number of bytes in front of it. -/
  byte : Nat
deriving DecidableEq

/-- The place behind a row and behind the bytes that it takes. -/
def Place.next (place : Place) (taken : List UInt8) : Place :=
  ⟨place.row + 1, place.line + taken.count 10, place.byte + taken.length⟩

/-- One row. -/
structure Row where
  place : Place
  fields : List (List UInt8)

/-- The rows of the bytes that begin at this place. -/
def rowsFrom (place : Place) (bytes : List UInt8) : List Row :=
  match h : bytes.dropWhile isLineEnd with
  | [] => []
  | b :: behind =>
    let row := fieldsOf (b :: behind)
    have : row.2.length < bytes.length := by
      have hlt := length_fieldsOf_lt b behind
      have hle := (List.dropWhile_sublist (p := isLineEnd) (l := bytes)).length_le
      rw [h] at hle
      exact Nat.lt_of_lt_of_le hlt hle
    ⟨place, row.1⟩ :: rowsFrom (place.next (bytes.take (bytes.length - row.2.length))) row.2
termination_by bytes.length

/-- The mark that a text in UTF-8 may begin with. -/
def byteOrderMark : List UInt8 := [0xEF, 0xBB, 0xBF]

/-- The rows of a whole text. A byte order mark in front belongs to none of them. -/
def rowsOf (bytes : List UInt8) : List Row :=
  if byteOrderMark <+: bytes then rowsFrom ⟨0, 1, 3⟩ (bytes.drop 3) else rowsFrom ⟨0, 1, 0⟩ bytes

/-- The rows that a line end closes: one more byte would stand in a row behind them. -/
def closedRowsOf (bytes : List UInt8) : List Row := (rowsOf (bytes ++ [0])).dropLast

end Remittance.Csv
