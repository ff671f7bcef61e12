import Remittance.Json.Fault
/-!
# Readers of JSON text

A reader takes a value from the front of a text and leaves the rest, which is always shorter. That
is part of its type, so loops over readers end.

* `Parsed` is what a reader gives: a value and a shorter rest. `Reached` allows the rest to be the
  whole text.
* `Failure` is why and where reading stopped. Some faults are placed where they are seen. Those
  that only show once a value is complete are placed by the value around them (`Failure.placedAt`).
* `Failure.message` words the fault with its line and column. Columns count bytes.
-/

namespace Remittance.Json

/-! ## Places in a text -/

/-- A place in a text: lines count from one, columns are the bytes read of the line. -/
structure Place where
  line : Nat
  column : Nat
deriving DecidableEq

/-- The start of a text. -/
def Place.start : Place := ⟨1, 0⟩

/-- The place `bytes` bytes further in the text, or at its end. -/
def Place.advance (place : Place) (bytes : Nat) : List Char → Place
  | [] => place
  | c :: rest =>
    if bytes = 0 then place
    else if c = '\n' then Place.advance ⟨place.line + 1, 0⟩ (bytes - 1) rest
    else if c.utf8Size ≤ bytes then
      Place.advance ⟨place.line, place.column + c.utf8Size⟩ (bytes - c.utf8Size) rest
    else ⟨place.line, place.column + bytes⟩

/-- The number of bytes of a text. -/
def byteCount (cs : List Char) : Nat := cs.foldr (fun c bytes => c.utf8Size + bytes) 0

/-! ## Failures -/

/-- Why reading stopped. -/
structure Failure where
  fault : Fault
  /-- What was not read. -/
  rest : List Char
  /-- How many bytes of the rest the fault takes in, or `none` where the value around it says the
  place. -/
  ahead : Option Nat

namespace Failure

/-- A fault at the front of the rest. -/
def here (fault : Fault) (rest : List Char) : Failure := ⟨fault, rest, some 0⟩

/-- A fault that takes in the first byte of the rest, where there is one. -/
def next (fault : Fault) (rest : List Char) : Failure := ⟨fault, rest, some 1⟩

/-- A fault whose place the value around it says. -/
def unplaced (fault : Fault) (rest : List Char) : Failure := ⟨fault, rest, none⟩

/-- The failure, at the front of `rest` if it has no place yet. -/
def placedAt (failure : Failure) (rest : List Char) : Failure :=
  match failure.ahead with
  | some _ => failure
  | none => here failure.fault rest

/-- The place of a failure in the text that was read. -/
def place (failure : Failure) (text : List Char) : Place :=
  Place.start.advance
    (byteCount text - byteCount failure.rest + failure.ahead.getD 0) text

/-- The wording of a failure in the text that was read. -/
def message (failure : Failure) (text : List Char) : String :=
  let place := failure.place text
  s!"{failure.fault.message} at line {place.line} column {place.column}"

end Failure

/-! ## Readers -/

/-- A value read from the front of `cs`, and the rest, which is shorter. -/
structure Parsed (α : Type) (cs : List Char) where
  value : α
  rest : List Char
  shorter : rest.length < cs.length

/-- What was found at the front of `cs`, and the rest. -/
structure Reached (α : Type) (cs : List Char) where
  value : α
  rest : List Char
  noLonger : rest.length ≤ cs.length

/-- The characters taken from the front of `cs`, and the rest. -/
structure Taken (cs : List Char) where
  token : List Char
  rest : List Char
  append_eq : token ++ rest = cs

/-- Takes a value from the front of a text. -/
abbrev Reader (α : Type) := (cs : List Char) → Except Failure (Parsed α cs)

theorem length_le_self (cs : List Char) : cs.length ≤ cs.length := Nat.le_refl _

theorem length_lt_cons (c : Char) (cs : List Char) : cs.length < (c :: cs).length :=
  Nat.lt_succ_self _

theorem length_le_cons (c : Char) (cs : List Char) : cs.length ≤ (c :: cs).length :=
  Nat.le_succ _

namespace Parsed

/-- The same value and rest, for a longer text. -/
def widen {α : Type} {cs ds : List Char} (p : Parsed α cs) (h : cs.length ≤ ds.length) :
    Parsed α ds :=
  ⟨p.value, p.rest, Nat.lt_of_lt_of_le p.shorter h⟩

/-- Another value with the same rest. -/
def map {α β : Type} {cs : List Char} (f : α → β) (p : Parsed α cs) : Parsed β cs :=
  ⟨f p.value, p.rest, p.shorter⟩

/-- What is read behind `p`, in the text that `p` is in front of. -/
def thenRead {α β : Type} {cs : List Char} (p : Parsed α cs) (q : Parsed β p.rest) : Parsed β cs :=
  q.widen (Nat.le_of_lt p.shorter)

end Parsed

namespace Reached

/-- The same value and rest, for a longer text. -/
def widen {α : Type} {cs ds : List Char} (p : Reached α cs) (h : cs.length ≤ ds.length) :
    Reached α ds :=
  ⟨p.value, p.rest, Nat.le_trans p.noLonger h⟩

end Reached

namespace Taken

/-- Nothing taken. -/
def nothing (cs : List Char) : Taken cs := ⟨[], cs, rfl⟩

/-- What is left is no longer than the text. -/
theorem length_rest_le {cs : List Char} (t : Taken cs) : t.rest.length ≤ cs.length := by
  have h := congrArg List.length t.append_eq
  simp only [List.length_append] at h
  omega

/-- What is left is shorter than the text where something was taken. -/
theorem length_rest_lt {cs : List Char} (t : Taken cs) (h : t.token ≠ []) :
    t.rest.length < cs.length := by
  have hlen := congrArg List.length t.append_eq
  have hpos := List.length_pos_iff.2 h
  simp only [List.length_append] at hlen
  omega

/-- The characters up to the first one that is not in the class. -/
def span (p : Char → Bool) (cs : List Char) : Taken cs :=
  ⟨cs.takeWhile p, cs.dropWhile p, List.takeWhile_append_dropWhile⟩

/-- One character, and what is taken behind it. -/
def cons {cs : List Char} (c : Char) (t : Taken cs) : Taken (c :: cs) :=
  ⟨c :: t.token, t.rest, by rw [List.cons_append, t.append_eq]⟩

/-- What is taken behind what was taken. -/
def append {cs : List Char} (t : Taken cs) (u : Taken t.rest) : Taken cs :=
  ⟨t.token ++ u.token, u.rest, by rw [List.append_assoc, u.append_eq, t.append_eq]⟩

end Taken

/-! ## Blanks -/

/-- The characters that may stand between the parts of a value. -/
def isBlank (c : Char) : Bool := c == ' ' || c == '\n' || c == '\t' || c == '\r'

/-- The text behind the blanks in front of it. -/
def skipBlanks (cs : List Char) : List Char := cs.dropWhile isBlank

theorem length_skipBlanks_le (cs : List Char) : (skipBlanks cs).length ≤ cs.length :=
  (Taken.span isBlank cs).length_rest_le

theorem length_le_of_skipBlanks {cs rest : List Char} {c : Char} (h : skipBlanks cs = c :: rest) :
    (c :: rest).length ≤ cs.length :=
  h ▸ length_skipBlanks_le cs

/-- Reads behind the blanks in front of the value. -/
def afterBlanks {α : Type} (reader : Reader α) : Reader α := fun cs =>
  (reader (skipBlanks cs)).map (·.widen (length_skipBlanks_le cs))

end Remittance.Json
