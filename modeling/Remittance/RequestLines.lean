import Remittance.Text.Blank
import Remittance.Text.Utf8
/-!
# The lines of a request file

A file is cut into lines behind every line feed. A line feed and one carriage return in front of it
are no part of a line's content; a last line without a line feed keeps its carriage return. Blank
lines carry no request but are counted, and a line that is no text is a fault and is not counted.

* `RequestLines.all` gives every request line and every fault of a file, in order.
* `RequestLines.batch` reads up to a number of request lines. It takes memory for all of them first,
  and where there is not so much it reads nothing. A fault ends the batch, which gives up the lines
  that it had; the next one goes on behind the line at fault.
-/

namespace Remittance

/-- A line that carries a request. -/
structure RequestLine where
  /-- The number of the line, counted from one. -/
  number : Nat
  content : List Char
deriving DecidableEq

/-- A file that is read line by line. -/
structure RequestLines where
  /-- How many lines were read. -/
  count : Nat
  /-- The lines that are not read yet, with their ends. -/
  pending : List (List UInt8)
deriving DecidableEq

/-- Why a batch is not read. -/
inductive BatchFault where
  /-- The batch meets a line that is no text. -/
  | undecodable (fault : Text.Utf8.Fault)
  /-- No memory is large enough for the batch. -/
  | tooLarge
  /-- The memory for the batch, of so many bytes, cannot be had. -/
  | noMemory (bytes : Nat)
deriving DecidableEq

namespace RequestLines

/-- The lines of a file, each with the line feed that ends it. -/
def split : List UInt8 → List (List UInt8)
  | [] => []
  | b :: bytes =>
    if b = 10 then [b] :: split bytes
    else
      match split bytes with
      | [] => [[b]]
      | line :: lines => (b :: line) :: lines

/-- A file of which nothing is read yet. -/
def ofBytes (bytes : List UInt8) : RequestLines := ⟨0, split bytes⟩

/-- The bytes of a line that stand in front of its end. -/
def content (line : List UInt8) : List UInt8 :=
  match line.reverse with
  | 10 :: 13 :: before => before.reverse
  | 10 :: before => before.reverse
  | _ => line

/-- The text of a line. Its end is taken off first, so a character that the end cuts short is one
that the bytes end inside of. -/
def text (line : List UInt8) : Except Text.Utf8.Fault (List Char) := Text.Utf8.decode (content line)

/-- A text is blank. -/
def isBlank (text : List Char) : Bool := text.all Text.isBlank

/-- The request lines and the faults of the lines behind `count` others. -/
def allFrom (count : Nat) : List (List UInt8) → List (Except Text.Utf8.Fault RequestLine)
  | [] => []
  | line :: lines =>
    match text line with
    | .error fault => .error fault :: allFrom count lines
    | .ok content =>
      if isBlank content then allFrom (count + 1) lines
      else .ok ⟨count + 1, content⟩ :: allFrom (count + 1) lines

/-- The request lines and the faults that are not read yet. -/
def all (lines : RequestLines) : List (Except Text.Utf8.Fault RequestLine) :=
  allFrom lines.count lines.pending

/-- Up to `size` request lines of the lines behind `count` others, and what is left. -/
def batchFrom (count : Nat) :
    (size : Nat) → List (List UInt8) → Except Text.Utf8.Fault (List RequestLine) × RequestLines
  | 0, pending => (.ok [], ⟨count, pending⟩)
  | _ + 1, [] => (.ok [], ⟨count, []⟩)
  | size + 1, line :: pending =>
    match text line with
    | .error fault => (.error fault, ⟨count, pending⟩)
    | .ok content =>
      if isBlank content then batchFrom (count + 1) (size + 1) pending
      else
        let (batch, rest) := batchFrom (count + 1) size pending
        (batch.map (⟨count + 1, content⟩ :: ·), rest)

/-- The bytes that a request line takes in the memory for a batch. -/
def lineBytes : Nat := 32

/-- The number of request lines that fit into the largest piece of memory, which is just smaller than
half of all that can be addressed. -/
def maxSize : Nat := (UInt64.size / 2 - 1) / lineBytes

/-- Takes the memory for `size` request lines where it can be had for `room` of them. -/
def reserve (room size : Nat) : Except BatchFault Unit :=
  if maxSize < size then .error .tooLarge
  else if room < size then .error (.noMemory (size * lineBytes))
  else .ok ()

/-- Reads up to `size` request lines, where memory can be had for `room` of them. -/
def batch (lines : RequestLines) (room size : Nat) :
    Except BatchFault (List RequestLine) × RequestLines :=
  match reserve room size with
  | .error fault => (.error fault, lines)
  | .ok () =>
    let (batch, rest) := batchFrom lines.count size lines.pending
    (batch.mapError .undecodable, rest)

theorem length_pending_batchFrom_le (count size : Nat) (pending : List (List UInt8)) :
    (batchFrom count size pending).2.pending.length ≤ pending.length := by
  induction pending generalizing count size with
  | nil => cases size <;> exact Nat.le_refl _
  | cons line pending ih =>
    cases size with
    | zero => exact Nat.le_refl _
    | succ size =>
      simp only [batchFrom]
      split
      · exact Nat.le_succ _
      · split
        · exact Nat.le_succ_of_le (ih _ _)
        · exact Nat.le_succ_of_le (ih _ _)

/-- A batch that has lines takes at least one of those that are left. -/
theorem length_pending_batch_lt {lines : RequestLines} {room size : Nat} {first : RequestLine}
    {others : List RequestLine} {rest : RequestLines}
    (h : lines.batch room size = (.ok (first :: others), rest)) :
    rest.pending.length < lines.pending.length := by
  obtain ⟨count, pending⟩ := lines
  unfold batch at h
  split at h
  · cases h
  · cases size with
    | zero => cases pending <;> cases h
    | succ size =>
      cases pending with
      | nil => cases h
      | cons line pending =>
        have hrest : rest = (batchFrom count (size + 1) (line :: pending)).2 :=
          (congrArg Prod.snd h).symm
        rw [hrest]
        simp only [batchFrom, List.length_cons]
        split
        · exact Nat.lt_succ_self _
        · split
          · exact Nat.lt_succ_of_le (length_pending_batchFrom_le _ _ _)
          · exact Nat.lt_succ_of_le (length_pending_batchFrom_le _ _ _)

end RequestLines

end Remittance
