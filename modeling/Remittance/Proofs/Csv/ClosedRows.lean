import Mathlib.Data.List.Infix
import Mathlib.Data.List.TakeWhile
import Mathlib.Tactic.Common
import Remittance.Csv.Row
/-!
# Rows that are complete

A row that a line end closes is read as it is whatever follows, and one that is not closed goes on
with the bytes behind it (`closes_or_goes_on`). So the rows that are closed in some bytes are the
first rows of all bytes that begin with them (`closedRowsOf_prefix`).
-/

namespace Remittance.Csv

variable {bytes behind : List UInt8} {place : Place} {b : UInt8}

/-! ## One row -/

/-- The row ends in front of whatever follows these bytes. -/
def Closes (mode : Mode) (bytes : List UInt8) : Prop :=
  ∀ more, fieldsFrom mode (bytes ++ more) =
    ((fieldsFrom mode bytes).1, (fieldsFrom mode bytes).2 ++ more)

/-- One byte of a row is taken into its fields, or ends the row. -/
lemma fieldsFrom_cons (mode : Mode) (b : UInt8) :
    (∃ (next : Mode) (take : List (List UInt8) → List (List UInt8)), ∀ bytes,
      fieldsFrom mode (b :: bytes) = (take (fieldsFrom next bytes).1, (fieldsFrom next bytes).2)) ∨
    ∀ bytes, fieldsFrom mode (b :: bytes) = ([[]], bytes) := by
  have hkeep : ∀ next bytes, keep b (fieldsFrom next bytes) =
      ((keep b ((fieldsFrom next bytes).1, [])).1, (fieldsFrom next bytes).2) := by
    intro next bytes
    rcases fieldsFrom next bytes with ⟨_ | ⟨field, fields⟩, rest⟩ <;> rfl
  by_cases hopen : mode = .start ∧ b = quote
  · exact .inl ⟨.quoted, id, fun bytes => by rw [fieldsFrom, if_pos hopen]; rfl⟩
  by_cases hclose : mode = .quoted ∧ b = quote
  · exact .inl ⟨.closed, id, fun bytes => by rw [fieldsFrom, if_neg hopen, if_pos hclose]; rfl⟩
  by_cases hquoted : mode = .quoted ∨ mode = .closed ∧ b = quote
  · refine .inl ⟨.quoted, fun fields => (keep b (fields, [])).1, fun bytes => ?_⟩
    rw [fieldsFrom, if_neg hopen, if_neg hclose, if_pos hquoted, hkeep]
  by_cases hcomma : b = comma
  · refine .inl ⟨.start, ([] :: ·), fun bytes => ?_⟩
    rw [fieldsFrom, if_neg hopen, if_neg hclose, if_neg hquoted, if_pos hcomma, separate]
  by_cases hend : isLineEnd b = true
  · refine .inr fun bytes => ?_
    rw [fieldsFrom, if_neg hopen, if_neg hclose, if_neg hquoted, if_neg hcomma, if_pos hend]
  · refine .inl ⟨.plain, fun fields => (keep b (fields, [])).1, fun bytes => ?_⟩
    rw [fieldsFrom, if_neg hopen, if_neg hclose, if_neg hquoted, if_neg hcomma, if_neg hend, hkeep]

/-- A row is closed in these bytes, or one more byte still belongs to it. -/
lemma closes_or_goes_on (mode : Mode) (bytes : List UInt8) :
    Closes mode bytes ∨ (fieldsFrom mode (bytes ++ [0])).2 = [] := by
  induction bytes generalizing mode with
  | nil => exact .inr (by cases mode <;> decide)
  | cons b bytes ih =>
    rcases fieldsFrom_cons mode b with ⟨next, take, hnext⟩ | hend
    · rcases ih next with hcloses | hopen
      · refine .inl fun more => ?_
        rw [List.cons_append, hnext, hnext, hcloses more]
      · exact .inr (by rw [List.cons_append, hnext, hopen])
    · exact .inl fun more => by rw [List.cons_append, hend, hend]

/-! ## All rows -/

lemma rowsFrom_of_dropWhile_nil (h : bytes.dropWhile isLineEnd = []) :
    rowsFrom place bytes = [] := by
  rw [rowsFrom]
  split
  · rfl
  · next heq => cases h.symm.trans heq

lemma rowsFrom_of_dropWhile_cons (h : bytes.dropWhile isLineEnd = b :: behind) :
    rowsFrom place bytes = ⟨place, (fieldsOf (b :: behind)).1⟩ ::
      rowsFrom (place.next (bytes.take (bytes.length - (fieldsOf (b :: behind)).2.length)))
        (fieldsOf (b :: behind)).2 := by
  rw [rowsFrom]
  split
  · next heq => cases h.symm.trans heq
  · next heq =>
    cases h.symm.trans heq
    rfl

/-- A byte that is no line end stands in some row. -/
lemma rowsFrom_concat_ne_nil (place : Place) (bytes : List UInt8) :
    rowsFrom place (bytes ++ [0]) ≠ [] := by
  obtain ⟨b, behind, hdrop⟩ : ∃ b behind, (bytes ++ [0]).dropWhile isLineEnd = b :: behind := by
    refine List.exists_cons_of_ne_nil fun hnil => ?_
    have hzero : isLineEnd 0 = true := List.dropWhile_eq_nil_iff.mp hnil 0 (by simp)
    cases hzero
  rw [rowsFrom_of_dropWhile_cons hdrop]
  exact List.cons_ne_nil _ _

/-- The rows in front of the one that one more byte stands in are the same whatever follows. -/
lemma dropLast_rowsFrom_prefix (place : Place) (bytes more : List UInt8) :
    (rowsFrom place (bytes ++ [0])).dropLast <+: rowsFrom place (bytes ++ more) := by
  cases hdrop : bytes.dropWhile isLineEnd with
  | nil =>
    -- there are only line ends, so the byte is the only row
    have hgap : ∀ b ∈ bytes, isLineEnd b = true := List.dropWhile_eq_nil_iff.mp hdrop
    have hzero : (bytes ++ [0]).dropWhile isLineEnd = [0] := by
      rw [List.dropWhile_append_of_pos hgap]
      rfl
    have hrow : (fieldsOf [0]).2 = [] := by decide
    rw [rowsFrom_of_dropWhile_cons hzero, hrow, rowsFrom_of_dropWhile_nil rfl]
    exact List.nil_prefix
  | cons b behind =>
    have happend : ∀ more, (bytes ++ more).dropWhile isLineEnd = b :: (behind ++ more) := by
      intro more
      rw [List.dropWhile_append, hdrop]
      rfl
    rw [rowsFrom_of_dropWhile_cons (happend [0]), rowsFrom_of_dropWhile_cons (happend more)]
    rcases closes_or_goes_on .start (b :: behind) with hcloses | hopen
    · have hrow : ∀ more, fieldsOf (b :: (behind ++ more)) =
          ((fieldsOf (b :: behind)).1, (fieldsOf (b :: behind)).2 ++ more) := hcloses
      have hlt : (fieldsOf (b :: behind)).2.length < bytes.length := by
        have hle := (List.dropWhile_sublist (p := isLineEnd) (l := bytes)).length_le
        rw [hdrop] at hle
        exact Nat.lt_of_lt_of_le (length_fieldsOf_lt b behind) hle
      have htaken : ∀ more, (bytes ++ more).take ((bytes ++ more).length -
          ((fieldsOf (b :: behind)).2 ++ more).length) =
          bytes.take (bytes.length - (fieldsOf (b :: behind)).2.length) := by
        intro more
        rw [List.length_append, List.length_append, Nat.add_sub_add_right,
          List.take_append_of_le_length (Nat.sub_le _ _)]
      simp only [hrow, htaken]
      rw [List.dropLast_cons_of_ne_nil (rowsFrom_concat_ne_nil _ _), List.cons_prefix_cons]
      exact ⟨rfl, dropLast_rowsFrom_prefix _ _ more⟩
    · have hrest : (fieldsOf (b :: (behind ++ [0]))).2 = [] := hopen
      rw [hrest, rowsFrom_of_dropWhile_nil rfl]
      exact List.nil_prefix
termination_by bytes.length

/-- A byte order mark in front of bytes is cut off. -/
lemma rowsOf_marked (bytes : List UInt8) :
    rowsOf (byteOrderMark ++ bytes) = rowsFrom ⟨0, 1, 3⟩ bytes := by
  rw [rowsOf, if_pos (List.prefix_append _ _)]
  rfl

/-- The rows that are closed in some bytes are the first ones of all bytes that begin with them. -/
theorem closedRowsOf_prefix (bytes more : List UInt8) :
    closedRowsOf bytes <+: rowsOf (bytes ++ more) := by
  by_cases hmark : byteOrderMark <+: bytes
  · obtain ⟨unmarked, rfl⟩ := hmark
    rw [closedRowsOf, List.append_assoc, List.append_assoc, rowsOf_marked, rowsOf_marked]
    exact dropLast_rowsFrom_prefix _ unmarked more
  have hzero : ¬ byteOrderMark <+: bytes ++ [0] := by
    intro h
    rcases List.prefix_concat_iff.mp h with heq | h
    · have hlast := congrArg List.getLast? heq
      rw [List.getLast?_concat] at hlast
      cases hlast
    · exact hmark h
  by_cases hmore : byteOrderMark <+: bytes ++ more
  · -- the mark is cut short in the bytes, so no row is closed in them
    have hshort : bytes ∈ byteOrderMark.inits :=
      (List.mem_inits _ _).mpr ((List.prefix_or_prefix_of_prefix hmore
        (List.prefix_append bytes more)).resolve_left hmark)
    have hnone : ∀ short ∈ byteOrderMark.inits, short ≠ byteOrderMark → closedRowsOf short = [] := by
      decide +kernel
    rw [hnone bytes hshort fun heq => hmark (heq ▸ List.prefix_rfl)]
    exact List.nil_prefix
  · rw [closedRowsOf, rowsOf, rowsOf, if_neg hzero, if_neg hmore]
    exact dropLast_rowsFrom_prefix _ bytes more

end Remittance.Csv
