import Mathlib.Data.List.Infix
import Remittance.Proofs.Csv.ClosedRows
/-!
# On which line a row begins

A line feed ends a line and so does a carriage return, but a line feed directly behind a carriage
return ends no further one. Blank lines stand between rows and quoted line ends within them, so a
row can begin further down than the rows in front of it say. `rowLine` counts the lines, and
`extraLines` tells how many of them the rows do not account for (`rowLine_eq`).
-/

namespace Remittance.Csv

variable {bytes behind : List UInt8} {mode : Mode} {place : Place} {row : Row} {b last : UInt8}
  {n : ℕ}

/-! ## Lines -/

/-- How many lines end in these bytes, which stand behind the byte `last`. -/
def lineEndsBehind (last : UInt8) : List UInt8 → ℕ
  | [] => 0
  | b :: bytes => (if b = 13 ∨ b = 10 ∧ last ≠ 13 then 1 else 0) + lineEndsBehind b bytes

/-- How many lines end in these bytes. -/
def lineEnds (bytes : List UInt8) : ℕ := lineEndsBehind 0 bytes

lemma lineEndsBehind_append (last : UInt8) (xs ys : List UInt8) :
    lineEndsBehind last (xs ++ ys) =
      lineEndsBehind last xs + lineEndsBehind (xs.getLastD last) ys := by
  induction xs generalizing last with
  | nil => simp [lineEndsBehind]
  | cons x xs ih =>
    have hlast : (x :: xs).getLastD last = xs.getLastD x := by
      cases xs <;> rfl
    rw [List.cons_append, lineEndsBehind, lineEndsBehind, ih, hlast, Nat.add_assoc]

/-- What stands in front of a byte that ends no line does not matter. -/
lemma lineEndsBehind_cons (hb : isLineEnd b = false) (last : UInt8) (bytes : List UInt8) :
    lineEndsBehind last (b :: bytes) = lineEnds (b :: bytes) := by
  simp only [isLineEnd, Bool.or_eq_false_iff, beq_eq_false_iff_ne] at hb
  simp [lineEnds, lineEndsBehind, hb]

/-! ## Stretches of a table -/

/-- The line ends in front of the first row. -/
def gap (bytes : List UInt8) : List UInt8 := bytes.takeWhile isLineEnd

/-- What stands behind the first row. -/
def behindRow (bytes : List UInt8) : List UInt8 := (fieldsOf (bytes.dropWhile isLineEnd)).2

/-- The bytes of the first row, with the one that closes it. -/
def rowBytes (bytes : List UInt8) : List UInt8 :=
  (bytes.dropWhile isLineEnd).take ((bytes.dropWhile isLineEnd).length - (behindRow bytes).length)

/-- What stands in front of the row behind `n` others. -/
def front : ℕ → List UInt8 → List UInt8
  | 0, bytes => gap bytes
  | n + 1, bytes => gap bytes ++ (rowBytes bytes ++ front n (behindRow bytes))

/-- How many lines in front of the row behind `n` others are none of these rows' first ones: blank
lines, and those that a line end between quotes begins. The bytes stand behind the byte `last`. -/
def extraLines (last : UInt8) : ℕ → List UInt8 → ℕ
  | 0, bytes => lineEndsBehind last (gap bytes)
  | n + 1, bytes => lineEndsBehind last (gap bytes) + lineEnds (rowBytes bytes).dropLast +
      extraLines ((rowBytes bytes).getLastD last) n (behindRow bytes)

/-! ## One row -/

/-- One byte of a row leads to the next one, or ends the row. Between quotes it can be anything, and
elsewhere a line end ends the row. -/
lemma fieldsFrom_cons_snd (mode : Mode) (b : UInt8) :
    (∃ next : Mode, (next ≠ .quoted → isLineEnd b = false) ∧
      ∀ bytes, (fieldsFrom mode (b :: bytes)).2 = (fieldsFrom next bytes).2) ∨
    mode ≠ .quoted ∧ isLineEnd b = true ∧ ∀ bytes, (fieldsFrom mode (b :: bytes)).2 = bytes := by
  -- the cases are the branches of fieldsFrom in their order
  by_cases hopen : mode = .start ∧ b = quote
  · exact .inl ⟨.quoted, by simp, fun bytes => by rw [fieldsFrom, if_pos hopen]⟩
  by_cases hclose : mode = .quoted ∧ b = quote
  · refine .inl ⟨.closed, fun _ => ?_, fun bytes => by rw [fieldsFrom, if_neg hopen, if_pos hclose]⟩
    rw [hclose.2]
    rfl
  by_cases hquoted : mode = .quoted ∨ mode = .closed ∧ b = quote
  · refine .inl ⟨.quoted, by simp, fun bytes => ?_⟩
    rw [fieldsFrom, if_neg hopen, if_neg hclose, if_pos hquoted, keep_snd]
  by_cases hcomma : b = comma
  · refine .inl ⟨.start, fun _ => by rw [hcomma]; rfl, fun bytes => ?_⟩
    rw [fieldsFrom, if_neg hopen, if_neg hclose, if_neg hquoted, if_pos hcomma, separate]
  by_cases hend : isLineEnd b = true
  · refine .inr ⟨fun hmode => hquoted (.inl hmode), hend, fun bytes => ?_⟩
    rw [fieldsFrom, if_neg hopen, if_neg hclose, if_neg hquoted, if_neg hcomma, if_pos hend]
  · refine .inl ⟨.plain, fun _ => Bool.eq_false_iff.mpr hend, fun bytes => ?_⟩
    rw [fieldsFrom, if_neg hopen, if_neg hclose, if_neg hquoted, if_neg hcomma, if_neg hend,
      keep_snd]

/-- A row is the first part of the bytes. -/
lemma fieldsFrom_suffix (mode : Mode) (bytes : List UInt8) : (fieldsFrom mode bytes).2 <:+ bytes := by
  induction bytes generalizing mode with
  | nil => simp [fieldsFrom]
  | cons b bytes ih =>
    rcases fieldsFrom_cons_snd mode b with ⟨next, -, hnext⟩ | ⟨-, -, hend⟩
    · rw [hnext]
      exact (ih next).trans (List.suffix_cons b bytes)
    · rw [hend]
      exact List.suffix_cons b bytes

/-- A row in front of other bytes is closed by a line end, which ends one line more than the bytes in
front of it do. -/
lemma exists_close (hlast : mode ≠ .quoted → last ≠ 13) (hbehind : (fieldsFrom mode bytes).2 ≠ []) :
    ∃ body close, bytes = body ++ close :: (fieldsFrom mode bytes).2 ∧
      lineEndsBehind last (body ++ [close]) = lineEndsBehind last body + 1 := by
  induction bytes generalizing mode last with
  | nil => simp [fieldsFrom] at hbehind
  | cons b bytes ih =>
    rcases fieldsFrom_cons_snd mode b with ⟨next, hb, hnext⟩ | ⟨hmode, hb, hend⟩
    · rw [hnext] at hbehind ⊢
      -- a carriage return is a line end, so it is never passed outside quotes
      have hreturn : next ≠ .quoted → b ≠ 13 := by
        rintro hne rfl
        cases hb hne
      obtain ⟨body, close, hbytes, hlines⟩ := ih hreturn hbehind
      refine ⟨b :: body, close, by rw [List.cons_append, ← hbytes], ?_⟩
      rw [List.cons_append, lineEndsBehind, lineEndsBehind, hlines, Nat.add_assoc]
    · refine ⟨[], b, by rw [hend]; rfl, ?_⟩
      have hline : b = 13 ∨ b = 10 ∧ last ≠ 13 := by
        simp only [isLineEnd, Bool.or_eq_true, beq_iff_eq] at hb
        exact hb.imp_right fun hb => ⟨hb, hlast hmode⟩
      simp [lineEndsBehind, hline]

lemma gap_append (bytes : List UInt8) : gap bytes ++ bytes.dropWhile isLineEnd = bytes :=
  List.takeWhile_append_dropWhile

lemma rowBytes_append (bytes : List UInt8) :
    rowBytes bytes ++ behindRow bytes = bytes.dropWhile isLineEnd := by
  obtain ⟨taken, htaken⟩ := fieldsFrom_suffix .start (bytes.dropWhile isLineEnd)
  have hbehind : taken ++ behindRow bytes = bytes.dropWhile isLineEnd := htaken
  rw [rowBytes, ← hbehind, List.length_append, Nat.add_sub_cancel, List.take_left]

/-- A row begins with a byte that ends no line. -/
lemma exists_rowBytes_eq_cons (h : bytes.dropWhile isLineEnd ≠ []) :
    ∃ b body, rowBytes bytes = b :: body ∧ isLineEnd b = false := by
  obtain ⟨b, behind, hdrop⟩ := List.exists_cons_of_ne_nil h
  have hb : isLineEnd b = false := by
    have hnot := List.head?_dropWhile_not isLineEnd bytes
    rw [hdrop] at hnot
    simpa using hnot
  have hlt : (behindRow bytes).length < (bytes.dropWhile isLineEnd).length := by
    rw [behindRow, hdrop]
    exact length_fieldsOf_lt b behind
  rw [rowBytes]
  obtain ⟨k, hk⟩ := Nat.exists_eq_add_of_lt hlt
  rw [show (bytes.dropWhile isLineEnd).length - (behindRow bytes).length = k + 1 by omega, hdrop]
  exact ⟨b, behind.take k, rfl, hb⟩

/-- A row that others stand behind ends one line more than it does between quotes. -/
lemma lineEndsBehind_rowBytes (last : UInt8) (h : behindRow bytes ≠ []) :
    lineEndsBehind last (rowBytes bytes) = lineEnds (rowBytes bytes).dropLast + 1 := by
  obtain ⟨body, close, hbytes, hlines⟩ : ∃ body close,
      bytes.dropWhile isLineEnd = body ++ close :: behindRow bytes ∧
        lineEndsBehind 0 (body ++ [close]) = lineEndsBehind 0 body + 1 :=
    exists_close (fun _ => by decide) h
  have hrow : rowBytes bytes = body ++ [close] := by
    have happend := (rowBytes_append bytes).trans hbytes
    rw [List.append_cons] at happend
    exact List.append_cancel_right happend
  have hdrop : bytes.dropWhile isLineEnd ≠ [] := by
    rw [hbytes]
    simp
  obtain ⟨b, tail, hcons, hb⟩ := exists_rowBytes_eq_cons hdrop
  -- the first byte of a row ends no line, so the byte in front of it makes no difference
  have hfirst : lineEndsBehind last (rowBytes bytes) = lineEnds (rowBytes bytes) := by
    rw [hcons, lineEndsBehind_cons hb]
  rw [hfirst, hrow, List.dropLast_concat]
  exact hlines

/-! ## All rows -/

/-- The first row is followed by those of the bytes behind it. -/
lemma rowsFrom_eq_cons (place : Place) (h : bytes.dropWhile isLineEnd ≠ []) :
    ∃ next, rowsFrom place bytes =
      ⟨place, (fieldsOf (bytes.dropWhile isLineEnd)).1⟩ :: rowsFrom next (behindRow bytes) := by
  obtain ⟨b, behind, hdrop⟩ := List.exists_cons_of_ne_nil h
  rw [rowsFrom_of_dropWhile_cons hdrop, behindRow, hdrop]
  exact ⟨_, rfl⟩

lemma dropWhile_ne_nil_of_mem (h : row ∈ rowsFrom place bytes) : bytes.dropWhile isLineEnd ≠ [] := by
  intro hnil
  rw [rowsFrom_of_dropWhile_nil hnil] at h
  cases h

/-- A row begins where its front ends. -/
lemma exists_front_append (h : (rowsFrom place bytes)[n]? = some row) :
    ∃ start, bytes = front n bytes ++ start ∧ (fieldsOf start).1 = row.fields := by
  induction n generalizing bytes place with
  | zero =>
    obtain ⟨next, hrows⟩ := rowsFrom_eq_cons place (dropWhile_ne_nil_of_mem (List.mem_of_getElem? h))
    rw [hrows] at h
    cases h
    exact ⟨bytes.dropWhile isLineEnd, (gap_append bytes).symm, rfl⟩
  | succ n ih =>
    obtain ⟨next, hrows⟩ := rowsFrom_eq_cons place (dropWhile_ne_nil_of_mem (List.mem_of_getElem? h))
    rw [hrows, List.getElem?_cons_succ] at h
    obtain ⟨start, hstart, hfields⟩ := ih h
    refine ⟨start, ?_, hfields⟩
    rw [front, List.append_assoc, List.append_assoc, ← hstart, rowBytes_append, gap_append]

/-- The lines that end in front of a row are those of the rows in front of it and the extra ones. -/
lemma lineEndsBehind_front (last : UInt8) (h : (rowsFrom place bytes)[n]? = some row) :
    lineEndsBehind last (front n bytes) = n + extraLines last n bytes := by
  induction n generalizing bytes place last with
  | zero => rw [front, extraLines, Nat.zero_add]
  | succ n ih =>
    have hdrop := dropWhile_ne_nil_of_mem (List.mem_of_getElem? h)
    obtain ⟨next, hrows⟩ := rowsFrom_eq_cons place hdrop
    rw [hrows, List.getElem?_cons_succ] at h
    have hbehind : behindRow bytes ≠ [] := by
      intro hnil
      have hmem := dropWhile_ne_nil_of_mem (List.mem_of_getElem? h)
      rw [hnil] at hmem
      exact hmem rfl
    obtain ⟨b, body, hrow, -⟩ := exists_rowBytes_eq_cons hdrop
    have hlast : (rowBytes bytes).getLastD ((gap bytes).getLastD last) =
        (rowBytes bytes).getLastD last := by
      rw [hrow]
      cases body <;> rfl
    rw [front, extraLines, lineEndsBehind_append, lineEndsBehind_append,
      lineEndsBehind_rowBytes _ hbehind, hlast, ih _ h]
    omega

/-! ## Tables -/

/-- The bytes of a table without a byte order mark. -/
def unmarked (bytes : List UInt8) : List UInt8 :=
  if byteOrderMark <+: bytes then bytes.drop 3 else bytes

/-- The line, counted from one, on which the row behind `n` others begins. -/
def rowLine (n : ℕ) (bytes : List UInt8) : ℕ := lineEnds (front n (unmarked bytes)) + 1

lemma exists_rowsOf_eq (bytes : List UInt8) : ∃ place, rowsOf bytes = rowsFrom place (unmarked bytes) := by
  unfold rowsOf unmarked
  split
  · exact ⟨_, rfl⟩
  · exact ⟨_, rfl⟩

/-- A row of a table begins where its front ends. -/
lemma exists_front_append_rowsOf (h : (rowsOf bytes)[n]? = some row) :
    ∃ start, unmarked bytes = front n (unmarked bytes) ++ start ∧
      (fieldsOf start).1 = row.fields := by
  obtain ⟨place, hrows⟩ := exists_rowsOf_eq bytes
  rw [hrows] at h
  exact exists_front_append h

/-- The line of a row is the one that the rows in front of it tell, and the extra lines. -/
theorem rowLine_eq (h : (rowsOf bytes)[n]? = some row) :
    rowLine n bytes = n + 1 + extraLines 0 n (unmarked bytes) := by
  obtain ⟨place, hrows⟩ := exists_rowsOf_eq bytes
  rw [hrows] at h
  rw [rowLine, lineEnds, lineEndsBehind_front 0 h]
  omega

end Remittance.Csv
