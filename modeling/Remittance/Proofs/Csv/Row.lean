import Mathlib.Data.List.TakeWhile
import Mathlib.Tactic.Common
import Remittance.Csv.Row
/-!
# Rows are read as they are written

There are many ways to write one table. A field stands with or without quotes (`WritesField`), and
any line ends may stand between the rows and around them (`WritesRows`). However a table is written,
the fields of its rows are read back (`map_fields_rowsOf`).
-/

namespace Remittance.Csv

variable {field bytes rest behind gap : List UInt8} {others fields : List (List UInt8)}
  {rows : List (List (List UInt8))} {place : Place} {b : UInt8}

/-! ## Fields -/

/-- The bytes with every quote twice. -/
def doubled (field : List UInt8) : List UInt8 :=
  field.flatMap fun b => if b = quote then [quote, quote] else [b]

/-- The bytes are a way to write the field. -/
inductive WritesField (field : List UInt8) : List UInt8 → Prop
  /-- As it is, where it does not begin with a quote and holds no comma and no line end. -/
  | plain (unquoted : field.head? ≠ some quote)
      (free : ∀ b ∈ field, b ≠ comma ∧ isLineEnd b = false) : WritesField field field
  /-- Between quotes, whatever it holds. -/
  | quoted : WritesField field (quote :: (doubled field ++ [quote]))

/-- Behind the bytes of a field: the field ends here, and these are the other fields of the row and
the bytes behind it. -/
def EndsField (rest : List UInt8) (others : List (List UInt8)) (behind : List UInt8) : Prop :=
  ∀ mode, mode ≠ .quoted → fieldsFrom mode rest = ([] :: others, behind)

lemma endsField_nil : EndsField [] [] [] := by
  intro mode _
  rw [fieldsFrom]

lemma endsField_lineEnd (hb : isLineEnd b = true) : EndsField (b :: rest) [] rest := by
  intro mode hmode
  have hquote : b ≠ quote := by
    rintro rfl
    contradiction
  have hcomma : b ≠ comma := by
    rintro rfl
    contradiction
  rw [fieldsFrom]
  simp [hmode, hquote, hcomma, hb]

lemma endsField_comma (h : fieldsFrom .start rest = (fields, behind)) :
    EndsField (comma :: rest) fields behind := by
  intro mode hmode
  have hquote : comma ≠ quote := by decide
  rw [fieldsFrom]
  simp [hmode, hquote, h, separate]

lemma fieldsFrom_plain (free : ∀ b ∈ field, b ≠ comma ∧ isLineEnd b = false)
    (hrest : EndsField rest others behind) :
    fieldsFrom .plain (field ++ rest) = (field :: others, behind) := by
  induction field with
  | nil => exact hrest .plain (by decide)
  | cons b field ih =>
    obtain ⟨hb, hfield⟩ := List.forall_mem_cons.mp free
    rw [List.cons_append, fieldsFrom, ih hfield]
    simp [hb, keep]

lemma fieldsFrom_quoted (field : List UInt8) (hrest : EndsField rest others behind) :
    fieldsFrom .quoted (doubled field ++ quote :: rest) = (field :: others, behind) := by
  induction field with
  | nil =>
    have hclosed := hrest .closed (by decide)
    simp [doubled, fieldsFrom, hclosed]
  | cons b field ih =>
    unfold doubled at ih ⊢
    rw [List.flatMap_cons, List.append_assoc]
    by_cases hb : b = quote
    · -- the first quote of the two could have closed the field
      rw [if_pos hb, hb]
      simp [fieldsFrom, ih, keep]
    · rw [if_neg hb]
      simp [fieldsFrom, hb, ih, keep]

/-- However a field is written, it is read back. -/
lemma fieldsFrom_start (h : WritesField field bytes) (hrest : EndsField rest others behind) :
    fieldsFrom .start (bytes ++ rest) = (field :: others, behind) := by
  cases h with
  | plain unquoted free =>
    cases field with
    | nil => exact hrest .start (by decide)
    | cons b field =>
      obtain ⟨hb, hfield⟩ := List.forall_mem_cons.mp free
      have hquote : b ≠ quote := fun heq => unquoted (congrArg some heq)
      rw [List.cons_append, fieldsFrom, fieldsFrom_plain hfield hrest]
      simp [hquote, hb, keep]
  | quoted =>
    have hinside := fieldsFrom_quoted field hrest
    rw [List.cons_append, List.append_assoc, fieldsFrom]
    simpa using hinside

/-! ## Rows -/

/-- The bytes are a way to write a row of these fields. -/
inductive WritesRow : List (List UInt8) → List UInt8 → Prop
  | last {field bytes : List UInt8} (hfield : WritesField field bytes) : WritesRow [field] bytes
  | cons {field bytes rest : List UInt8} {fields : List (List UInt8)}
      (hfield : WritesField field bytes) (hfields : WritesRow fields rest) :
      WritesRow (field :: fields) (bytes ++ comma :: rest)

/-- However a row is written, its fields are read back. -/
lemma fieldsOf_append (h : WritesRow fields bytes) (hrest : EndsField rest [] behind) :
    fieldsOf (bytes ++ rest) = (fields, behind) := by
  induction h with
  | last hfield => exact fieldsFrom_start hfield hrest
  | cons hfield _ ih =>
    rw [List.append_assoc, List.cons_append]
    exact fieldsFrom_start hfield (endsField_comma ih)

lemma WritesField.head (h : WritesField field bytes) : ∀ b ∈ bytes.head?, isLineEnd b = false := by
  cases h with
  | plain _ free => exact fun b hb => (free b (List.mem_of_mem_head? hb)).2
  | quoted =>
    intro b hb
    cases hb
    rfl

/-- A row does not begin with a line end. -/
lemma WritesRow.head (h : WritesRow fields bytes) : ∀ b ∈ bytes.head?, isLineEnd b = false := by
  cases h with
  | last hfield => exact hfield.head
  | @cons _ written _ _ hfield _ =>
    intro b hb
    cases written with
    | nil =>
      cases hb
      rfl
    | cons first written => exact hfield.head b hb

/-! ## Tables -/

/-- The bytes are a way to write a table of these rows. Line ends in front of a row, and behind the
last one, are no part of it. -/
inductive WritesRows : List (List (List UInt8)) → List UInt8 → Prop
  /-- Line ends only. -/
  | nil {gap : List UInt8} (hgap : ∀ b ∈ gap, isLineEnd b = true) : WritesRows [] gap
  /-- A last row without a line end. -/
  | last {gap bytes : List UInt8} {fields : List (List UInt8)}
      (hgap : ∀ b ∈ gap, isLineEnd b = true) (hrow : WritesRow fields bytes)
      (hbytes : bytes ≠ []) : WritesRows [fields] (gap ++ bytes)
  /-- A row that a line end closes, and the rows behind it. -/
  | cons {gap bytes rest : List UInt8} {fields : List (List UInt8)}
      {rows : List (List (List UInt8))} {lineEnd : UInt8} (hgap : ∀ b ∈ gap, isLineEnd b = true)
      (hrow : WritesRow fields bytes) (hbytes : bytes ≠ []) (hend : isLineEnd lineEnd = true)
      (hrows : WritesRows rows rest) :
      WritesRows (fields :: rows) (gap ++ (bytes ++ lineEnd :: rest))

lemma rowsFrom_gap (hgap : ∀ b ∈ gap, isLineEnd b = true) : rowsFrom place gap = [] := by
  have hdrop : gap.dropWhile isLineEnd = [] := List.dropWhile_eq_nil_iff.mpr hgap
  rw [rowsFrom]
  split
  · rfl
  · next heq => cases hdrop.symm.trans heq

/-- The first row behind the line ends is read, and the others are read behind it. -/
lemma rowsFrom_row (place : Place) (hgap : ∀ b ∈ gap, isLineEnd b = true)
    (hrow : WritesRow fields bytes) (hbytes : bytes ≠ []) (hrest : EndsField rest [] behind) :
    ∃ next, rowsFrom place (gap ++ (bytes ++ rest)) =
      ⟨place, fields⟩ :: rowsFrom next behind := by
  obtain ⟨b, tail, rfl⟩ := List.exists_cons_of_ne_nil hbytes
  have hb : isLineEnd b = false := hrow.head b rfl
  have hdrop : (gap ++ (b :: tail ++ rest)).dropWhile isLineEnd = b :: (tail ++ rest) := by
    rw [List.dropWhile_append_of_pos hgap, List.cons_append,
      List.dropWhile_cons_of_neg (by rw [hb]; decide)]
  have hfields := fieldsOf_append hrow hrest
  rw [List.cons_append] at hfields
  rw [rowsFrom]
  split
  · next heq => cases hdrop.symm.trans heq
  · next heq =>
    cases hdrop.symm.trans heq
    simp only [hfields]
    exact ⟨_, rfl⟩

/-- However rows are written, their fields are read back. -/
theorem map_fields_rowsFrom (h : WritesRows rows bytes) (place : Place) :
    (rowsFrom place bytes).map Row.fields = rows := by
  induction h generalizing place with
  | nil hgap => rw [rowsFrom_gap hgap, List.map_nil]
  | last hgap hrow hbytes =>
    obtain ⟨next, hrows⟩ := rowsFrom_row place hgap hrow hbytes endsField_nil
    rw [List.append_nil] at hrows
    rw [hrows, List.map_cons, rowsFrom_gap (by simp), List.map_nil]
  | cons hgap hrow hbytes hend _ ih =>
    obtain ⟨next, hrows⟩ := rowsFrom_row place hgap hrow hbytes (endsField_lineEnd hend)
    rw [hrows, List.map_cons, ih]

/-- The bytes are a way to write a whole table of these rows, with or without a byte order mark. -/
def Writes (rows : List (List (List UInt8))) (bytes : List UInt8) : Prop :=
  (WritesRows rows bytes ∧ ¬ byteOrderMark <+: bytes) ∨
    ∃ unmarked, bytes = byteOrderMark ++ unmarked ∧ WritesRows rows unmarked

/-- However a table is written, the fields of its rows are read back. -/
theorem map_fields_rowsOf (h : Writes rows bytes) : (rowsOf bytes).map Row.fields = rows := by
  rcases h with ⟨hrows, hmark⟩ | ⟨unmarked, rfl, hrows⟩
  · rw [rowsOf, if_neg hmark]
    exact map_fields_rowsFrom hrows _
  · rw [rowsOf, if_pos (List.prefix_append _ _)]
    exact map_fields_rowsFrom hrows _

end Remittance.Csv
