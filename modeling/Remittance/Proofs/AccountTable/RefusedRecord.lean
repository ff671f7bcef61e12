import Remittance.Proofs.AccountTable
import Remittance.Proofs.Csv.Lines
/-!
# The line of a record that is no account

The first row whose record is no account ends the reading of a table. The line that is reported of
it is counted in rows, so it is the line on which the row begins only where no blank line stands in
front of the row and no line ends between quotes (`AccountTable.read_refuses_record_iff`).
-/

namespace Remittance.AccountTable

variable {size before line : ℕ} {names : Option (List String)} {row : Csv.Row} {rows : List Csv.Row}
  {error : TableFault} {fault : RecordFault} {accounts : List Account}

/-! ## The first fault -/

/-- A table has the fault of its first row that is no account. -/
lemma accountsOf_eq_error_iff : accountsOf size names before rows = .error error ↔
    ∃ front row back accounts, rows = front ++ row :: back ∧
      accountsOf size names before front = .ok accounts ∧
      accountOf size names (before + front.length) row = .error error := by
  induction rows generalizing before with
  | nil => simp [accountsOf]
  | cons first rows ih =>
    constructor
    · intro h
      rw [accountsOf] at h
      cases hfirst : accountOf size names before first with
      | error fault =>
        rw [hfirst] at h
        cases h
        exact ⟨[], first, rows, [], rfl, rfl, hfirst⟩
      | ok account =>
        cases hrows : accountsOf size names (before + 1) rows with
        | ok accounts => simp [hfirst, hrows, bind, Except.bind, pure, Except.pure] at h
        | error fault =>
          simp only [hfirst, hrows, bind, Except.bind, Except.error.injEq] at h
          subst h
          obtain ⟨front, row, back, accounts, rfl, hfront, hrow⟩ := ih.mp hrows
          refine ⟨first :: front, row, back, account :: accounts, rfl, ?_, ?_⟩
          · simp [accountsOf, hfirst, hfront, bind, Except.bind, pure, Except.pure]
          · rw [List.length_cons, Nat.add_comm front.length, ← Nat.add_assoc]
            exact hrow
    · rintro ⟨_ | ⟨first', front⟩, row, back, accounts, hsplit, hfront, hrow⟩
      · cases hsplit
        rw [List.length_nil, Nat.add_zero] at hrow
        simp [accountsOf, hrow, bind, Except.bind]
      · obtain ⟨rfl, rfl⟩ := List.cons.inj hsplit
        obtain ⟨account, hfirst, hfront⟩ := bind_eq_ok_iff.mp hfront
        obtain ⟨others, hothers, -⟩ := bind_eq_ok_iff.mp hfront
        rw [List.length_cons, Nat.add_comm front.length, ← Nat.add_assoc] at hrow
        have hrows : accountsOf size names (before + 1) (front ++ row :: back) = .error error :=
          ih.mpr ⟨front, row, back, others, rfl, hothers, hrow⟩
        simp [accountsOf, hfirst, hrows, bind, Except.bind]

/-- The row has as many fields as there should be, and a record under these names, but the record is
no account. -/
def Refuses (size : ℕ) (names : Option (List String)) (row : Csv.Row) (fault : RecordFault) :
    Prop :=
  row.fields.length = size ∧ ∃ texts record, readFields row.place 0 row.fields = .ok texts ∧
    recordOf names texts = .ok record ∧ record.account = .error fault

lemma readFields_ne_record {place : Csv.Place} {position : ℕ} {fields : List (List UInt8)} :
    readFields place position fields ≠ .error (.record line fault) := by
  induction fields generalizing position with
  | nil => simp [readFields]
  | cons field fields ih =>
    unfold readFields
    cases readField field with
    | error fault => simp
    | ok text =>
      cases hrest : readFields place (position + 1) fields with
      | error other =>
        simp only [Except.map]
        rw [← hrest]
        exact ih
      | ok texts => simp [Except.map]

lemma accountOf_eq_record_iff : accountOf size names before row = .error (.record line fault) ↔
    line = before + 2 ∧ Refuses size names row fault := by
  unfold accountOf Refuses
  by_cases hsize : row.fields.length = size
  · rw [if_neg (not_not.mpr hsize)]
    cases htexts : readFields row.place 0 row.fields with
    | error other =>
      -- a field that is no text is a fault of another kind
      have hne : readFields row.place 0 row.fields ≠ .error (.record line fault) :=
        readFields_ne_record
      rw [htexts] at hne
      simpa [bind, Except.bind] using hne
    | ok texts =>
      cases hrecord : recordOf names texts with
      | error other => simp [bind, Except.bind, Except.mapError, hrecord]
      | ok record =>
        cases haccount : record.account with
        | ok account => simp [bind, Except.bind, Except.mapError, hrecord, haccount]
        | error other =>
          simp [bind, Except.bind, Except.mapError, hrecord, haccount, hsize, eq_comm]
  · rw [if_pos hsize]
    simp [hsize]

/-! ## Its line -/

/-- The names of the columns, where the first row names them. -/
def columnsOf (header : Csv.Row) : Option (List String) := (header.fields.mapM readField).toOption

/-- When a table is refused for a record that is no account. All rows in front of the record's are
accounts, and the line that is reported is two more than their number. It falls short of the line on
which the row begins by the number of the extra lines in front of the row. -/
theorem read_refuses_record_iff (bytes : List UInt8) (line : ℕ) (fault : RecordFault) :
    read bytes = .error (.record line fault) ↔
      ∃ header before row after accounts, Csv.rowsOf bytes = header :: (before ++ row :: after) ∧
        accountsOf header.fields.length (columnsOf header) 0 before = .ok accounts ∧
        Refuses header.fields.length (columnsOf header) row fault ∧
        line = before.length + 2 ∧
        (∃ start, Csv.unmarked bytes = Csv.front (before.length + 1) (Csv.unmarked bytes) ++ start ∧
          (Csv.fieldsOf start).1 = row.fields) ∧
        Csv.rowLine (before.length + 1) bytes =
          line + Csv.extraLines 0 (before.length + 1) (Csv.unmarked bytes) := by
  constructor
  · intro h
    unfold read at h
    split at h
    · cases h
    · next header rows hrows =>
      obtain ⟨before, row, after, accounts, rfl, hbefore, hrow⟩ := accountsOf_eq_error_iff.mp h
      obtain ⟨hline, hrefuses⟩ := accountOf_eq_record_iff.mp hrow
      rw [Nat.zero_add] at hline
      have hget : (Csv.rowsOf bytes)[before.length + 1]? = some row := by
        rw [hrows]
        simp
      obtain ⟨start, hstart, hfields⟩ := Csv.exists_front_append_rowsOf hget
      refine ⟨header, before, row, after, accounts, hrows, hbefore, hrefuses, hline,
        ⟨start, hstart, hfields⟩, ?_⟩
      rw [Csv.rowLine_eq hget, hline]
  · rintro ⟨header, before, row, after, accounts, hrows, hbefore, hrefuses, hline, -, -⟩
    rw [read, hrows]
    refine accountsOf_eq_error_iff.mpr ⟨before, row, after, accounts, rfl, hbefore, ?_⟩
    exact accountOf_eq_record_iff.mpr ⟨by omega, hrefuses⟩

/-- A blank line behind the first row: the record on the third line is reported on the second. -/
theorem read_refuses_record_behind_blank_line :
    let bytes := Text.Utf8.encode "id,balance,currency\n\nA,-1,NGN\n".toList
    (∃ account balance, read bytes = .error (.record 2 (.negativeBalance balance account))) ∧
      Csv.rowLine 1 bytes = 3 := by
  intro bytes
  refine ⟨⟨⟨"A", by decide, by decide⟩, ⟨true, 1, 0, by decide, by decide⟩, ?_⟩, ?_⟩
  · decide +kernel
  · decide +kernel

end Remittance.AccountTable
