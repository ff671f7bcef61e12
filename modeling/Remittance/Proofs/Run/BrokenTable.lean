import Remittance.Proofs.Csv.ClosedRows
import Remittance.Proofs.Desk.Approval
import Remittance.Run
/-!
# Tables in files that cannot be read to their end

A fault behind the first row ends the run before anything is written. A fault in front of the end of
that row goes unnoticed: the table is taken for one without rows, on which every instruction is
rejected, and the rejection is written as in any other run (`onContent_of_fault`).
-/

namespace Remittance

variable {names : Option (List String)} {size before : ℕ} {rows : List Csv.Row} {fault : FileFault}
  {bytes : List UInt8} {accounts : List Account} {error : TableFault}

/-! ## Broken tables -/

namespace AccountTable

/-- A fault in the first rows is the first one, whatever rows follow. -/
lemma accountsOf_append_of_error (h : accountsOf size names before rows = .error error)
    (others : List Csv.Row) : accountsOf size names before (rows ++ others) = .error error := by
  induction rows generalizing before with
  | nil => cases h
  | cons row rows ih =>
    rw [List.cons_append, accountsOf]
    rw [accountsOf] at h
    cases hrow : accountOf size names before row with
    | error error' =>
      rw [hrow] at h
      exact h
    | ok account =>
      rw [hrow] at h
      cases hrest : accountsOf size names (before + 1) rows with
      | error error' =>
        simp only [hrest, bind, Except.bind] at h
        obtain rfl := Except.error.inj h
        simp only [ih hrest, bind, Except.bind]
      | ok accounts =>
        simp only [hrest, bind, Except.bind] at h
        cases h

/-- Where no row is closed, the fault goes unnoticed. -/
lemma readBroken_of_no_row (h : Csv.closedRowsOf bytes = []) : readBroken bytes fault = .ok [] := by
  rw [readBroken, h]

/-- Where a row is closed, the table has a fault: this one, or one that it has whatever follows. -/
lemma exists_readBroken_eq (h : Csv.closedRowsOf bytes ≠ []) (fault : FileFault) :
    ∃ error, readBroken bytes fault = .error error ∧
      (error = .unreadable fault ∨ ∀ more, read (bytes ++ more) = .error error) := by
  obtain ⟨header, rows, hclosed⟩ := List.exists_cons_of_ne_nil h
  cases hrows : accountsOf header.fields.length (header.fields.mapM readField).toOption 0 rows with
  | ok accounts =>
    refine ⟨.unreadable fault, ?_, .inl rfl⟩
    simp only [readBroken, hclosed, hrows, bind, Except.bind]
  | error error =>
    refine ⟨error, ?_, .inr fun more => ?_⟩
    · simp only [readBroken, hclosed, hrows, bind, Except.bind]
    · obtain ⟨others, hall⟩ := Csv.closedRowsOf_prefix bytes more
      rw [read, ← hall, hclosed, List.cons_append]
      exact accountsOf_append_of_error hrows others

end AccountTable

/-! ## Runs -/

/-- Without accounts every instruction is rejected. -/
lemma Desk.exists_rejection_of_no_accounts (desk : Desk) (instruction : List Char) :
    ∃ rejection, (desk.process [] instruction).result = .error rejection := by
  cases hresult : (desk.process [] instruction).result with
  | error rejection => exact ⟨rejection, rfl⟩
  | ok summary =>
    obtain ⟨transfer, happrove, -⟩ := process_eq_ok_iff.mp hresult
    obtain ⟨-, hacceptable, -⟩ := approve_eq_ok_iff.mp happrove
    obtain ⟨⟨hdebit, -⟩, -⟩ := TransferOrder.acceptable_iff.mp hacceptable
    cases hdebit.1

namespace Run

section

variable {desk : Desk} {content : FileContent} {instruction : List Char} {wantsTable : Bool}

lemma onContent_of_error (h : AccountTable.readContent content = .error error) :
    onContent desk content instruction wantsTable = stopped (.table error) := by
  rw [onContent, h]

lemma onContent_of_ok (h : AccountTable.readContent content = .ok accounts) :
    onContent desk content instruction wantsTable =
      instructionOn desk accounts instruction wantsTable := by
  rw [onContent, h]

end

/-- What a run does with a file that it can open, but not read behind these bytes. If a row is closed
in them, the run ends with the fault, or with one that a row in front of it has whatever follows, and
nothing is written. If not, the run ends well: it writes a rejection, and where a table is asked for,
one without accounts. -/
theorem onContent_of_fault (desk : Desk) (bytes : List UInt8) (fault : FileFault)
    (instruction : List Char) (wantsTable : Bool) :
    let run := onContent desk ⟨bytes, some fault⟩ instruction wantsTable
    (∀ path source, source.content? = some ⟨bytes, some fault⟩ →
      single desk path source instruction wantsTable = run) ∧
    (Csv.closedRowsOf bytes ≠ [] → ∃ error, run = stopped (.table error) ∧
      (error = .unreadable fault ∨ ∀ more, AccountTable.read (bytes ++ more) = .error error)) ∧
    (Csv.closedRowsOf bytes = [] → ∃ rejection,
      (desk.process [] (Text.trim instruction)).result = .error rejection ∧
      run = ⟨[.rejection rejection.fieldErrors], if wantsTable then some [] else none, .ok ()⟩) := by
  intro run
  refine ⟨fun path source hcontent => ?_, fun hclosed => ?_, fun hnone => ?_⟩
  · rw [single, hcontent]
  · obtain ⟨error, hread, herror⟩ := AccountTable.exists_readBroken_eq hclosed fault
    exact ⟨error, onContent_of_error hread, herror⟩
  · obtain ⟨rejection, hresult⟩ := desk.exists_rejection_of_no_accounts (Text.trim instruction)
    have hrun : run = instructionOn desk [] instruction wantsTable :=
      onContent_of_ok (AccountTable.readBroken_of_no_row hnone)
    refine ⟨rejection, hresult, ?_⟩
    rw [hrun]
    simp only [instructionOn, Outcome.envelope, snapshotsAfter, hresult, List.map_nil]

/-- A directory in the place of a table is no error: a rejection is written, and a table without
accounts is asked for. -/
theorem single_ok_of_directory :
    let desk := Desk.ofSettings Currency.defaults .reserveDebit
      ⟨2030, 6, 15, by decide, by decide, by decide⟩ .acceptAll
    let run := single desk "accounts" .directory "DEBIT A 200 NGN; CREDIT B 200 NGN".toList true
    run.result = .ok () ∧ run.output ≠ [] ∧ run.replies.map Envelope.httpStatus = [400] ∧
      run.table = some [] := by
  intro desk run
  have hread : AccountTable.readContent ⟨[], some .isDirectory⟩ = .ok [] :=
    AccountTable.readBroken_of_no_row (by decide +kernel)
  have hrun : run = instructionOn desk [] "DEBIT A 200 NGN; CREDIT B 200 NGN".toList true :=
    onContent_of_ok hread
  rw [hrun]
  refine ⟨rfl, ?_, by decide +kernel, by decide +kernel⟩
  simp [output, instructionOn, Envelope.lines, Envelope.line]

end Run

end Remittance
