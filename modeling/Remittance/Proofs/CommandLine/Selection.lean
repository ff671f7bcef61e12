import Remittance.Proofs.CommandLine.Requirements
/-!
# The job of a command line

A command line that is accepted has just one job (`CommandLine.Selects`): the instruction on the
table of accounts if a table is named, or else the requests of the file. The job goes by all that
the command line says to read and to write, save where an instruction stands beside a file of
requests: the instruction, and a file for the resulting accounts, are then ignored
(`CommandLine.read_selects_job`).
-/

namespace Remittance

/-- A number that is not zero is kept. -/
lemma BatchSettings.orDefault_of_pos {number default : Nat} (h : 0 < number) :
    orDefault (some number) default = number := by
  obtain ⟨rest, rfl⟩ := Nat.exists_eq_add_one_of_ne_zero h.ne'
  rfl

/-- The texts that a job goes by. -/
def Job.text? : Job → Parameter → Option String
  | .single accounts _ _, .accounts => some accounts
  | .single _ instruction _, .instruction => some instruction
  | .single _ _ accountsOut, .accountsOut => accountsOut
  | .inOrder input, .input => some input
  | .inBatches input _, .input => some input
  | _, _ => none

namespace CommandLine

/-- The text that the command line holds for a parameter that says what is read or written. -/
def text? (line : CommandLine) : Parameter → Option String
  | .input => line.input
  | .accounts => line.accounts
  | .instruction => line.instruction
  | .accountsOut => line.accountsOut
  | _ => none

/-- The command line says a text for the parameter. -/
def Gives (line : CommandLine) (parameter : Parameter) : Prop :=
  (line.text? parameter).isSome

/-- The job that the command line asks for, with these settings for batches. -/
inductive Selects (line : CommandLine) (settings : BatchSettings) : Job → Prop
  | single {accounts instruction : String} (table : line.accounts = some accounts)
      (order : line.instruction = some instruction) (noFile : line.input = none) :
      Selects line settings (.single accounts instruction line.accountsOut)
  | inOrder {input : String} (file : line.input = some input) (noTable : line.accounts = none)
      (strategy : line.strategy = .inOrder) : Selects line settings (.inOrder input)
  | inBatches {input : String} (file : line.input = some input) (noTable : line.accounts = none)
      (strategy : line.strategy = .inBatches) : Selects line settings (.inBatches input settings)

/-! ## Reading -/

section
variable {words : List String} {line : CommandLine} {arguments : Arguments}

lemma text?_ofArguments (arguments : Arguments) (parameter : Parameter) :
    (ofArguments arguments).text? parameter = arguments.text? parameter := by
  cases parameter <;> rfl

lemma gives_ofArguments (arguments : Arguments) (parameter : Parameter) :
    (ofArguments arguments).Gives parameter ↔ arguments.Gives parameter := by
  unfold Gives Arguments.Gives
  rw [text?_ofArguments]

/-- The words are accepted just when they write out values that can be given and go together. -/
theorem read_eq_ok_iff : read words = .ok line ↔
    ∃ items arguments, Arguments.Writes words items ∧
      Arguments.giveAll .empty items = .ok arguments ∧ arguments.KeepsRules ∧
      ofArguments arguments = line := by
  have hread : read words = .ok line ↔
      ∃ arguments, Arguments.ofWords words = .ok arguments ∧
        ∃ result, arguments.check = .ok result ∧ ofArguments result = line := by
    unfold read
    simp only [bind_eq_ok_iff]
    simp [pure, Except.pure]
  rw [hread]
  simp only [Arguments.ofWords_eq_ok_iff, Arguments.check_eq_ok_iff]
  constructor
  · intro h
    obtain ⟨arguments, ⟨items, hwrites, hgive⟩, _, ⟨hkeeps, rfl⟩, hline⟩ := h
    exact ⟨items, arguments, hwrites, hgive, hkeeps, hline⟩
  · intro h
    obtain ⟨items, arguments, hwrites, hgive, hkeeps, hline⟩ := h
    exact ⟨arguments, ⟨items, hwrites, hgive⟩, arguments, ⟨hkeeps, rfl⟩, hline⟩

/-- The texts of an accepted command line are those that its words write out. -/
lemma exists_writes_of_read (h : read words = .ok line) :
    ∃ items, Arguments.Writes words items ∧ ∀ parameter ∈ Parameter.texts, ∀ text,
      line.text? parameter = some text ↔ (parameter, text) ∈ items := by
  obtain ⟨items, arguments, hwrites, hgive, -, rfl⟩ := read_eq_ok_iff.mp h
  refine ⟨items, hwrites, fun parameter hparameter text => ?_⟩
  have hempty : Arguments.empty.text? parameter = none := by cases parameter <;> rfl
  rw [text?_ofArguments, Arguments.text?_giveAll hparameter hgive, hempty]
  simp

/-- What an accepted command line says goes together. -/
structure Accepted (line : CommandLine) : Prop where
  file_iff : line.Gives .input ↔ ¬ line.Gives .accounts
  table_order : line.Gives .accounts → line.Gives .instruction
  tableOut_order : line.Gives .accountsOut → line.Gives .instruction

lemma accepted_of_read (h : read words = .ok line) : line.Accepted := by
  obtain ⟨items, arguments, -, -, hkeeps, rfl⟩ := read_eq_ok_iff.mp h
  rcases Arguments.keepsRules_iff.mp hkeeps with hfile | htable
  · obtain ⟨hinput, haccounts, hout⟩ := hfile
    constructor
    · simp only [gives_ofArguments, hinput, haccounts, not_false_eq_true]
    · simp only [gives_ofArguments, haccounts, false_implies]
    · simpa only [gives_ofArguments] using hout
  · obtain ⟨hinput, haccounts, hinstruction⟩ := htable
    constructor
    · simp only [gives_ofArguments, hinput, haccounts, not_true_eq_false]
    · simp only [gives_ofArguments, hinstruction, implies_true]
    · simp only [gives_ofArguments, hinstruction, implies_true]

end

/-! ## Selecting -/

section
variable {line : CommandLine} {job : Job} {processors : Nat}

/-- A command line that is accepted asks for one job. -/
lemma Accepted.exists_job (h : line.Accepted) (hprocessors : 0 < processors) :
    ∃ job, line.job? processors hprocessors = some job ∧
      line.Selects (line.batches processors hprocessors) job := by
  cases haccounts : line.accounts with
  | some accounts =>
    have htable : line.Gives .accounts := Option.isSome_of_eq_some haccounts
    obtain ⟨instruction, hinstruction⟩ := Option.isSome_iff_exists.mp (h.table_order htable)
    have hinput : line.input = none :=
      Option.not_isSome_iff_eq_none.mp fun hfile => h.file_iff.mp hfile htable
    refine ⟨_, ?_, .single haccounts hinstruction hinput⟩
    simp [job?, single?, haccounts, show line.instruction = some instruction from hinstruction]
  | none =>
    have htable : ¬ line.Gives .accounts := by simp [Gives, text?, haccounts]
    obtain ⟨input, hinput⟩ := Option.isSome_iff_exists.mp (h.file_iff.mpr htable)
    have hinput : line.input = some input := hinput
    cases hstrategy : line.strategy with
    | inOrder =>
      refine ⟨_, ?_, .inOrder hinput haccounts hstrategy⟩
      simp [job?, single?, haccounts, hinput, hstrategy]
    | inBatches =>
      refine ⟨_, ?_, .inBatches hinput haccounts hstrategy⟩
      simp [job?, single?, haccounts, hinput, hstrategy]

namespace Selects

variable {settings : BatchSettings}

/-- The job processes one instruction just when a table is named. -/
lemma isSingle_iff (h : line.Selects settings job) :
    (∃ accounts instruction accountsOut, job = .single accounts instruction accountsOut) ↔
      line.Gives .accounts := by
  cases h with
  | single table => simp [Gives, text?, table]
  | inOrder _ noTable | inBatches _ noTable => simp [Gives, text?, noTable]

/-- A job goes by no other texts than the command line says. -/
lemma text?_of_job (h : line.Selects settings job) {parameter : Parameter} {text : String}
    (htext : job.text? parameter = some text) : line.text? parameter = some text := by
  cases h with
  | single table order =>
    cases parameter with
    | accounts => exact table.trans htext
    | instruction => exact order.trans htext
    | accountsOut => exact htext
    | _ => cases htext
  | inOrder file | inBatches file =>
    cases parameter with
    | input => exact file.trans htext
    | _ => cases htext

/-- The job goes by all that the command line says just when no instruction stands beside a file of
requests. -/
lemma text?_eq_iff (h : line.Selects settings job) (haccepted : line.Accepted) :
    (∀ parameter, job.text? parameter = line.text? parameter) ↔
      ¬ (line.Gives .input ∧ line.Gives .instruction) := by
  cases h with
  | @single accounts instruction table order noFile =>
    have hfile : ¬ line.Gives .input := by simp [Gives, text?, noFile]
    have htexts : ∀ parameter,
        (Job.single accounts instruction line.accountsOut).text? parameter =
          line.text? parameter := by
      intro parameter
      cases parameter with
      | input => exact noFile.symm
      | accounts => exact table.symm
      | instruction => exact order.symm
      | _ => rfl
    exact iff_of_true htexts fun hboth => hfile hboth.1
  | inOrder file noTable | inBatches file noTable =>
    constructor
    · intro htexts hboth
      have hnone : line.text? .instruction = none := (htexts .instruction).symm
      simp [Gives, hnone] at hboth
    · intro hnot parameter
      have hinstruction : ¬ line.Gives .instruction :=
        fun hgives => hnot ⟨Option.isSome_of_eq_some file, hgives⟩
      have hout : ¬ line.Gives .accountsOut :=
        fun hgives => hinstruction (haccepted.tableOut_order hgives)
      cases parameter with
      | input => exact file.symm
      | accounts => exact noTable.symm
      | instruction => exact (Option.not_isSome_iff_eq_none.mp hinstruction).symm
      | accountsOut => exact (Option.not_isSome_iff_eq_none.mp hout).symm
      | _ => rfl

end Selects

/-- An instruction and a file for the resulting accounts stand beside a table, unless an instruction
stands beside a file of requests. -/
lemma Accepted.beside_table_iff (h : line.Accepted) :
    ((line.Gives .instruction ↔ line.Gives .accounts) ∧
      (line.Gives .accountsOut → line.Gives .accounts)) ↔
      ¬ (line.Gives .input ∧ line.Gives .instruction) := by
  obtain ⟨hfile, horder, hout⟩ := h
  grind

end

/-! ## The job of an accepted command line -/

/-- An accepted command line names a file of requests or else a table of accounts, with an
instruction. It has one job, which processes a single instruction just when a table is named. The
job goes by no text that the words do not write out. It goes by all of them, and what goes with a
table only stands beside one, just when no instruction stands beside a file of requests. A batch
holds at least one request and at least one batch is worked on at a time; numbers that are given for
them are kept unless they are zero. -/
theorem read_selects_job {words : List String} {line : CommandLine} (h : read words = .ok line)
    {processors : Nat} (hprocessors : 0 < processors) :
    (∃ items, Arguments.Writes words items ∧ ∀ parameter ∈ Parameter.texts, ∀ text,
      line.text? parameter = some text ↔ (parameter, text) ∈ items) ∧
    (line.Gives .input ↔ ¬ line.Gives .accounts) ∧
    (line.Gives .accounts → line.Gives .instruction) ∧
    (line.Gives .accountsOut → line.Gives .instruction) ∧
    (((line.Gives .instruction ↔ line.Gives .accounts) ∧
      (line.Gives .accountsOut → line.Gives .accounts)) ↔
      ¬ (line.Gives .input ∧ line.Gives .instruction)) ∧
    (∃ job, line.job? processors hprocessors = some job ∧
      line.Selects (line.batches processors hprocessors) job ∧
      ((∃ accounts instruction accountsOut, job = .single accounts instruction accountsOut) ↔
        line.Gives .accounts) ∧
      (∀ parameter text, job.text? parameter = some text → line.text? parameter = some text) ∧
      ((∀ parameter, job.text? parameter = line.text? parameter) ↔
        ¬ (line.Gives .input ∧ line.Gives .instruction))) ∧
    1 ≤ (line.batches processors hprocessors).size ∧
    1 ≤ (line.batches processors hprocessors).concurrent ∧
    (∀ size, 0 < size → line.batchSize = some size →
      (line.batches processors hprocessors).size = size) ∧
    (∀ concurrent, 0 < concurrent → line.maxConcurrent = some concurrent →
      (line.batches processors hprocessors).concurrent = concurrent) := by
  have haccepted : line.Accepted := accepted_of_read h
  obtain ⟨job, hjob, hselects⟩ := haccepted.exists_job hprocessors
  refine ⟨exists_writes_of_read h, haccepted.file_iff, haccepted.table_order,
    haccepted.tableOut_order, haccepted.beside_table_iff, ?_, ?_, ?_, ?_, ?_⟩
  · exact ⟨job, hjob, hselects, hselects.isSingle_iff, fun _ _ => hselects.text?_of_job,
      hselects.text?_eq_iff haccepted⟩
  · exact BatchSettings.orDefault_pos (by decide)
  · exact BatchSettings.orDefault_pos hprocessors
  · intro size hsize hgiven
    show BatchSettings.orDefault line.batchSize _ = size
    rw [hgiven, BatchSettings.orDefault_of_pos hsize]
  · intro concurrent hconcurrent hgiven
    show BatchSettings.orDefault line.maxConcurrent _ = concurrent
    rw [hgiven, BatchSettings.orDefault_of_pos hconcurrent]

/-- The job for a table, an instruction and a file for the resulting accounts goes by all three. -/
theorem read_selects_job_for_table :
    ∃ line job, read ["--accounts-out", "o.csv", "--accounts=a.csv",
        "--instruction", "DEBIT A 1; CREDIT B 1"] = .ok line ∧
      line.job? 4 (by decide) = some job ∧
      (∃ accounts instruction accountsOut, job = .single accounts instruction accountsOut) ∧
      ∀ parameter, job.text? parameter = line.text? parameter := by
  have hread : read ["--accounts-out", "o.csv", "--accounts=a.csv",
      "--instruction", "DEBIT A 1; CREDIT B 1"] = .ok
        ⟨none, some "a.csv", some "DEBIT A 1; CREDIT B 1", some "o.csv", .inOrder, none, none, none,
          .reserveDebit, supportedOf [], "warn"⟩ := rfl
  obtain ⟨-, -, -, -, -, ⟨job, hjob, -, hsingle, -, htexts⟩, -⟩ :=
    read_selects_job hread (by decide : 0 < 4)
  refine ⟨_, job, hread, hjob, hsingle.mpr rfl, htexts.mpr fun hboth => ?_⟩
  simp [Gives, text?] at hboth

/-- An instruction beside a file of requests is accepted without the table that it asks for, and the
requests of the file are answered instead. -/
theorem read_ignores_instruction :
    ∃ line, read ["--instruction", "DEBIT A 1; CREDIT B 1", "in.jsonl"] = .ok line ∧
      ¬ (line.Gives .instruction ↔ line.Gives .accounts) ∧
      ∀ (processors : Nat) (h : 0 < processors),
        line.job? processors h = some (.inOrder "in.jsonl") := by
  refine ⟨_, rfl, fun hboth => ?_, fun _ _ => rfl⟩
  have htable : (none : Option String).isSome := hboth.mp rfl
  cases htable

end CommandLine

end Remittance
