import Remittance.Envelope.Encoding
import Remittance.InputError
import Remittance.Reply
import Remittance.RequestLines
/-!
# Runs

A run answers the requests of a file, or one instruction on a table of accounts.

* `Run.inOrder` replies to the lines of a file one by one.
* `Run.single` processes one instruction, and may ask for a table of the accounts after it.

A run is a value: what it writes, in order, and how it ends. Runs that work on several lines at the
same time stand in `Run.Batches`.
-/

namespace Remittance

/-- What a path leads to. -/
inductive Source where
  /-- Nothing that can be opened. -/
  | missing
  /-- A directory: it can be opened, but not read. -/
  | directory
  | file (bytes : List UInt8)

/-- What is read from a path that can be opened. -/
def Source.content? : Source → Option FileContent
  | .missing => none
  | .directory => some ⟨[], some .isDirectory⟩
  | .file bytes => some ⟨bytes, none⟩

/-- What keeps a run from its end. -/
inductive RunFault where
  /-- An error that the program tells. -/
  | reported (error : InputError)
  /-- The program breaks off with this message. -/
  | panicked (message : String)
  /-- The system ends the program, with this message. -/
  | aborted (message : String)

/-- The wording of a fault. -/
def RunFault.message : RunFault → String
  | .reported error => error.message
  | .panicked message | .aborted message => message

/-- What a run writes and how it ends. -/
structure Run where
  /-- The replies, in the order in which they are written. -/
  replies : List Envelope
  /-- The accounts that are to be written as a table when the replies are. -/
  table : Option (List Snapshot)
  result : Except RunFault Unit

namespace Run

/-- A run that fails before it writes anything. -/
def failed (fault : RunFault) : Run := ⟨[], none, .error fault⟩

/-- A run that ends with an error before it writes anything. -/
def stopped (error : InputError) : Run := failed (.reported error)

/-- A run that has nothing to write. -/
def done : Run := ⟨[], none, .ok ()⟩

/-- The run that first writes these replies. -/
def after (replies : List Envelope) (run : Run) : Run :=
  { run with replies := replies ++ run.replies }

/-- The text that a run writes. -/
def output (run : Run) : List Char := Envelope.lines run.replies

/-! ## Files of requests -/

/-- Replies to lines one by one, up to the first fault. -/
def replyInOrder (desk : Desk) : List (Except Text.Utf8.Fault RequestLine) → Run
  | [] => done
  | .error _ :: _ => stopped (.file .notText)
  | .ok line :: lines => (replyInOrder desk lines).after [desk.reply line.content]

/-- Replies to the lines of a file one by one. -/
def inOrder (desk : Desk) (path : String) (source : Source) : Run :=
  match source with
  | .missing => stopped (.fileNotFound path)
  | .directory => stopped (.file .isDirectory)
  | .file bytes => replyInOrder desk (RequestLines.ofBytes bytes).all

/-! ## Single instructions -/

/-- The accounts after an instruction, as a table lists them. -/
def snapshotsAfter (accounts : List Account) (outcome : Outcome) : List Snapshot :=
  match outcome.result with
  | .ok summary => summary.accounts
  | .error _ => accounts.map Account.unchanged

/-- Processes one instruction on accounts. -/
def instructionOn (desk : Desk) (accounts : List Account) (instruction : List Char)
    (wantsTable : Bool) : Run :=
  let outcome := desk.process accounts (Text.trim instruction)
  ⟨[outcome.envelope], if wantsTable then some (snapshotsAfter accounts outcome) else none, .ok ()⟩

/-- Processes one instruction on the accounts of a table in an opened file. -/
def onContent (desk : Desk) (content : FileContent) (instruction : List Char)
    (wantsTable : Bool) : Run :=
  match AccountTable.readContent content with
  | .error fault => stopped (.table fault)
  | .ok accounts => instructionOn desk accounts instruction wantsTable

/-- Processes one instruction on the accounts of a table. -/
def single (desk : Desk) (path : String) (source : Source) (instruction : List Char)
    (wantsTable : Bool) : Run :=
  match source.content? with
  | none => stopped (.fileNotFound path)
  | some content => onContent desk content instruction wantsTable

/-- The run when the file for its table cannot be created. -/
def withoutTable (run : Run) (fault : FileFault) : Run :=
  match run.table with
  | none => run
  | some _ => { run with table := none, result := .error (.reported (.file fault)) }

end Run

end Remittance
