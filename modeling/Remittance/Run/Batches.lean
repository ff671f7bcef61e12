import Remittance.Run
/-!
# Runs in batches

`Run.inBatches` answers the requests of a file batch by batch. Several batches are worked on at the
same time, and their replies are written in the order of the file.

* `Machine` is what such a run asks of the system below it: memory for the batches, threads to work
  on them, and that the work on a batch comes to its end.
* `Pipeline` holds the batches that were read and are not written yet. `Pipeline.run` reads ahead as
  long as there are fewer of them than may be worked on at the same time, and writes the first one
  otherwise.
-/

namespace Remittance

/-- How large batches are, and how many of them are worked on at the same time. -/
structure BatchSettings where
  size : Nat
  concurrent : Nat
  size_pos : 0 < size
  concurrent_pos : 0 < concurrent

namespace BatchSettings

/-- The size of a batch where no other is asked for. -/
def defaultSize : Nat := 1000

/-- A number, or the default where it is zero or nothing. -/
def orDefault : Option Nat → Nat → Nat
  | some (n + 1), _ => n + 1
  | _, default => default

theorem orDefault_pos {n : Option Nat} {default : Nat} (h : 0 < default) :
    0 < orDefault n default := by
  unfold orDefault
  split
  · exact Nat.succ_pos _
  · exact h

/-- The settings with these numbers; the defaults are `defaultSize` and the number of processors. -/
def of (size concurrent : Option Nat) (processors : Nat) (h : 0 < processors) : BatchSettings :=
  ⟨orDefault size defaultSize, orDefault concurrent processors, orDefault_pos (by decide),
    orDefault_pos h⟩

end BatchSettings

/-! ## Machines -/

/-- Why the threads for the work on batches are not started. -/
inductive StartFault where
  /-- The system refuses them. -/
  | refused (reason : String)
  /-- The start breaks off. -/
  | panicked (message : String)

/-- What a run in batches asks of the system below it. -/
structure Machine where
  /-- For how many request lines the memory of a batch can be had. -/
  room : Nat
  /-- Starts the threads that work on so many batches at the same time. -/
  startThreads : Nat → Except StartFault Unit
  /-- Brings the work on a batch to its end, or gives it up for a reason. -/
  finish : List RequestLine → Except String Unit

/-- A run cannot go on without its threads. -/
def StartFault.runFault : StartFault → RunFault
  | .refused reason => .reported (.runtime s!"failed to create tokio runtime: {reason}")
  | .panicked message => .panicked message

/-- A run cannot go on behind a batch that is not read. -/
def BatchFault.runFault : BatchFault → RunFault
  | .undecodable fault => .reported (.file (.undecodable fault))
  | .tooLarge => .panicked "capacity overflow"
  | .noMemory bytes => .aborted s!"memory allocation of {bytes} bytes failed"

namespace Machine

/-- The machine that has memory for every batch, starts all threads and ends all work. -/
def ample : Machine := ⟨RequestLines.maxSize, fun _ => .ok (), fun _ => .ok ()⟩

/-- The replies to a batch, once the work on it is ended. -/
def replies (desk : Desk) (machine : Machine) (batch : List RequestLine) :
    Except RunFault (List Envelope) :=
  match machine.finish batch with
  | .error reason => .error (.reported (.runtime reason))
  | .ok () => .ok (batch.map fun line => desk.reply line.content)

end Machine

/-! ## Pipelines -/

/-- What was read for a batch and is not written yet. -/
inductive Work where
  /-- The batch is worked on. -/
  | working (batch : List RequestLine)
  /-- The replies to the batch wait for their turn, or the fault that stands in their place. -/
  | ended (result : Except RunFault (List Envelope))

/-- What the work comes to. -/
def Work.result (desk : Desk) (machine : Machine) : Work → Except RunFault (List Envelope)
  | .working batch => machine.replies desk batch
  | .ended result => result

/-- The batches between reading and writing. -/
structure Pipeline where
  /-- What is left of the file, while there may be more batches in it. -/
  unread : Option RequestLines
  /-- The batches that were read and are not written yet, in the order of the file. -/
  inFlight : List Work

namespace Pipeline

/-- The pipeline of a file of which nothing is read yet. -/
def start (bytes : List UInt8) : Pipeline := ⟨some (.ofBytes bytes), []⟩

/-- The lines to read ahead, which are none while as many batches are in flight as there may be. -/
def readable (p : Pipeline) (settings : BatchSettings) : Option RequestLines :=
  if p.inFlight.length < settings.concurrent then p.unread else none

/-- Reads one batch behind those in flight. Where it is not read, the fault takes its place, and where
it is empty nothing does; in both cases no other batch is read. All batches have one size, so one that
there is no memory for is the first, and nothing is in flight in front of it. -/
def readAhead (machine : Machine) (size : Nat) (lines : RequestLines) (inFlight : List Work) :
    Pipeline :=
  match lines.batch machine.room size with
  | (.error fault, _) => ⟨none, inFlight ++ [.ended (.error fault.runFault)]⟩
  | (.ok [], _) => ⟨none, inFlight⟩
  | (.ok batch, rest) => ⟨some rest, inFlight ++ [.working batch]⟩

/-- How much is left to read: nothing behind the last batch, and a batch takes at least one line. -/
def left (p : Pipeline) : Nat :=
  match p.unread with
  | none => 0
  | some lines => lines.pending.length + 1

theorem readable_eq_some_iff {p : Pipeline} {settings : BatchSettings} {lines : RequestLines} :
    p.readable settings = some lines ↔
      p.inFlight.length < settings.concurrent ∧ p.unread = some lines := by
  unfold readable
  split
  · next hroom => simp [hroom]
  · next hfull => simp [hfull]

/-- Reading ahead leaves less to read. -/
theorem left_readAhead_lt (machine : Machine) (size : Nat) {p : Pipeline} {lines : RequestLines}
    (h : p.unread = some lines) (inFlight : List Work) :
    (readAhead machine size lines inFlight).left < p.left := by
  have hleft : p.left = lines.pending.length + 1 := by rw [left, h]
  rw [hleft]
  unfold readAhead
  split
  · exact Nat.succ_pos _
  · exact Nat.succ_pos _
  · next batch rest hne hbatch =>
    obtain ⟨first, others, rfl⟩ := List.exists_cons_of_ne_nil hne
    exact Nat.succ_lt_succ (RequestLines.length_pending_batch_lt hbatch)

/-- What is written of the batches that are in flight and of those that are not read yet. -/
def run (desk : Desk) (machine : Machine) (settings : BatchSettings) (p : Pipeline) : Run :=
  match hread : p.readable settings with
  | some lines =>
    have := left_readAhead_lt machine settings.size (readable_eq_some_iff.mp hread).2 p.inFlight
    run desk machine settings (readAhead machine settings.size lines p.inFlight)
  | none =>
    match hwork : p.inFlight with
    | [] => .done
    | work :: others =>
      match work.result desk machine with
      | .error fault => .failed fault
      | .ok replies =>
        have : others.length < p.inFlight.length := hwork ▸ Nat.lt_succ_self _
        (run desk machine settings ⟨p.unread, others⟩).after replies
termination_by (p.left, p.inFlight.length)
decreasing_by
  · exact .left _ _ this
  · exact .right _ this

end Pipeline

/-- Replies to the lines of a file batch by batch. -/
def Run.inBatches (desk : Desk) (machine : Machine) (settings : BatchSettings) (path : String)
    (source : Source) : Run :=
  match machine.startThreads settings.concurrent, source with
  | .error fault, _ => failed fault.runFault
  | .ok (), .missing => stopped (.fileNotFound path)
  | .ok (), .directory =>
    -- the memory of a batch is taken before its first line is read
    match RequestLines.reserve machine.room settings.size with
    | .error fault => failed fault.runFault
    | .ok () => stopped (.file .isDirectory)
  | .ok (), .file bytes => (Pipeline.start bytes).run desk machine settings

end Remittance
