import Mathlib.Data.List.Basic
import Mathlib.Tactic.Common
import Remittance.Proofs.RequestLines
import Remittance.Run.Batches
/-!
# What a pipeline writes

`Run.replyInBatches` replies to the batches of a file one after another. A pipeline writes the same,
with the batches in flight in front of it (`Pipeline.run_eq_outcome`): how many of them may be in
flight has no influence on what is written. What the system below has to do for a run that keeps to
its lines is said by `Machine.Serves`.
-/

namespace Remittance

variable {desk : Desk} {machine : Machine} {size : ℕ}

/-! ## Machines -/

namespace Machine

/-- The machine does what a run with these settings asks of it: it has memory for a batch, starts the
threads and ends the work on every batch. -/
structure Serves (machine : Machine) (settings : BatchSettings) : Prop where
  fits : RequestLines.Fits machine.room settings.size
  threads : machine.startThreads settings.concurrent = .ok ()
  finishes : ∀ batch, machine.finish batch = .ok ()

/-- A machine that refuses nothing serves all runs in batches that memory can hold. -/
lemma serves_ample {settings : BatchSettings} (h : settings.size ≤ RequestLines.maxSize) :
    ample.Serves settings :=
  ⟨⟨h, h⟩, rfl, fun _ => rfl⟩

/-- Such a machine gives the replies to every batch. -/
lemma Serves.replies {settings : BatchSettings} (h : machine.Serves settings)
    (batch : List RequestLine) :
    machine.replies desk batch = .ok (batch.map fun line => desk.reply line.content) := by
  rw [Machine.replies, h.finishes]

end Machine

/-! ## One batch after another -/

namespace Run

/-- The run that first writes the replies to a batch, and that fails where there are none. -/
def behind (run : Run) : Except RunFault (List Envelope) → Run
  | .error fault => failed fault
  | .ok replies => run.after replies

/-- Replies to the batches of a file one after another. -/
def replyInBatches (desk : Desk) (machine : Machine) (size : ℕ) (lines : RequestLines) : Run :=
  match h : lines.batch machine.room size with
  | (.error fault, _) => failed fault.runFault
  | (.ok [], _) => done
  | (.ok (first :: others), rest) =>
    have := RequestLines.length_pending_batch_lt h
    (replyInBatches desk machine size rest).behind (machine.replies desk (first :: others))
termination_by lines.pending.length

lemma replyInBatches_eq (desk : Desk) (machine : Machine) (size : ℕ) (lines : RequestLines) :
    replyInBatches desk machine size lines =
      match lines.batch machine.room size with
      | (.error fault, _) => failed fault.runFault
      | (.ok [], _) => done
      | (.ok batch, rest) =>
        (replyInBatches desk machine size rest).behind (machine.replies desk batch) := by
  rw [replyInBatches]
  split <;> simp_all

end Run

/-! ## Pipelines -/

namespace Pipeline

/-- What the batches in flight and those that are not read yet come to, one after another. -/
def outcome (desk : Desk) (machine : Machine) (size : ℕ) (p : Pipeline) : Run :=
  p.inFlight.foldr (fun work run => run.behind (work.result desk machine))
    (match p.unread with
      | none => .done
      | some lines => .replyInBatches desk machine size lines)

/-- The first batch in flight is written first. -/
lemma outcome_cons (unread : Option RequestLines) (work : Work) (others : List Work) :
    outcome desk machine size ⟨unread, work :: others⟩ =
      (outcome desk machine size ⟨unread, others⟩).behind (work.result desk machine) :=
  rfl

/-- It does not matter whether the next batch was read ahead. -/
lemma outcome_readAhead (lines : RequestLines) (inFlight : List Work) :
    (readAhead machine size lines inFlight).outcome desk machine size =
      outcome desk machine size ⟨some lines, inFlight⟩ := by
  have hlines : outcome desk machine size ⟨some lines, inFlight⟩ =
      inFlight.foldr (fun work run => run.behind (work.result desk machine))
        (.replyInBatches desk machine size lines) := rfl
  rw [hlines, Run.replyInBatches_eq, readAhead]
  generalize lines.batch machine.room size = taken
  split
  · rw [outcome, List.foldr_append]
    rfl
  · rfl
  · next batch rest hne =>
    obtain ⟨first, others, rfl⟩ := List.exists_cons_of_ne_nil hne
    rw [outcome, List.foldr_append]
    rfl

/-- A pipeline writes what its batches come to one after another, however many of them may be in
flight. -/
theorem run_eq_outcome (desk : Desk) (machine : Machine) (settings : BatchSettings) (p : Pipeline) :
    p.run desk machine settings = p.outcome desk machine settings.size := by
  fun_induction run desk machine settings p with
  | case1 p lines hread _ ih =>
    rw [ih, outcome_readAhead, ← (readable_eq_some_iff.mp hread).2]
  | case2 p hread hwork =>
    -- with nothing in flight more could be read, so all is read
    obtain ⟨unread, inFlight⟩ := p
    obtain rfl : inFlight = [] := hwork
    obtain rfl : unread = none := (if_pos settings.concurrent_pos).symm.trans hread
    rfl
  | case3 p hread work others hwork fault hresult =>
    obtain ⟨unread, inFlight⟩ := p
    obtain rfl : inFlight = work :: others := hwork
    rw [outcome_cons, hresult]
    rfl
  | case4 p hread work others hwork replies hresult _ ih =>
    obtain ⟨unread, inFlight⟩ := p
    obtain rfl : inFlight = work :: others := hwork
    rw [outcome_cons, hresult, ih]
    rfl

end Pipeline

/-- Once its threads are started, a run on a file replies to its batches one after another. -/
lemma Run.inBatches_of_file {settings : BatchSettings}
    (hthreads : machine.startThreads settings.concurrent = .ok ()) (desk : Desk) (path : String)
    (bytes : List UInt8) :
    inBatches desk machine settings path (.file bytes) =
      replyInBatches desk machine settings.size (.ofBytes bytes) := by
  simp only [inBatches, hthreads]
  exact (Pipeline.start bytes).run_eq_outcome desk machine settings

end Remittance
