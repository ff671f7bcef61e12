import Mathlib.Algebra.GroupWithZero.Nat
import Mathlib.Logic.Relation
import Mathlib.Order.RelClasses
import Remittance.Proofs.Run.Pipeline
/-!
# Schedules

The work on the batches in flight ends in any order, while more of them are read and the first ones
are written. `Pipeline.Step` is what can happen next, and a schedule is a sequence of steps up to a
moment at which the run ends. Every step keeps what the batches come to (`Pipeline.Step.outcome_eq`),
so all schedules end in the same run, and there is no schedule without an end
(`Pipeline.canEnd_iff`).
-/

namespace Remittance.Pipeline

open Relation (ReflTransGen)

variable {desk : Desk} {machine : Machine} {settings : BatchSettings}

/-- A moment of a run: what is written, and what is not. -/
structure Moment where
  written : List Envelope
  pipeline : Pipeline

/-- What can happen next. -/
inductive Step (desk : Desk) (machine : Machine) (settings : BatchSettings) : Moment → Moment → Prop
  /-- One more batch is read, while fewer are in flight than there may be. -/
  | read {written : List Envelope} {p : Pipeline} {lines : RequestLines}
      (readable : p.readable settings = some lines) :
      Step desk machine settings ⟨written, p⟩
        ⟨written, readAhead machine settings.size lines p.inFlight⟩
  /-- The work on some batch in flight ends. -/
  | finish {written : List Envelope} {unread : Option RequestLines} {before after : List Work}
      {batch : List RequestLine} :
      Step desk machine settings ⟨written, unread, before ++ .working batch :: after⟩
        ⟨written, unread, before ++ .ended (machine.replies desk batch) :: after⟩
  /-- The replies to the first batch in flight are written. -/
  | write {written replies : List Envelope} {unread : Option RequestLines} {others : List Work} :
      Step desk machine settings ⟨written, unread, .ended (.ok replies) :: others⟩
        ⟨written ++ replies, unread, others⟩

/-- The moments at which a run ends. -/
inductive Ends : Moment → Run → Prop
  /-- A fault stands in the place of the next replies. -/
  | failed {written : List Envelope} {unread : Option RequestLines} {fault : RunFault}
      {others : List Work} :
      Ends ⟨written, unread, .ended (.error fault) :: others⟩ ((Run.failed fault).after written)
  /-- Everything is read and written. -/
  | done {written : List Envelope} : Ends ⟨written, none, []⟩ (Run.done.after written)

/-- Some schedule of a pipeline of which nothing is written ends in this run. -/
def CanEnd (desk : Desk) (machine : Machine) (settings : BatchSettings) (p : Pipeline) (run : Run) :
    Prop :=
  ∃ m, ReflTransGen (Step desk machine settings) ⟨[], p⟩ m ∧ Ends m run

/-! ## What every step keeps -/

/-- The run that a moment leads to if the batches are worked on one after another. -/
def Moment.outcome (desk : Desk) (machine : Machine) (size : ℕ) (m : Moment) : Run :=
  (m.pipeline.outcome desk machine size).after m.written

/-- No step changes what a run comes to. -/
lemma Step.outcome_eq {m m' : Moment} (h : Step desk machine settings m m') :
    m'.outcome desk machine settings.size = m.outcome desk machine settings.size := by
  cases h with
  | read readable =>
    rw [Moment.outcome, outcome_readAhead, ← (readable_eq_some_iff.mp readable).2]
    rfl
  | finish => simp [Moment.outcome, Pipeline.outcome, Work.result]
  | write => simp [Moment.outcome, outcome_cons, Work.result, Run.behind, Run.after]

/-- Nor does a sequence of steps. -/
theorem outcome_eq_of_steps {m m' : Moment} (h : ReflTransGen (Step desk machine settings) m m') :
    m'.outcome desk machine settings.size = m.outcome desk machine settings.size := by
  induction h with
  | refl => rfl
  | tail _ hstep ih => rw [hstep.outcome_eq, ih]

/-- Where a run ends, it has come to that. -/
lemma Ends.eq_outcome {m : Moment} {run : Run} (h : Ends m run) (size : ℕ) :
    run = m.outcome desk machine size := by
  cases h <;> rfl

lemma length_inFlight_readAhead_le (machine : Machine) (size : ℕ) (lines : RequestLines)
    (inFlight : List Work) :
    (readAhead machine size lines inFlight).inFlight.length ≤ inFlight.length + 1 := by
  unfold readAhead
  split <;> simp

/-- Never more batches are in flight than there may be. -/
theorem length_inFlight_le_of_steps {m m' : Moment}
    (h : ReflTransGen (Step desk machine settings) m m')
    (hstart : m.pipeline.inFlight.length ≤ settings.concurrent) :
    m'.pipeline.inFlight.length ≤ settings.concurrent := by
  induction h with
  | refl => exact hstart
  | tail _ hstep ih =>
    cases hstep with
    | read readable =>
      exact Nat.le_trans (length_inFlight_readAhead_le ..) (readable_eq_some_iff.mp readable).1
    | finish => simpa using ih
    | write => exact Nat.le_of_succ_le ih

/-! ## Every schedule ends -/

/-- A run that has not ended can go on. -/
lemma exists_ends_or_step (desk : Desk) (machine : Machine) (settings : BatchSettings) (m : Moment) :
    (∃ run, Ends m run) ∨ ∃ m', Step desk machine settings m m' := by
  obtain ⟨written, unread, inFlight⟩ := m
  cases inFlight with
  | nil =>
    cases unread with
    | none => exact .inl ⟨_, .done⟩
    | some lines => exact .inr ⟨_, .read (if_pos settings.concurrent_pos)⟩
  | cons work others =>
    cases work with
    | working batch => exact .inr ⟨_, @Step.finish _ _ _ written unread [] others batch⟩
    | ended result =>
      cases result with
      | error fault => exact .inl ⟨_, .failed⟩
      | ok replies => exact .inr ⟨_, .write⟩

/-- How many steps a batch in flight takes until it is written. -/
def stepsOf : Work → ℕ
  | .working _ => 2
  | .ended _ => 1

/-- What every step makes smaller: what is left to read, or else what is left to do for the batches
in flight. -/
def Moment.remaining (m : Moment) : ℕ × ℕ :=
  (m.pipeline.left, (m.pipeline.inFlight.map stepsOf).sum)

lemma Step.remaining_lt {m m' : Moment} (h : Step desk machine settings m m') :
    Prod.Lex (· < ·) (· < ·) m'.remaining m.remaining := by
  cases h with
  | read readable => exact .left _ _ (left_readAhead_lt _ _ (readable_eq_some_iff.mp readable).2 _)
  | finish =>
    refine .right _ ?_
    simp [stepsOf]
  | write =>
    refine .right _ ?_
    simp [stepsOf]

/-- No schedule goes on for ever. -/
theorem wellFounded_step (desk : Desk) (machine : Machine) (settings : BatchSettings) :
    WellFounded fun m' m => Step desk machine settings m m' :=
  Subrelation.wf Step.remaining_lt
    (InvImage.wf Moment.remaining (wellFounded_lt.prod_lex wellFounded_lt))

/-- From every moment a run comes to an end. -/
lemma exists_steps_ends (desk : Desk) (machine : Machine) (settings : BatchSettings) (m : Moment) :
    ∃ m' run, ReflTransGen (Step desk machine settings) m m' ∧ Ends m' run := by
  induction m using (wellFounded_step desk machine settings).induction with
  | _ m ih =>
    obtain ⟨run, hends⟩ | ⟨next, hstep⟩ := exists_ends_or_step desk machine settings m
    · exact ⟨m, run, .refl, hends⟩
    · obtain ⟨m', run, hsteps, hends⟩ := ih next hstep
      exact ⟨m', run, .head hstep hsteps, hends⟩

/-- In whatever order the work on the batches ends, the run is the one in which the pipeline waits for
the first batch in flight. -/
theorem canEnd_iff {p : Pipeline} {run : Run} :
    p.CanEnd desk machine settings run ↔ run = p.run desk machine settings := by
  have hend : ∀ m run, ReflTransGen (Step desk machine settings) ⟨[], p⟩ m → Ends m run →
      run = p.run desk machine settings := by
    intro m run hsteps hends
    rw [hends.eq_outcome settings.size, outcome_eq_of_steps hsteps, run_eq_outcome]
    rfl
  constructor
  · rintro ⟨m, hsteps, hends⟩
    exact hend m run hsteps hends
  · rintro rfl
    obtain ⟨m, run, hsteps, hends⟩ := exists_steps_ends desk machine settings ⟨[], p⟩
    exact ⟨m, hsteps, hend m run hsteps hends ▸ hends⟩

end Remittance.Pipeline
