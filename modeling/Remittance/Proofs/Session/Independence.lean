import Mathlib.Data.List.Perm.Basic
import Remittance.Proofs.Desk.Locality
import Remittance.Proofs.Session.Steps
/-!
# Steps that name different accounts

A step changes the accounts that its instruction names and no other ones
(`SessionStep.change_of_not_names`), and what it does to them depends on them alone
(`SessionStep.change_congr`). So two steps without an account in common can change places, and a
session of such steps comes to the same end in every order, with the same verdict on each of them
(`Session.independent_steps_commute`).
-/

namespace Remittance

namespace SessionStep

/-- No account is named by both instructions. An instruction that cannot be read names none. -/
def Independent (step other : SessionStep) : Prop :=
  ∀ id, Instruction.Names step.instruction id → ¬ Instruction.Names other.instruction id

/-- What a step on these accounts makes of one of them. -/
def change (step : SessionStep) (accounts : List Account) (a : Account) : Account :=
  match step.desk.approve accounts step.instruction with
  | .error _ => a
  | .ok t => ((step.desk.execute t).execution.report a).account

variable {step other : SessionStep} {accounts accounts' : List Account} {a : Account}
  {id : AccountId}

lemma Independent.symm (h : step.Independent other) : other.Independent step :=
  fun id hother hstep => h id hstep hother

instance : Std.Symm Independent := ⟨fun _ _ => Independent.symm⟩

/-! ## What one step changes -/

/-- A step changes the accounts one by one. -/
lemma next_eq_map (step : SessionStep) (accounts : List Account) :
    step.next accounts = accounts.map (step.change accounts) := by
  unfold next outcome change
  cases happrove : step.desk.approve accounts step.instruction with
  | error rejection =>
    rw [Desk.process_of_rejected happrove]
    exact (List.map_id accounts).symm
  | ok t =>
    rw [Desk.process_of_approved happrove]
    exact List.map_map

/-- An account keeps its id. -/
lemma id_change (step : SessionStep) (accounts : List Account) (a : Account) :
    (step.change accounts a).id = a.id := by
  unfold change
  split
  · rfl
  · next t happrove => exact (step.desk.execute t).execution.id_report a

/-- An account that the instruction does not name stays as it is. -/
lemma change_of_not_names (h : ¬ Instruction.Names step.instruction a.id) :
    step.change accounts a = a := by
  unfold change
  split
  · rfl
  · next t happrove =>
    have hcarried := Desk.carriesOut_of_approve happrove
    have hdebit : a.id ≠ (step.desk.execute t).execution.debit.id := by
      rw [hcarried.concerns.debit_id, hcarried.acceptable.debit_only.id_eq]
      exact fun heq => h ⟨t.order, hcarried.read, .inl heq⟩
    have hcredit : a.id ≠ (step.desk.execute t).execution.credit.id := by
      rw [hcarried.concerns.credit_id, hcarried.acceptable.credit_only.id_eq]
      exact fun heq => h ⟨t.order, hcarried.read, .inr heq⟩
    rw [Execution.report, if_neg hdebit, if_neg hcredit, Account.account_unchanged]

/-- What a step does depends on the accounts that its instruction names alone. -/
lemma change_congr (h : Instruction.SameAccounts step.instruction accounts accounts') :
    step.change accounts' = step.change accounts := by
  funext a
  unfold change
  rw [step.desk.approve_congr h]

/-- The accounts under an id that the instruction does not name stay as they are. -/
lemma accountsWithId_next (h : ¬ Instruction.Names step.instruction id) :
    accountsWithId (step.next accounts) id = accountsWithId accounts id := by
  have hkept : ∀ b ∈ accountsWithId accounts id, step.change accounts b = b := by
    intro b hb
    obtain ⟨-, hid⟩ := mem_accountsWithId.mp hb
    exact change_of_not_names (by rwa [hid])
  have hfilter : ((·.id == id) ∘ step.change accounts) = fun b : Account => b.id == id := by
    funext b
    rw [Function.comp_apply, id_change]
  rw [next_eq_map, accountsWithId, List.filter_map, hfilter]
  exact (List.map_congr_left hkept).trans (List.map_id _)

/-! ## Two steps -/

/-- A step leaves the accounts as they are for one that is independent of it. -/
lemma Independent.sameAccounts_next (h : step.Independent other) (accounts : List Account) :
    Instruction.SameAccounts other.instruction accounts (step.next accounts) :=
  fun id hother => .of_eq (accountsWithId_next fun hstep => h id hstep hother)

/-- A step has the same verdict behind one that is independent of it. -/
lemma Independent.verdict_next (h : step.Independent other) (accounts : List Account) :
    (other.outcome (step.next accounts)).verdict = (other.outcome accounts).verdict :=
  other.desk.verdict_congr (h.sameAccounts_next accounts)

/-- An account is named by one of two independent steps at most, so the other one does not change
it. -/
lemma Independent.change_comm (h : step.Independent other) (accounts : List Account)
    (a : Account) :
    other.change accounts (step.change accounts a) =
      step.change accounts (other.change accounts a) := by
  by_cases hnames : Instruction.Names step.instruction a.id
  · have hkept : ¬ Instruction.Names other.instruction a.id := h _ hnames
    have hother : other.change accounts (step.change accounts a) = step.change accounts a :=
      change_of_not_names (by rwa [id_change])
    rw [change_of_not_names hkept, hother]
  · have hstep : step.change accounts (other.change accounts a) = other.change accounts a :=
      change_of_not_names (by rwa [id_change])
    rw [change_of_not_names hnames, hstep]

/-- Two independent steps come to the same end in either order. -/
theorem Independent.next_comm (h : step.Independent other) (accounts : List Account) :
    other.next (step.next accounts) = step.next (other.next accounts) := by
  have hother : other.change (step.next accounts) = other.change accounts :=
    change_congr (h.sameAccounts_next accounts)
  have hstep : step.change (other.next accounts) = step.change accounts :=
    change_congr (h.symm.sameAccounts_next accounts)
  rw [next_eq_map other, next_eq_map step (other.next accounts), hother, hstep, next_eq_map,
    next_eq_map, List.map_map, List.map_map]
  exact List.map_congr_left fun a _ => h.change_comm accounts a

end SessionStep

/-! ## Whole sessions -/

namespace Session

variable {steps steps' : List SessionStep}

lemma accountsAfter_eq_foldl (start : List Account) (steps : List SessionStep) :
    accountsAfter start steps = steps.foldl (fun accounts step => step.next accounts) start := by
  induction steps generalizing start with
  | nil => rfl
  | cons step steps ih => rw [accountsAfter_cons, ih, List.foldl_cons]

/-- Independent steps come to the same end in every order. -/
lemma accountsAfter_perm (start : List Account)
    (hindependent : steps.Pairwise SessionStep.Independent) (horder : steps'.Perm steps) :
    accountsAfter start steps' = accountsAfter start steps := by
  rw [accountsAfter_eq_foldl, accountsAfter_eq_foldl]
  refine (horder.symm.foldl_eq' ?_ start).symm
  intro step hstep other hother accounts
  by_cases heq : step = other
  · rw [heq]
  · have hpair : step.Independent other :=
      hindependent.forall hstep hother heq
    exact hpair.next_comm accounts

/-- Among independent steps each one has the verdict that it has on the accounts of the start. -/
lemma map_verdict_run (start : List Account)
    (hindependent : steps.Pairwise SessionStep.Independent) :
    (run start steps).map (fun result => result.1.verdict) =
      steps.map fun step => (step.outcome start).verdict := by
  induction steps generalizing start with
  | nil => rfl
  | cons step steps ih =>
    obtain ⟨hstep, hsteps⟩ := List.pairwise_cons.mp hindependent
    rw [run_cons, List.map_cons, List.map_cons, ih _ hsteps]
    refine congrArg _ (List.map_congr_left fun other hother => ?_)
    exact (hstep other hother).verdict_next start

/-- Steps that name different accounts leave the same accounts in every order, and in every order each
of them has the same verdict, which is the one that it has alone: the same errors, or the same report
on its two accounts. -/
theorem independent_steps_commute (start : List Account)
    (hindependent : steps.Pairwise SessionStep.Independent) (horder : steps'.Perm steps) :
    accountsAfter start steps' = accountsAfter start steps ∧
    (run start steps').map (fun result => result.1.verdict) =
      steps'.map (fun step => (step.outcome start).verdict) ∧
    (run start steps).map (fun result => result.1.verdict) =
      steps.map (fun step => (step.outcome start).verdict) := by
  have hindependent' : steps'.Pairwise SessionStep.Independent :=
    horder.symm.pairwise hindependent fun h => h.symm
  exact ⟨accountsAfter_perm start hindependent horder, map_verdict_run start hindependent',
    map_verdict_run start hindependent⟩

/-- A payment, one that is not covered and a text that cannot be read, forwards and backwards. -/
theorem independent_steps_commute_backwards :
    let account (id : AccountId) (balance : Decimal) : Account := ⟨id, balance, .ngn⟩
    let a : AccountId := ⟨"A", by decide, by decide⟩
    let b : AccountId := ⟨"B", by decide, by decide⟩
    let c : AccountId := ⟨"C", by decide, by decide⟩
    let d : AccountId := ⟨"D", by decide, by decide⟩
    let start := [account a ⟨false, 100, 0, by decide, by decide⟩, account b .zero,
      account c .zero, account d .zero]
    let desk := Desk.ofSettings [] .hold ⟨2030, 6, 15, by decide, by decide, by decide⟩ .acceptAll
    let paid : SessionStep := ⟨desk, "DEBIT A 60; CREDIT B 60".toList⟩
    let uncovered : SessionStep := ⟨desk, "DEBIT C 1; CREDIT D 1".toList⟩
    let unreadable : SessionStep := ⟨desk, "PAY D".toList⟩
    accountsAfter start [unreadable, uncovered, paid] ≠ start ∧
      accountsAfter start [unreadable, uncovered, paid] =
        accountsAfter start [paid, uncovered, unreadable] ∧
      (run start [unreadable, uncovered, paid]).map (fun result => result.1.verdict) =
        ((run start [paid, uncovered, unreadable]).map fun result => result.1.verdict).reverse := by
  intro account a b c d start desk paid uncovered unreadable
  have hpaid : Instruction.read paid.instruction =
      .ok ⟨.debit, a, b, ⟨false, 60, 0, by decide, by decide⟩, none, none⟩ := by rfl
  have huncovered : Instruction.read uncovered.instruction =
      .ok ⟨.debit, c, d, ⟨false, 1, 0, by decide, by decide⟩, none, none⟩ := by rfl
  have hunreadable : ∀ id, ¬ Instruction.Names unreadable.instruction id := by
    rintro id ⟨order, horder, -⟩
    have hfault : (Instruction.read unreadable.instruction).toOption = none := by decide +kernel
    rw [horder] at hfault
    cases hfault
  have hdisjoint : paid.Independent uncovered := by
    rintro id ⟨order, horder, hid⟩ ⟨order', horder', hid'⟩
    obtain rfl := Except.ok.inj (hpaid.symm.trans horder)
    obtain rfl := Except.ok.inj (huncovered.symm.trans horder')
    rcases hid with rfl | rfl <;> revert hid' <;> decide
  have hindependent : [paid, uncovered, unreadable].Pairwise SessionStep.Independent := by
    simp only [List.pairwise_cons, List.mem_cons, List.not_mem_nil, or_false, forall_eq_or_imp,
      forall_eq, List.Pairwise.nil, and_true]
    exact ⟨⟨hdisjoint, fun id _ => hunreadable id⟩, fun id _ => hunreadable id, by simp⟩
  have horder : [unreadable, uncovered, paid].Perm [paid, uncovered, unreadable] :=
    List.reverse_perm [paid, uncovered, unreadable]
  obtain ⟨haccounts, hverdicts, hverdicts'⟩ := independent_steps_commute start hindependent horder
  refine ⟨by decide +kernel, haccounts, ?_⟩
  rw [hverdicts, hverdicts']
  rfl

end Session

end Remittance
