import Remittance.Proofs.Run.Single
import Remittance.Proofs.Session.Invariant
/-!
# Runs on the tables of other runs

A run of one instruction writes a table of the accounts after it, and the next run can start from
this table. Such a chain of runs goes as the session of the same instructions goes in memory
(`Run.chain_follows_session`). What a table does not keep is the sign of a zero, and no desk sees it
(`Desk.process_unsignZeros`): it is missing from what later runs tell, and nothing else is.
-/

namespace Remittance

namespace Run

variable {desk : Desk} {bytes : List UInt8} {accounts : List Account} {outcome : Outcome}
  {after : List Account} {run : Run}

/-! ## One run -/

/-- What a run leaves at the path of its table. -/
def tableFile (run : Run) : Source :=
  match run.table with
  | some snapshots => .file (Text.Utf8.encode (AccountTable.write snapshots))
  | none => .missing

/-- The run tells the outcome and leaves a table of the accounts. -/
structure Tells (run : Run) (outcome : Outcome) (after : List Account) : Prop where
  result_eq : run.result = .ok ()
  output_eq : run.output = outcome.envelope.line
  table_read : ∃ written, run.tableFile = .file written ∧
    AccountTable.read written = .ok (after.map Account.unsignZero)

/-- The table lists the accounts after the instruction. -/
lemma map_account_snapshotsAfter (accounts : List Account) (outcome : Outcome) :
    (snapshotsAfter accounts outcome).map Snapshot.account = outcome.accountsAfter accounts := by
  obtain ⟨result, calls⟩ := outcome
  cases result with
  | ok summary => rfl
  | error rejection =>
    show (accounts.map Account.unchanged).map Snapshot.account = accounts
    rw [List.map_map]
    exact List.map_id accounts

/-- A run on a table does what a step of a session does with the accounts of the table. -/
lemma single_tells (hread : AccountTable.read bytes = .ok accounts) (path : String)
    (step : SessionStep) :
    (single step.desk path (.file bytes) step.instruction true).Tells (step.outcome accounts)
      (step.next accounts) := by
  have hnonNegative := step.nonNegative_next (AccountTable.nonNegative_of_read hread)
  rw [single_of_read hread]
  refine ⟨rfl, List.append_nil _, _, rfl, ?_⟩
  have htable := AccountTable.tabulates_write (snapshotsAfter accounts (step.outcome accounts))
  rw [map_account_snapshotsAfter] at htable
  exact AccountTable.read_of_tabulates htable hnonNegative

/-! ## Chains -/

/-- Runs one after another, each on the table that the one before it left at this path. -/
def chain (source : Source) : List (String × SessionStep) → List Run
  | [] => []
  | (path, step) :: steps =>
    let run := single step.desk path source step.instruction true
    run :: chain run.tableFile steps

/-- Where the first table has lost the signs of zeros, every run tells what the session tells, save
for the signs of zeros. -/
lemma chain_tells_unsigned (hread : AccountTable.read bytes = .ok (accounts.map Account.unsignZero))
    (steps : List (String × SessionStep)) :
    List.Forall₂ (fun run entry => run.Tells entry.1.unsignZeros entry.2) (chain (.file bytes) steps)
      (Session.run accounts (steps.map Prod.snd)) := by
  induction steps generalizing bytes accounts with
  | nil => exact .nil
  | cons first steps ih =>
    obtain ⟨path, step⟩ := first
    have htells := single_tells hread path step
    have houtcome : step.outcome (accounts.map Account.unsignZero) =
        (step.outcome accounts).unsignZeros := step.desk.process_unsignZeros accounts _
    rw [houtcome, step.next_unsignZeros] at htells
    obtain ⟨written, hwritten, hread'⟩ := htells.table_read
    rw [Account.map_unsignZero_map_unsignZero] at hread'
    rw [List.map_cons, Session.run_cons]
    refine .cons ⟨htells.result_eq, htells.output_eq, written, hwritten, hread'⟩ ?_
    rw [hwritten]
    exact ih hread'

/-- The first run tells what the session tells. The others do so save for the signs of zeros. -/
lemma chain_tells (hread : AccountTable.read bytes = .ok accounts)
    {steps : List (String × SessionStep)} {k : ℕ}
    (hrun : (chain (.file bytes) steps)[k]? = some run)
    (hentry : (Session.run accounts (steps.map Prod.snd))[k]? = some (outcome, after)) :
    run.Tells (if k = 0 then outcome else outcome.unsignZeros) after := by
  cases steps with
  | nil => cases hrun
  | cons first steps =>
    obtain ⟨path, step⟩ := first
    have hfirst := single_tells hread path step
    rw [List.map_cons, Session.run_cons] at hentry
    cases k with
    | zero =>
      cases hrun
      cases hentry
      exact hfirst
    | succ k =>
      obtain ⟨written, hwritten, hread'⟩ := hfirst.table_read
      have hothers := chain_tells_unsigned hread' steps
      rw [← hwritten] at hothers
      obtain ⟨hk, rfl⟩ := List.getElem?_eq_some_iff.mp hrun
      obtain ⟨hk', hentry⟩ := List.getElem?_eq_some_iff.mp hentry
      have htells := (List.forall₂_iff_get.mp hothers).2 k (Nat.lt_of_succ_lt_succ hk)
        (Nat.lt_of_succ_lt_succ hk')
      rw [List.get_eq_getElem, List.get_eq_getElem] at htells
      rw [List.getElem_cons_succ] at hentry
      rw [hentry] at htells
      exact htells

lemma length_chain (source : Source) (steps : List (String × SessionStep)) :
    (chain source steps).length = steps.length := by
  induction steps generalizing source with
  | nil => rfl
  | cons first steps ih => rw [chain, List.length_cons, ih, List.length_cons]

/-- However long a chain of runs is, each of its runs succeeds, tells what the session tells at the
same step, and leaves a table of the accounts that the session has then. Behind the first run, a zero
with a sign is a zero without one; where no balance at the start is such a zero, all is the same. -/
theorem chain_follows_session (hread : AccountTable.read bytes = .ok accounts)
    (steps : List (String × SessionStep)) :
    let runs := chain (.file bytes) steps
    let session := Session.run accounts (steps.map Prod.snd)
    runs.length = steps.length ∧ session.length = steps.length ∧
      ∀ (k : ℕ) (run : Run) (outcome : Outcome) (after : List Account),
        runs[k]? = some run → session[k]? = some (outcome, after) →
        run.result = .ok () ∧
        run.output = (if k = 0 then outcome else outcome.unsignZeros).envelope.line ∧
        (∃ written, run.tableFile = .file written ∧
          AccountTable.read written = .ok (after.map Account.unsignZero)) ∧
        ((∀ a ∈ accounts, a.balance.negative = true → a.balance.magnitude ≠ 0) →
          run.output = outcome.envelope.line ∧ after.map Account.unsignZero = after) := by
  refine ⟨length_chain _ steps, ?_, ?_⟩
  · rw [Session.length_run, List.length_map]
  · intro k run outcome after hrun hentry
    have htells := chain_tells hread hrun hentry
    refine ⟨htells.result_eq, htells.output_eq, htells.table_read, fun hsigns => ?_⟩
    -- a session that starts without signs of zeros never comes to have one
    have hsession := Session.run_unsignZeros accounts (steps.map Prod.snd)
    rw [Account.map_unsignZero_eq_self hsigns] at hsession
    have hsame := hentry
    rw [hsession, List.getElem?_map, hentry, Option.map_some, Option.some.injEq,
      Prod.mk.injEq] at hsame
    obtain ⟨houtcome, hafter⟩ := hsame
    refine ⟨?_, hafter⟩
    rw [htells.output_eq, houtcome, ite_self]

/-- A transfer, and one that is refused since it is more than is left. -/
theorem chain_follows_session_until_refused :
    let desk := Desk.ofSettings Currency.defaults .reserveDebit
      ⟨2030, 6, 15, by decide, by decide, by decide⟩ .acceptAll
    let bytes := Text.Utf8.encode "id,balance,currency\nA,10.50,NGN\nB,0.00,NGN\n".toList
    let accounts : List Account := [
      ⟨⟨"A", by decide, by decide⟩, ⟨false, 1050, 2, by decide, by decide⟩, .ngn⟩,
      ⟨⟨"B", by decide, by decide⟩, ⟨false, 0, 2, by decide, by decide⟩, .ngn⟩]
    let step : SessionStep := ⟨desk, "DEBIT A 6; CREDIT B 6".toList⟩
    let steps := [("accounts.csv", step), ("after.csv", step)]
    AccountTable.read bytes = .ok accounts ∧
      ∃ first second final, chain (.file bytes) steps = [first, second] ∧
        first.result = .ok () ∧ second.result = .ok () ∧
        second.output = (Envelope.rejection [⟨"accounts[].balance",
          "insufficient funds in account 'A': available 4.50, requested 6",
          .insufficientFunds⟩]).line ∧
        second.tableFile = .file final ∧
        AccountTable.read final = .ok [
          ⟨⟨"A", by decide, by decide⟩, ⟨false, 450, 2, by decide, by decide⟩, .ngn⟩,
          ⟨⟨"B", by decide, by decide⟩, ⟨false, 6, 0, by decide, by decide⟩, .ngn⟩] := by
  intro desk bytes accounts step steps
  have hread : AccountTable.read bytes = .ok accounts := by decide +kernel
  obtain ⟨hlength, -, hruns⟩ := chain_follows_session hread steps
  obtain ⟨first, second, hchain⟩ := List.length_eq_two.mp hlength
  have hsigns : ∀ a ∈ accounts, a.balance.negative = true → a.balance.magnitude ≠ 0 := by
    decide +kernel
  obtain ⟨hfirst, -⟩ := hruns 0 first _ _ (by rw [hchain]; rfl) rfl
  obtain ⟨hsecond, -, ⟨final, hfinal, hafter⟩, hsame⟩ :=
    hruns 1 second _ _ (by rw [hchain]; rfl) rfl
  refine ⟨hread, first, second, final, hchain, hfirst, hsecond, ?_, hfinal, ?_⟩
  · rw [(hsame hsigns).1]
    decide +kernel
  · rw [hafter]
    decide +kernel

/-- The balance of an account that no money enters or leaves is a zero with a sign, which a text
below zero is read as. In the session the sign is told at every step, in the chain only at the first
one. -/
theorem chain_loses_sign_of_zero :
    let desk := Desk.ofSettings Currency.defaults .reserveDebit
      ⟨2030, 6, 15, by decide, by decide, by decide⟩ .acceptAll
    let bytes := Text.Utf8.encode
      "id,balance,currency\nA,10,NGN\nB,0,NGN\nC,-0.4e-28,NGN\n".toList
    let step : SessionStep := ⟨desk, "DEBIT A 1; CREDIT B 1".toList⟩
    let steps := [("accounts.csv", step), ("after.csv", step)]
    ∃ accounts run outcome after, AccountTable.read bytes = .ok accounts ∧
      (chain (.file bytes) steps)[1]? = some run ∧
      (Session.run accounts (steps.map Prod.snd))[1]? = some (outcome, after) ∧
      run.output ≠ outcome.envelope.line := by
  intro desk bytes step steps
  let accounts : List Account := [
    ⟨⟨"A", by decide, by decide⟩, ⟨false, 10, 0, by decide, by decide⟩, .ngn⟩,
    ⟨⟨"B", by decide, by decide⟩, .zero, .ngn⟩,
    ⟨⟨"C", by decide, by decide⟩, ⟨true, 0, 28, by decide, by decide⟩, .ngn⟩]
  have hread : AccountTable.read bytes = .ok accounts := by decide +kernel
  have hentry : (Session.run accounts (steps.map Prod.snd))[1]? =
      some (step.outcome (step.next accounts), step.next (step.next accounts)) := rfl
  obtain ⟨first, second, hchain⟩ := List.length_eq_two.mp (length_chain (.file bytes) steps)
  have hrun : (chain (.file bytes) steps)[1]? = some second := by
    rw [hchain]
    rfl
  refine ⟨accounts, second, _, _, hread, hrun, hentry, ?_⟩
  rw [(chain_tells hread hrun hentry).output_eq]
  decide +kernel

end Run

end Remittance
