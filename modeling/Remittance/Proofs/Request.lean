import Mathlib.Data.List.Basic
import Remittance.Proofs.Instruction.Words
import Remittance.Request.Encoding
/-!
# Which requests pass the checks

An entry stands for an account exactly when it is what the account is written as
(`AccountEntry.account?_eq_some_iff`), so a checked request holds the accounts of all its entries,
in their order and with their balances, and the instruction without the blanks around it
(`Request.check_eq_ok_iff`).
-/

namespace Remittance

/-! ## Entries -/

namespace AccountEntry

variable {entry : AccountEntry} {account : Account}

/-- An entry stands for the account without debts that is written like it. -/
lemma account?_eq_some_iff :
    entry.account? = some account ↔ account.entry = entry ∧ account.balance.NonNegative := by
  obtain ⟨id, balance, currency⟩ := entry
  obtain ⟨id', balance', currency'⟩ := account
  simp only [account?, Option.bind_eq_bind, Option.bind_eq_some_iff,
    AccountId.ofString?_eq_some_iff, Currency.ofString?_eq_some_iff, Account.entry,
    AccountEntry.mk.injEq]
  constructor
  · rintro ⟨_, rfl, _, rfl, h⟩
    split at h
    · next hnonNegative =>
      cases h
      exact ⟨⟨rfl, rfl, rfl⟩, hnonNegative⟩
    · cases h
  · rintro ⟨⟨rfl, rfl, rfl⟩, hnonNegative⟩
    exact ⟨_, rfl, _, rfl, if_pos hnonNegative⟩

/-- An entry has no faults just when it stands for an account. -/
lemma faults_eq_nil_iff : entry.faults = [] ↔ ∃ account, entry.account? = some account := by
  unfold faults idFaults balanceFaults currencyFaults account?
  cases AccountId.ofString? entry.id with
  | none => simp
  | some id =>
    cases Currency.ofString? entry.currency with
    | none => simp
    | some currency =>
      by_cases h : entry.balance.NonNegative <;> simp [h]

end AccountEntry

/-! ## Requests -/

namespace Request

variable {request : Request} {checked : CheckedRequest}

lemma entryErrors_eq_nil_iff {position : ℕ} {entries : List AccountEntry} :
    entryErrors position entries = [] ↔ ∀ entry ∈ entries, entry.faults = [] := by
  induction entries generalizing position with
  | nil => simp [entryErrors]
  | cons entry entries ih => simp [entryErrors, ih]

/-- Entries without faults are what their accounts are written as. -/
lemma map_entry_accounts {entries : List AccountEntry}
    (h : ∀ entry ∈ entries, entry.faults = []) :
    (entries.filterMap AccountEntry.account?).map Account.entry = entries := by
  induction entries with
  | nil => rfl
  | cons entry entries ih =>
    rw [List.forall_mem_cons] at h
    obtain ⟨account, haccount⟩ := AccountEntry.faults_eq_nil_iff.mp h.1
    obtain ⟨hentry, -⟩ := AccountEntry.account?_eq_some_iff.mp haccount
    rw [List.filterMap_cons_some haccount, List.map_cons, ih h.2, hentry]

/-- Accounts without debts are the accounts that their entries stand for. -/
lemma filterMap_account?_entries {accounts : List Account}
    (h : ∀ account ∈ accounts, account.balance.NonNegative) :
    (accounts.map Account.entry).filterMap AccountEntry.account? = accounts := by
  induction accounts with
  | nil => rfl
  | cons account accounts ih =>
    rw [List.forall_mem_cons] at h
    have haccount : account.entry.account? = some account :=
      AccountEntry.account?_eq_some_iff.mpr ⟨rfl, h.1⟩
    rw [List.map_cons, List.filterMap_cons_some haccount, ih h.2]

lemma errors_eq_nil_iff : request.errors = [] ↔
    (∀ entry ∈ request.accounts, entry.faults = []) ∧ Text.trim request.instruction.toList ≠ [] := by
  simp [errors, entryErrors_eq_nil_iff, instructionErrors]

/-- A request that passes the checks is one of accounts without debts and of an instruction that is
not blank. -/
theorem check_eq_ok_iff : request.check = .ok checked ↔
    checked.accounts.map Account.entry = request.accounts ∧
      (∀ account ∈ checked.accounts, account.balance.NonNegative) ∧
      checked.instruction = Text.trim request.instruction.toList ∧ checked.instruction ≠ [] := by
  constructor
  · intro h
    unfold check at h
    split at h
    · next herrors =>
      cases h
      obtain ⟨hentries, hinstruction⟩ := errors_eq_nil_iff.mp herrors
      refine ⟨map_entry_accounts hentries, fun account hmem => ?_, rfl, hinstruction⟩
      obtain ⟨entry, -, haccount⟩ := List.mem_filterMap.mp hmem
      exact (AccountEntry.account?_eq_some_iff.mp haccount).2
    · cases h
  · obtain ⟨accounts, instruction⟩ := checked
    rintro ⟨haccounts, hnonNegative, rfl, hinstruction⟩
    simp only at haccounts
    have herrors : request.errors = [] := by
      refine errors_eq_nil_iff.mpr ⟨?_, hinstruction⟩
      rw [← haccounts, List.forall_mem_map]
      intro account hmem
      exact AccountEntry.faults_eq_nil_iff.mpr
        ⟨account, AccountEntry.account?_eq_some_iff.mpr ⟨rfl, hnonNegative account hmem⟩⟩
    rw [check, herrors, ← haccounts, filterMap_account?_entries hnonNegative]

/-- A request that does not pass the checks is told what is wrong with it. -/
lemma ne_nil_of_check_eq_error {errors : List FieldError} (h : request.check = .error errors) :
    errors ≠ [] := by
  unfold check at h
  split at h
  · cases h
  · next hne =>
    cases h
    exact hne

/-- A text that is no request is told one error, and a request that does not pass the checks what is
wrong with it. -/
lemma ne_nil_of_readChecked_eq_error {text : List Char} {errors : List FieldError}
    (h : readChecked text = .error errors) : errors ≠ [] := by
  unfold readChecked read at h
  cases hread : Json.readWhole shape.read text with
  | error failure =>
    rw [hread] at h
    cases h
    exact List.cons_ne_nil _ _
  | ok request =>
    rw [hread] at h
    exact ne_nil_of_check_eq_error h

end Request

end Remittance
