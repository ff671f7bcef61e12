import Remittance.Proofs.AccountTable
import Remittance.Proofs.Request.Check
import Remittance.Proofs.Request.RoundTrip
/-!
# The entries of a request as records of text

An entry can be written as a record of a table, with its balance as a text. The checks of a request
report everything that is wrong with it, while a record is refused for the first thing that is. They
admit the same entries as the same accounts, and where a record is refused, the first error of its
entry is of the same field (`Request.check_admits_records`).
-/

namespace Remittance

/-- The field at fault. -/
def RecordFault.field : RecordFault → String
  | .id _ => "id"
  | .unreadableBalance _ _ => "balance"
  | .negativeBalance _ _ => "balance"
  | .currency _ => "currency"

namespace AccountEntry

variable {entry : AccountEntry}

/-- The record that an entry is written as. -/
def record (entry : AccountEntry) : AccountRecord :=
  ⟨entry.id, entry.balance.toString, entry.currency⟩

/-! ## One entry -/

lemma readId_cases (entry : AccountEntry) :
    (∃ id, entry.record.readId = .ok id ∧ entry.idFaults = []) ∨
      entry.record.readId = .error (.id entry.id) ∧ entry.idFaults = [.id entry.id] := by
  cases hid : AccountId.ofString? entry.id with
  | none => exact .inr ⟨by simp only [AccountRecord.readId, record, hid], by simp [idFaults, hid]⟩
  | some id =>
    exact .inl ⟨id, by simp only [AccountRecord.readId, record, hid], by simp [idFaults, hid]⟩

lemma readCurrency_cases (entry : AccountEntry) :
    (∃ currency, entry.record.readCurrency = .ok currency ∧ entry.currencyFaults = []) ∨
      entry.record.readCurrency = .error (.currency entry.currency) ∧
        entry.currencyFaults = [.currency entry.currency] := by
  cases hcurrency : Currency.ofString? entry.currency with
  | none =>
    exact .inr ⟨by simp only [AccountRecord.readCurrency, record, hcurrency],
      by simp [currencyFaults, hcurrency]⟩
  | some currency =>
    exact .inl ⟨currency, by simp only [AccountRecord.readCurrency, record, hcurrency],
      by simp [currencyFaults, hcurrency]⟩

/-- The balance of the record is that of the entry, save for the sign of a zero. -/
lemma readBalance_cases (entry : AccountEntry) (id : AccountId) :
    (entry.record.readBalance id = .ok entry.balance.unsignZero ∧ entry.balanceFaults = []) ∨
      entry.record.readBalance id = .error (.negativeBalance entry.balance.unsignZero id) ∧
        entry.balanceFaults = [.balance entry.balance] := by
  have hread : Decimal.read? entry.record.balance.toList = some entry.balance.unsignZero := by
    rw [record, Decimal.toString, String.toList_ofList, Decimal.read?_toChars]
  simp only [AccountRecord.readBalance, hread, Decimal.nonNegative_unsignZero, balanceFaults]
  by_cases h : entry.balance.NonNegative
  · exact .inl ⟨if_pos h, if_pos h⟩
  · exact .inr ⟨if_neg h, if_neg h⟩

/-- The record of an entry without faults is an account, and that of any other entry is refused for
the field of its first fault. -/
lemma account_record_cases (entry : AccountEntry) :
    (entry.faults = [] ∧ ∃ account, entry.record.account = .ok account) ∨
      ∃ fault first others, entry.record.account = .error fault ∧
        entry.faults = first :: others ∧ first.field = fault.field := by
  unfold AccountRecord.account faults
  rcases entry.readId_cases with ⟨id, hid, hnoId⟩ | ⟨hid, hfault⟩
  · rw [hid, hnoId]
    rcases entry.readBalance_cases id with ⟨hbalance, hnoBalance⟩ | ⟨hbalance, hfault⟩
    · rw [hnoBalance]
      simp only [bind, Except.bind, hbalance]
      rcases entry.readCurrency_cases with ⟨currency, hcurrency, hnoCurrency⟩ | ⟨hcurrency, hfault⟩
      · rw [hcurrency, hnoCurrency]
        exact .inl ⟨rfl, _, rfl⟩
      · rw [hcurrency, hfault]
        exact .inr ⟨_, _, _, rfl, rfl, rfl⟩
    · rw [hfault]
      simp only [bind, Except.bind, hbalance]
      exact .inr ⟨_, _, _, rfl, rfl, rfl⟩
  · rw [hid, hfault]
    exact .inr ⟨_, _, _, rfl, rfl, rfl⟩

/-- The record of an entry is an account just when the entry has no faults. -/
lemma exists_account_record_iff :
    (∃ account, entry.record.account = .ok account) ↔ entry.faults = [] := by
  rcases entry.account_record_cases with ⟨hnil, haccount⟩ | ⟨_, _, _, hfault, hfirst, -⟩
  · exact ⟨fun _ => hnil, fun _ => haccount⟩
  · simp [hfault, hfirst]

/-- A refused record is refused for the field of the first fault of its entry. -/
lemma exists_fault_of_record {fault : RecordFault} (h : entry.record.account = .error fault) :
    ∃ first ∈ entry.faults, first.field = fault.field := by
  rcases entry.account_record_cases with ⟨-, _, haccount⟩ | ⟨_, first, _, hfault, hfirst, hfield⟩
  · rw [h] at haccount
    cases haccount
  · obtain rfl := Except.error.inj (h.symm.trans hfault)
    exact ⟨first, hfirst ▸ List.mem_cons_self, hfield⟩

end AccountEntry

/-! ## Requests -/

namespace Request

variable {request : Request} {checked : CheckedRequest}

/-- The accounts that the entries of a request are as records of a table, or the first fault. -/
def recordAccounts (request : Request) : Except RecordFault (List Account) :=
  (request.accounts.map AccountEntry.record).mapM AccountRecord.account

/-- Accounts without debts are read from the records of their entries, save for the sign of a zero.
-/
lemma mapM_account_records {accounts : List Account}
    (h : ∀ account ∈ accounts, account.balance.NonNegative) :
    ((accounts.map Account.entry).map AccountEntry.record).mapM AccountRecord.account =
      .ok (accounts.map Account.unsignZero) := by
  induction accounts with
  | nil => rfl
  | cons account accounts ih =>
    rw [List.forall_mem_cons] at h
    have haccount : account.entry.record.account = .ok account.unsignZero :=
      AccountRecord.account_record h.1
    rw [List.map_cons, List.map_cons, List.mapM_cons, haccount, ih h.2]
    rfl

lemma recordAccounts_of_check (h : request.check = .ok checked) :
    request.recordAccounts = .ok (checked.accounts.map Account.unsignZero) := by
  obtain ⟨hentries, hnonNegative, -⟩ := check_eq_ok_iff.mp h
  rw [recordAccounts, ← hentries]
  exact mapM_account_records hnonNegative

/-- A fault of an entry is among the errors. -/
lemma fieldError_mem_errors {position : ℕ} {entry : AccountEntry} {fault : EntryFault}
    (hentry : request.accounts[position]? = some entry) (hfault : fault ∈ entry.faults) :
    fault.fieldError position ∈ request.errors := by
  rw [errors, entryErrors_eq]
  refine List.mem_append_left _ (List.mem_flatMap.mpr ⟨(entry, position), ?_, ?_⟩)
  · exact List.mem_zipIdx_iff_getElem?.mpr hentry
  · show fault.fieldError position ∈ entry.violations position
    rw [← AccountEntry.map_fieldError_faults]
    exact List.mem_map_of_mem hfault

lemma check_of_errors (h : request.errors ≠ []) : request.check = .error request.errors := by
  unfold check
  split
  · next hnil => exact absurd hnil h
  · rfl

/-- The checks of a request admit an entry just when its record is an account. What passes them are
the accounts of the records, with the same ids and currencies and with balances of the same values
and scales, and these are the same decimals unless one is a zero with a minus sign. Where the record
of an entry is refused, an error is reported of this entry and of the field that the record is
refused for. -/
theorem check_admits_records (request : Request) :
    (request.HasInstruction → ((∃ checked, request.check = .ok checked) ↔
      ∀ entry ∈ request.accounts, ∃ account, entry.record.account = .ok account)) ∧
    (∀ checked, request.check = .ok checked → ∃ accounts,
      request.recordAccounts = .ok accounts ∧
      List.Forall₂ (fun account other => account.entry.Matches other.entry) accounts
        checked.accounts ∧
      (request.SignsNoZero → accounts = checked.accounts)) ∧
    ∀ position entry fault, request.accounts[position]? = some entry →
      entry.record.account = .error fault →
      ∃ errors, request.check = .error errors ∧ ∃ error ∈ errors,
        error.field = AccountEntry.fieldAt position fault.field ∧ error.code = .invalidField := by
  refine ⟨fun hinstruction => ?_, fun checked hchecked => ?_, ?_⟩
  · have hentries : (∀ entry ∈ request.accounts, ∃ account, entry.record.account = .ok account) ↔
        request.errors = [] := by
      simp only [errors_eq_nil_iff, AccountEntry.exists_account_record_iff, ne_eq, trim_eq_nil_iff,
        not_not, hinstruction, and_true]
    rw [hentries]
    refine ⟨fun ⟨checked, hchecked⟩ => ?_, fun herrors => ⟨_, by rw [check, herrors]⟩⟩
    by_contra hne
    rw [check_of_errors hne] at hchecked
    cases hchecked
  · obtain ⟨hentries, -⟩ := check_eq_ok_iff.mp hchecked
    refine ⟨_, recordAccounts_of_check hchecked, ?_, fun hsigns => ?_⟩
    · exact List.forall₂_map_left_iff.mpr
        (List.forall₂_same.mpr fun account _ => account.entry.matches_unsignZero)
    · rw [SignsNoZero, ← hentries, List.forall_mem_map] at hsigns
      exact Account.map_unsignZero_eq_self hsigns
  · intro position entry fault hentry hfault
    obtain ⟨first, hfirst, hfield⟩ := AccountEntry.exists_fault_of_record hfault
    have hmem := fieldError_mem_errors hentry hfirst
    refine ⟨_, check_of_errors (List.ne_nil_of_mem hmem), _, hmem, ?_, rfl⟩
    rw [← hfield]
    rfl

/-- Two accounts pass, one of them with a zero with a minus sign. A record that is wrong in two
fields is refused for the first one. -/
theorem check_admits_records_of_good_and_bad :
    let zero : Decimal := ⟨true, 0, 2, by decide, by decide⟩
    let debt : Decimal := ⟨true, 150, 2, by decide, by decide⟩
    let good : Request := ⟨[⟨"A", zero, "NGN"⟩, ⟨"b-1", debt.neg, "USD"⟩], " x "⟩
    let bad : Request := ⟨[⟨"A", zero, "NGN"⟩, ⟨"b-1", debt, "usd"⟩], ""⟩
    (∃ checked accounts, good.check = .ok checked ∧ good.recordAccounts = .ok accounts ∧
      List.Forall₂ (fun account other => account.entry.Matches other.entry) accounts
        checked.accounts) ∧
    ∃ errors, bad.check = .error errors ∧
      ∃ error ∈ errors, error.field = "accounts[1].balance" ∧ error.code = .invalidField := by
  intro zero debt good bad
  obtain ⟨hadmits, hmatches, -⟩ := check_admits_records good
  obtain ⟨-, -, herrors⟩ := check_admits_records bad
  have hgood : ∀ entry ∈ good.accounts, ∃ account, entry.record.account = .ok account := by
    simp only [AccountEntry.exists_account_record_iff]
    decide +kernel
  obtain ⟨checked, hchecked⟩ := (hadmits ⟨'x', by decide, rfl⟩).mpr hgood
  obtain ⟨accounts, haccounts, hsame, -⟩ := hmatches checked hchecked
  have hbad : (AccountEntry.mk "b-1" debt "usd").record.account =
      .error (.negativeBalance debt ⟨"b-1", by decide, by decide⟩) := by decide +kernel
  exact ⟨⟨checked, accounts, hchecked, haccounts, hsame⟩, herrors 1 _ _ rfl hbad⟩

end Request

end Remittance
