import Mathlib.Data.List.Count
import Mathlib.Tactic.Common
import Remittance.Parties
/-!
# Which accounts an order finds

An order finds its parties exactly when each of its ids occurs once among the supplied accounts.
Otherwise `TransferOrder.partyFaults` lists what is reported: one fault for every id that the order
names and that does not occur once.
-/

namespace Remittance

/-- Account ids are told apart by their texts. -/
lemma AccountId.text_inj {id id' : AccountId} : id.text = id'.text ↔ id = id' := by
  cases id
  cases id'
  simp

/-- How many of the accounts have an id. -/
def occurrences (accounts : List Account) (id : AccountId) : ℕ := (accounts.map Account.id).count id

/-- The account is the only supplied one with the id. -/
structure IsOnlyAccount (accounts : List Account) (id : AccountId) (account : Account) : Prop where
  mem : account ∈ accounts
  id_eq : account.id = id
  once : occurrences accounts id = 1

namespace TransferOrder

/-- The ids that an order names, each once, with the side that it is first named for. -/
def namedIds (order : TransferOrder) : List (Side × AccountId) :=
  if order.debitAccount = order.creditAccount then [(.debit, order.debitAccount)]
  else [(.debit, order.debitAccount), (.credit, order.creditAccount)]

end TransferOrder

/-- What is wrong with an id that does not occur once. -/
def partyFault? (accounts : List Account) (side : Side) (id : AccountId) : Option PartyFault :=
  match occurrences accounts id with
  | 0 => some (.notFound id side)
  | 1 => none
  | n + 2 => some (.ambiguous id (n + 2))

/-- The faults that the ids of an order give rise to. -/
def TransferOrder.partyFaults (order : TransferOrder) (accounts : List Account) : List PartyFault :=
  order.namedIds.filterMap fun (side, id) => partyFault? accounts side id

section
variable {accounts : List Account} {id : AccountId} {account : Account}

/-! ## One id -/

lemma length_accountsWithId (accounts : List Account) (id : AccountId) :
    (accountsWithId accounts id).length = occurrences accounts id := by
  rw [accountsWithId, occurrences, List.count, List.countP_map, List.countP_eq_length_filter]
  rfl

lemma mem_accountsWithId : account ∈ accountsWithId accounts id ↔
    account ∈ accounts ∧ account.id = id := by
  simp [accountsWithId]

/-- The accounts with an id are a single one just when it is the only one. -/
lemma accountsWithId_eq_singleton_iff :
    accountsWithId accounts id = [account] ↔ IsOnlyAccount accounts id account := by
  have hlength := length_accountsWithId accounts id
  constructor
  · intro h
    have hmem : account ∈ accountsWithId accounts id := by simp [h]
    obtain ⟨hin, hid⟩ := mem_accountsWithId.mp hmem
    exact ⟨hin, hid, by rw [← hlength, h, List.length_singleton]⟩
  · rintro ⟨hin, hid, honce⟩
    obtain ⟨other, hother⟩ := List.length_eq_one_iff.mp (hlength.trans honce)
    have hmem : account ∈ accountsWithId accounts id := mem_accountsWithId.mpr ⟨hin, hid⟩
    rw [hother, List.mem_singleton] at hmem
    rw [hother, hmem]

/-- Two supplied accounts with an id that occurs once are the same. -/
lemma IsOnlyAccount.unique (h : IsOnlyAccount accounts id account) {other : Account}
    (hmem : other ∈ accounts) (hid : other.id = id) : other = account := by
  have hother : other ∈ accountsWithId accounts id := mem_accountsWithId.mpr ⟨hmem, hid⟩
  rw [accountsWithId_eq_singleton_iff.mpr h, List.mem_singleton] at hother
  exact hother

lemma findAccount_eq_ok_iff (side : Side) :
    findAccount accounts side id = .ok account ↔ IsOnlyAccount accounts id account := by
  rw [← accountsWithId_eq_singleton_iff]
  unfold findAccount
  split <;> simp_all

/-- Looking up an id reports the fault of its number of occurrences. -/
lemma findAccount_eq_error_iff (side : Side) {fault : PartyFault} :
    findAccount accounts side id = .error fault ↔ partyFault? accounts side id = some fault := by
  have hlength := length_accountsWithId accounts id
  unfold findAccount partyFault?
  rw [← hlength]
  split
  · next h => simp [h]
  · next h => simp [h]
  · next hzero hone =>
    -- neither none nor one, so there are at least two
    match accountsWithId accounts id, hzero, hone with
    | [], hzero, _ => exact absurd rfl hzero
    | [a], _, hone => exact absurd rfl (hone a)
    | a :: b :: rest, _, _ => simp

/-! ## Both ids -/

variable {order : TransferOrder} {parties : Parties}

/-- An order finds its parties just when each of its ids occurs once. -/
lemma Parties.find_eq_ok_iff :
    Parties.find order accounts = .ok parties ↔
      IsOnlyAccount accounts order.debitAccount parties.debit ∧
        IsOnlyAccount accounts order.creditAccount parties.credit := by
  obtain ⟨debit, credit⟩ := parties
  unfold Parties.find
  by_cases hself : order.IsSelfTransfer
  · have hid : order.creditAccount = order.debitAccount := hself.symm
    rw [hid, ← findAccount_eq_ok_iff .debit, ← findAccount_eq_ok_iff .debit]
    simp only [if_pos hself]
    cases findAccount accounts .debit order.debitAccount <;> simp
  · rw [← findAccount_eq_ok_iff .debit, ← findAccount_eq_ok_iff .credit]
    simp only [if_neg hself]
    cases findAccount accounts .debit order.debitAccount <;>
      cases findAccount accounts .credit order.creditAccount <;> simp

/-- The fault of an id is the one that looking it up reports. -/
lemma partyFault?_eq (side : Side) (id : AccountId) :
    partyFault? accounts side id =
      match findAccount accounts side id with
      | .ok _ => none
      | .error fault => some fault := by
  cases hfind : findAccount accounts side id with
  | ok a =>
    by_contra hne
    obtain ⟨fault, hfault⟩ := Option.ne_none_iff_exists'.mp hne
    rw [(findAccount_eq_error_iff side).mpr hfault] at hfind
    cases hfind
  | error fault => exact (findAccount_eq_error_iff side).mp hfind

/-- An order that does not find its parties reports the faults of its ids. -/
lemma Parties.find_eq_error_iff {faults : List PartyFault} :
    Parties.find order accounts = .error faults ↔
      order.partyFaults accounts = faults ∧ faults ≠ [] := by
  unfold Parties.find TransferOrder.partyFaults TransferOrder.namedIds
  by_cases hself : order.IsSelfTransfer
  · have hid : order.debitAccount = order.creditAccount := hself
    simp only [if_pos hself, if_pos hid, List.filterMap_cons, List.filterMap_nil, partyFault?_eq]
    cases findAccount accounts .debit order.debitAccount <;> grind
  · have hid : order.debitAccount ≠ order.creditAccount := hself
    simp only [if_neg hself, if_neg hid, List.filterMap_cons, List.filterMap_nil, partyFault?_eq]
    cases findAccount accounts .debit order.debitAccount <;>
      cases findAccount accounts .credit order.creditAccount <;> grind

end

end Remittance
