import Remittance.Proofs.Desk.Outcome
/-!
# What a desk reads of the accounts

A desk looks at the accounts that the instruction names and at no other ones, and their order is
nothing to it (`Desk.approve_congr`). So two lists with the same accounts under the two ids get the
same verdict, which is the answer without the accounts that have no part in the transfer, and a list
in another order gets the same reports in that order (`Desk.process_reads_named_accounts`).
-/

namespace Remittance

/-- The instruction asks for a transfer from or to the account with this id. -/
def Instruction.Names (instruction : List Char) (id : AccountId) : Prop :=
  ∃ order, read instruction = .ok order ∧ (id = order.debitAccount ∨ id = order.creditAccount)

/-- Under each id that the instruction names, both lists hold the same accounts, in whatever order. -/
def Instruction.SameAccounts (instruction : List Char) (accounts accounts' : List Account) : Prop :=
  ∀ id, Names instruction id → (accountsWithId accounts' id).Perm (accountsWithId accounts id)

/-- The report on the two accounts of the transfer alone, the debit account first. -/
def Summary.onParties (s : Summary) : Summary :=
  { s with accounts := s.accounts.filter (·.id == s.debitAccount) ++
      s.accounts.filter (·.id == s.creditAccount) }

/-- What an instruction is answered, without the accounts that have no part in it. -/
def Outcome.verdict (outcome : Outcome) : Except Rejection Summary :=
  outcome.result.map Summary.onParties

/-! ## Finding the parties -/

section
variable {accounts accounts' : List Account} {order : TransferOrder} {id : AccountId}

/-- Accounts in another order are found alike: one is found where there is one, and otherwise the
fault only tells how many there are. -/
lemma findAccount_congr (side : Side)
    (h : (accountsWithId accounts' id).Perm (accountsWithId accounts id)) :
    findAccount accounts' side id = findAccount accounts side id := by
  unfold findAccount
  generalize accountsWithId accounts' id = found' at h
  match hfound : accountsWithId accounts id with
  | [] =>
    rw [hfound, List.perm_nil] at h
    rw [h]
  | [account] =>
    rw [hfound, List.perm_singleton] at h
    rw [h]
  | first :: second :: others =>
    have hlength := h.length_eq
    rw [hfound, List.length_cons, List.length_cons] at hlength
    obtain ⟨first', second', others', rfl⟩ : ∃ a b rest, found' = a :: b :: rest := by
      match found', hlength with
      | a :: b :: rest, _ => exact ⟨a, b, rest, rfl⟩
    simp only [List.length_cons] at hlength ⊢
    rw [hlength]

lemma Parties.find_congr
    (hdebit : (accountsWithId accounts' order.debitAccount).Perm
      (accountsWithId accounts order.debitAccount))
    (hcredit : (accountsWithId accounts' order.creditAccount).Perm
      (accountsWithId accounts order.creditAccount)) :
    Parties.find order accounts' = Parties.find order accounts := by
  unfold Parties.find
  rw [findAccount_congr .debit hdebit, findAccount_congr .credit hcredit]

/-- Both lists hold the same accounts under every id if one is the other in another order. -/
lemma Instruction.sameAccounts_of_perm (instruction : List Char) (h : accounts'.Perm accounts) :
    SameAccounts instruction accounts accounts' :=
  fun _ _ => h.filter _

end

/-! ## The reports on the parties -/

/-- The reports under an id are those on the accounts with the id. -/
lemma Execution.filter_report (execution : Execution) (accounts : List Account) (id : AccountId) :
    (accounts.map execution.report).filter (·.id == id) =
      (accountsWithId accounts id).map execution.report := by
  rw [List.filter_map]
  congr 2
  funext a
  simp [execution.id_report]

namespace Desk

variable {desk : Desk} {accounts accounts' : List Account} {instruction : List Char}
  {t : ApprovedTransfer} {settlement : Settlement}

/-- Without the accounts that have no part in it, the report of a transfer lists its own two. -/
lemma CarriesOut.onParties_eq (h : desk.CarriesOut accounts instruction t settlement) :
    (Summary.ofExecution t.order t.currency settlement.execution accounts).onParties =
      { Summary.ofExecution t.order t.currency settlement.execution accounts with
        accounts := [settlement.execution.debit, settlement.execution.credit] } := by
  have hdebit : (accounts.map settlement.execution.report).filter (·.id == t.order.debitAccount) =
      [settlement.execution.debit] := by
    rw [Execution.filter_report, accountsWithId_eq_singleton_iff.mpr h.acceptable.debit_only,
      List.map_singleton, Execution.report_debit h.concerns]
  have hcredit : (accounts.map settlement.execution.report).filter
      (·.id == t.order.creditAccount) = [settlement.execution.credit] := by
    rw [Execution.filter_report, accountsWithId_eq_singleton_iff.mpr h.acceptable.credit_only,
      List.map_singleton, Execution.report_credit h.acceptable h.concerns]
  unfold Summary.onParties
  simp only [Summary.ofExecution, hdebit, hcredit, List.singleton_append]

/-! ## Two lists of accounts -/

/-- The same transfer is approved among two lists with the same accounts under the ids of the
instruction, or both are rejected alike. -/
theorem approve_congr (desk : Desk) (h : Instruction.SameAccounts instruction accounts accounts') :
    desk.approve accounts' instruction = desk.approve accounts instruction := by
  rw [approve_eq, approve_eq]
  cases hread : Instruction.read instruction with
  | error fault => rfl
  | ok order =>
    have hfind : Parties.find order accounts' = Parties.find order accounts :=
      Parties.find_congr (h _ ⟨order, hread, .inl rfl⟩) (h _ ⟨order, hread, .inr rfl⟩)
    simp only [hfind]

/-- Two lists with the same accounts under the ids of the instruction are rejected alike, or the same
transfer is carried out among both and ends in the same way. -/
theorem process_congr (desk : Desk) (h : Instruction.SameAccounts instruction accounts accounts') :
    (∃ rejection, desk.process accounts instruction = ⟨.error rejection, 0⟩ ∧
      desk.process accounts' instruction = ⟨.error rejection, 0⟩) ∨
    ∃ t settlement, desk.CarriesOut accounts instruction t settlement ∧
      desk.CarriesOut accounts' instruction t settlement ∧
      desk.process accounts instruction =
        ⟨.ok (.ofExecution t.order t.currency settlement.execution accounts),
          settlement.gatewayCalls⟩ ∧
      desk.process accounts' instruction =
        ⟨.ok (.ofExecution t.order t.currency settlement.execution accounts'),
          settlement.gatewayCalls⟩ := by
  have hsame := desk.approve_congr h
  cases happrove : desk.approve accounts instruction with
  | error rejection =>
    rw [happrove] at hsame
    exact .inl ⟨rejection, process_of_rejected happrove, process_of_rejected hsame⟩
  | ok t =>
    rw [happrove] at hsame
    exact .inr ⟨t, desk.execute t, carriesOut_of_approve happrove, carriesOut_of_approve hsame,
      process_of_approved happrove, process_of_approved hsame⟩

/-- The verdict is the same for two lists with the same accounts under the ids of the instruction. -/
lemma verdict_congr (desk : Desk) (h : Instruction.SameAccounts instruction accounts accounts') :
    (desk.process accounts' instruction).verdict = (desk.process accounts instruction).verdict := by
  rcases desk.process_congr h with
    ⟨rejection, hreject, hreject'⟩ | ⟨t, settlement, hcarried, hcarried', hprocess, hprocess'⟩
  · rw [hreject, hreject']
  · rw [hprocess, hprocess']
    refine congrArg Except.ok ?_
    rw [hcarried.onParties_eq, hcarried'.onParties_eq]
    rfl

/-- An answer depends on the accounts only by those that the instruction names. Two lists with the
same accounts under its two ids get the same verdict: the same errors, or the same report on the two
accounts of the transfer. The same accounts in another order get the same reports in that order. -/
theorem process_reads_named_accounts (desk : Desk) (instruction : List Char)
    (accounts accounts' : List Account) :
    let outcome := desk.process accounts instruction
    let outcome' := desk.process accounts' instruction
    (Instruction.SameAccounts instruction accounts accounts' →
      outcome'.gatewayCalls = outcome.gatewayCalls ∧
      ((∃ rejection, outcome.result = .error rejection ∧ outcome'.result = .error rejection) ∨
        ∃ summary summary' debit credit, outcome.result = .ok summary ∧
          outcome'.result = .ok summary' ∧ summary'.onParties = summary.onParties ∧
          debit.id = summary.debitAccount ∧ credit.id = summary.creditAccount ∧
          summary.onParties.accounts = [debit, credit])) ∧
    (accounts'.Perm accounts →
      outcome'.gatewayCalls = outcome.gatewayCalls ∧
      ((∃ rejection, outcome.result = .error rejection ∧ outcome'.result = .error rejection) ∨
        ∃ summary report, outcome.result = .ok summary ∧ summary.accounts = accounts.map report ∧
          outcome'.result = .ok { summary with accounts := accounts'.map report })) := by
  constructor
  · intro hsame
    have hverdict := desk.verdict_congr hsame
    rcases desk.process_congr hsame with
      ⟨rejection, hreject, hreject'⟩ | ⟨t, settlement, hcarried, -, hprocess, hprocess'⟩
    · rw [hreject, hreject']
      exact ⟨rfl, .inl ⟨rejection, rfl, rfl⟩⟩
    · rw [hprocess, hprocess'] at hverdict ⊢
      refine ⟨rfl, .inr ⟨_, _, _, _, rfl, rfl, Except.ok.inj hverdict, ?_, ?_,
        congrArg Summary.accounts hcarried.onParties_eq⟩⟩
      · exact hcarried.concerns.debit_id.trans hcarried.acceptable.debit_only.id_eq
      · exact hcarried.concerns.credit_id.trans hcarried.acceptable.credit_only.id_eq
  · intro hperm
    rcases desk.process_congr (Instruction.sameAccounts_of_perm instruction hperm) with
      ⟨rejection, hreject, hreject'⟩ | ⟨t, settlement, -, -, hprocess, hprocess'⟩
    · rw [hreject, hreject']
      exact ⟨rfl, .inl ⟨rejection, rfl, rfl⟩⟩
    · rw [hprocess, hprocess']
      exact ⟨rfl, .inr ⟨_, settlement.execution.report, rfl, rfl, rfl⟩⟩

/-- The same transfer between other bystanders, and with the two accounts in the other order. -/
theorem process_reads_named_accounts_among_others :
    let debit : Account :=
      ⟨⟨"A", by decide, by decide⟩, ⟨false, 100, 0, by decide, by decide⟩, .ngn⟩
    let credit : Account := ⟨⟨"B", by decide, by decide⟩, .zero, .ngn⟩
    let bystander : Account := ⟨⟨"C", by decide, by decide⟩, .zero, .usd⟩
    let desk := Desk.ofSettings [] .hold ⟨2030, 6, 15, by decide, by decide, by decide⟩ .acceptAll
    let instruction := "DEBIT A 60; CREDIT B 60".toList
    let outcome := desk.process [debit, credit] instruction
    (desk.process [bystander, credit, bystander, debit] instruction).gatewayCalls =
        outcome.gatewayCalls ∧
      (∃ summary summary', outcome.result = .ok summary ∧
        (desk.process [bystander, credit, bystander, debit] instruction).result = .ok summary' ∧
        summary'.onParties = summary.onParties) ∧
      ∃ (summary : Summary) (report : Account → Snapshot), outcome.result = .ok summary ∧
        summary.accounts = [report debit, report credit] ∧
        (desk.process [credit, debit] instruction).result =
          .ok { summary with accounts := [report credit, report debit] } := by
  intro debit credit bystander desk instruction outcome
  have hread : Instruction.read instruction =
      .ok ⟨.debit, debit.id, credit.id, ⟨false, 60, 0, by decide, by decide⟩, none, none⟩ := by rfl
  have haccepted : ∀ rejection, outcome.result ≠ .error rejection := by
    intro rejection hresult
    have hrejected : outcome.isRejected = true := by rw [Outcome.isRejected, hresult]
    revert hrejected
    decide +kernel
  have hsame : Instruction.SameAccounts instruction [debit, credit]
      [bystander, credit, bystander, debit] := by
    rintro id ⟨order, horder, hid⟩
    obtain rfl := Except.ok.inj (hread.symm.trans horder)
    rcases hid with rfl | rfl
    · exact .of_eq (by decide +kernel)
    · exact .of_eq (by decide +kernel)
  obtain ⟨hcalls, hverdict⟩ :=
    (process_reads_named_accounts desk instruction [debit, credit]
      [bystander, credit, bystander, debit]).1 hsame
  obtain ⟨-, hreports⟩ :=
    (process_reads_named_accounts desk instruction [debit, credit] [credit, debit]).2
      (.swap debit credit [])
  refine ⟨hcalls, ?_, ?_⟩
  · rcases hverdict with
      ⟨rejection, hresult, -⟩ | ⟨summary, summary', -, -, hresult, hresult', honParties, -⟩
    · exact absurd hresult (haccepted rejection)
    · exact ⟨summary, summary', hresult, hresult', honParties⟩
  · rcases hreports with ⟨rejection, hresult, -⟩ | ⟨summary, report, hresult, haccounts, hresult'⟩
    · exact absurd hresult (haccepted rejection)
    · exact ⟨summary, report, hresult, haccounts, hresult'⟩

end Desk

end Remittance
