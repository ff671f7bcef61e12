import Remittance.Desk
import Remittance.Proofs.Parties
import Remittance.Proofs.Rules
/-!
# Which instructions a desk carries out

An instruction is carried out exactly when it can be read and its order is acceptable among the
supplied accounts (`TransferOrder.Acceptable`). Every other instruction is rejected by the first
stage that finds a fault, with all that this stage finds.
-/

namespace Remittance

/-- The order may be carried out between two of the accounts. -/
structure TransferOrder.Acceptable (supported : List Currency) (accounts : List Account)
    (order : TransferOrder) (parties : Parties) : Prop where
  debit_only : IsOnlyAccount accounts order.debitAccount parties.debit
  credit_only : IsOnlyAccount accounts order.creditAccount parties.credit
  same_currency : parties.debit.currency = parties.credit.currency
  stated_currency : ∀ stated ∈ order.currency, stated = parties.debit.currency
  amount_pos : 0 < order.amount.toRat
  funds : order.amount.toRat ≤ parties.debit.balance.toRat
  two_accounts : order.debitAccount ≠ order.creditAccount
  supported_currency : supported = [] ∨ parties.debit.currency ∈ supported

section
variable {supported : List Currency} {accounts : List Account} {order : TransferOrder}
  {parties : Parties}

/-- The stated currency of an order is that of the accounts when it is the same. -/
lemma TransferOrder.currencyOf_eq (h : ∀ stated ∈ order.currency, stated = parties.debit.currency) :
    order.currencyOf parties = parties.debit.currency := by
  unfold currencyOf
  cases hstated : order.currency with
  | none => rfl
  | some stated => exact h stated hstated

/-- An order is acceptable when it finds its parties and every rule holds between them. -/
lemma TransferOrder.acceptable_iff :
    order.Acceptable supported accounts parties ↔
      (IsOnlyAccount accounts order.debitAccount parties.debit ∧
        IsOnlyAccount accounts order.creditAccount parties.credit) ∧
      ∀ rule : Rule, rule.Holds supported order parties := by
  constructor
  · intro h
    refine ⟨⟨h.debit_only, h.credit_only⟩, fun rule => ?_⟩
    cases rule with
    | oneCurrency => exact ⟨h.same_currency, h.stated_currency⟩
    | positiveAmount => exact h.amount_pos
    | sufficientFunds => exact h.funds
    | twoAccounts =>
      show parties.debit.id ≠ parties.credit.id
      rw [h.debit_only.id_eq, h.credit_only.id_eq]
      exact h.two_accounts
    | supportedCurrency =>
      show supported = [] ∨ order.currencyOf parties ∈ supported
      rw [currencyOf_eq h.stated_currency]
      exact h.supported_currency
  · rintro ⟨⟨hdebit, hcredit⟩, hrules⟩
    obtain ⟨hsame, hstated⟩ := hrules .oneCurrency
    have htwo : parties.debit.id ≠ parties.credit.id := hrules .twoAccounts
    have hsupported : supported = [] ∨ order.currencyOf parties ∈ supported :=
      hrules .supportedCurrency
    rw [hdebit.id_eq, hcredit.id_eq] at htwo
    rw [currencyOf_eq hstated] at hsupported
    exact ⟨hdebit, hcredit, hsame, hstated, hrules .positiveAmount, hrules .sufficientFunds, htwo,
      hsupported⟩

end

namespace Desk

variable {desk : Desk} {accounts : List Account} {instruction : List Char}

/-! ## The stages -/

/-- The stages one behind the other, each with the rejection that its faults make. -/
lemma approve_eq (desk : Desk) (accounts : List Account) (instruction : List Char) :
    desk.approve accounts instruction =
      match Instruction.read instruction with
      | .error fault => .error (.unreadable fault)
      | .ok order =>
        match Parties.find order accounts with
        | .error faults => .error (.unresolved faults)
        | .ok parties =>
          match order.approve desk.supported parties with
          | .error breaches => .error (.refused breaches)
          | .ok transfer => .ok transfer := by
  unfold approve
  cases Instruction.read instruction with
  | error fault => rfl
  | ok order =>
    simp only [Except.mapError, bind, Except.bind]
    cases Parties.find order accounts with
    | error faults => rfl
    | ok parties =>
      simp only
      cases order.approve desk.supported parties <;> rfl

/-- A transfer is approved just when the instruction reads as its order, which is acceptable between
its parties. -/
lemma approve_eq_ok_iff {transfer : ApprovedTransfer} :
    desk.approve accounts instruction = .ok transfer ↔
      Instruction.read instruction = .ok transfer.order ∧
        transfer.order.Acceptable desk.supported accounts transfer.parties ∧
        transfer.currency = transfer.parties.debit.currency := by
  rw [approve_eq]
  constructor
  · intro h
    split at h
    · cases h
    · next order hread =>
      split at h
      · cases h
      · next parties hfind =>
        split at h
        · cases h
        · next _ happrove =>
          cases h
          obtain ⟨hrules, rfl⟩ := TransferOrder.approve_eq_ok_iff.mp happrove
          have hacceptable := TransferOrder.acceptable_iff.mpr
            ⟨Parties.find_eq_ok_iff.mp hfind, hrules⟩
          exact ⟨hread, hacceptable, TransferOrder.currencyOf_eq hacceptable.stated_currency⟩
  · rintro ⟨hread, hacceptable, hcurrency⟩
    obtain ⟨hparties, hrules⟩ := TransferOrder.acceptable_iff.mp hacceptable
    have happrove : transfer.order.approve desk.supported transfer.parties = .ok transfer := by
      rw [TransferOrder.approve_eq_ok_iff]
      refine ⟨hrules, ?_⟩
      rw [TransferOrder.currencyOf_eq hacceptable.stated_currency, ← hcurrency]
    simp only [hread, Parties.find_eq_ok_iff.mpr hparties, happrove]

lemma approve_eq_unreadable_iff {fault : Instruction.Fault} :
    desk.approve accounts instruction = .error (.unreadable fault) ↔
      Instruction.read instruction = .error fault := by
  rw [approve_eq]
  grind

lemma approve_eq_unresolved_iff {faults : List PartyFault} :
    desk.approve accounts instruction = .error (.unresolved faults) ↔
      ∃ order, Instruction.read instruction = .ok order ∧
        order.partyFaults accounts = faults ∧ faults ≠ [] := by
  rw [approve_eq]
  simp only [← Parties.find_eq_error_iff]
  grind

lemma approve_eq_refused_iff {breaches : List Breach} :
    desk.approve accounts instruction = .error (.refused breaches) ↔
      ∃ order parties, Instruction.read instruction = .ok order ∧
        (IsOnlyAccount accounts order.debitAccount parties.debit ∧
          IsOnlyAccount accounts order.creditAccount parties.credit) ∧
        (Rule.broken desk.supported order parties).map (Rule.breach order parties) = breaches ∧
        breaches ≠ [] := by
  rw [approve_eq]
  simp only [← Parties.find_eq_ok_iff, ← TransferOrder.approve_eq_error_iff]
  grind

/-! ## The outcome of an instruction -/

/-- A processed instruction reports the execution of the transfer that was approved. -/
lemma process_eq_ok_iff {summary : Summary} :
    (desk.process accounts instruction).result = .ok summary ↔
      ∃ transfer, desk.approve accounts instruction = .ok transfer ∧
        summary = .ofExecution transfer.order transfer.currency
          (desk.execute transfer).execution accounts := by
  unfold process
  split <;> grind

lemma process_eq_error_iff {rejection : Rejection} :
    (desk.process accounts instruction).result = .error rejection ↔
      desk.approve accounts instruction = .error rejection := by
  unfold process
  split <;> grind

/-- A rejection carries at least one error. -/
lemma fieldErrors_ne_nil {rejection : Rejection}
    (h : desk.approve accounts instruction = .error rejection) : rejection.fieldErrors ≠ [] := by
  cases rejection with
  | unreadable fault => simp [Rejection.fieldErrors]
  | unresolved faults =>
    obtain ⟨_, -, -, hne⟩ := approve_eq_unresolved_iff.mp h
    simpa [Rejection.fieldErrors] using hne
  | refused breaches =>
    obtain ⟨_, _, -, -, -, hne⟩ := approve_eq_refused_iff.mp h
    simpa [Rejection.fieldErrors] using hne

/-- An instruction is carried out exactly when its order is acceptable, and only then nothing is
reported. Otherwise it is rejected for the one fault that keeps it from being read, or else for every
id that does not occur once, or else for every rule that its order breaks. -/
theorem process_accepts_iff_acceptable (desk : Desk) (accounts : List Account)
    (instruction : List Char) :
    let outcome := desk.process accounts instruction
    ((∃ summary, outcome.result = .ok summary) ↔
      ∃ order parties, Instruction.read instruction = .ok order ∧
        order.Acceptable desk.supported accounts parties) ∧
    (outcome.errors = [] ↔ ∃ summary, outcome.result = .ok summary) ∧
    ∀ rejection, outcome.result = .error rejection ↔
      (∃ fault, Instruction.read instruction = .error fault ∧ rejection = .unreadable fault) ∨
      (∃ order, Instruction.read instruction = .ok order ∧ order.partyFaults accounts ≠ [] ∧
        rejection = .unresolved (order.partyFaults accounts)) ∨
      (∃ order parties, Instruction.read instruction = .ok order ∧
        IsOnlyAccount accounts order.debitAccount parties.debit ∧
        IsOnlyAccount accounts order.creditAccount parties.credit ∧
        Rule.broken desk.supported order parties ≠ [] ∧
        rejection = .refused ((Rule.broken desk.supported order parties).map
          (Rule.breach order parties))) := by
  refine ⟨?_, ?_, fun rejection => ?_⟩
  · constructor
    · rintro ⟨summary, h⟩
      obtain ⟨transfer, happrove, -⟩ := process_eq_ok_iff.mp h
      obtain ⟨hread, hacceptable, -⟩ := approve_eq_ok_iff.mp happrove
      exact ⟨transfer.order, transfer.parties, hread, hacceptable⟩
    · rintro ⟨order, parties, hread, hacceptable⟩
      have happrove : desk.approve accounts instruction =
          .ok ⟨order, parties, parties.debit.currency⟩ :=
        approve_eq_ok_iff.mpr ⟨hread, hacceptable, rfl⟩
      exact ⟨_, process_eq_ok_iff.mpr ⟨_, happrove, rfl⟩⟩
  · unfold Outcome.errors
    split
    · next summary h => simp [h]
    · next rejection h =>
      have hne := fieldErrors_ne_nil (process_eq_error_iff.mp h)
      simp [h, hne]
  · rw [process_eq_error_iff]
    cases rejection with
    | unreadable fault => simp [approve_eq_unreadable_iff]
    | unresolved faults =>
      rw [approve_eq_unresolved_iff]
      grind
    | refused breaches =>
      rw [approve_eq_refused_iff]
      constructor
      · rintro ⟨order, parties, hread, ⟨hdebit, hcredit⟩, rfl, hne⟩
        refine .inr (.inr ⟨order, parties, hread, hdebit, hcredit, ?_, rfl⟩)
        simpa using hne
      · rintro (⟨_, -, h⟩ | ⟨_, -, -, h⟩ | ⟨order, parties, hread, hdebit, hcredit, hne, h⟩)
        · cases h
        · cases h
        · cases h
          exact ⟨order, parties, hread, ⟨hdebit, hcredit⟩, rfl, by simpa using hne⟩

end Desk

end Remittance
