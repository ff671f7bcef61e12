import Remittance.Proofs.Decimal.Value
import Remittance.Proofs.Request
import Remittance.Proofs.Text.Spacing
/-!
# What is reported of a request

`Request.IsValid` says of a request that every id, balance and currency in it is a proper one and
that its instruction is not blank, and `Request.violations` lists where this fails, position by
position and field by field. A valid request passes the checks with everything that it brings, and
any other one is told its violations and nothing else (`Request.check_exact`).
-/

namespace Remittance

/-! ## Proper fields -/

/-- An account id is one or more letters and digits of ASCII, dashes, points and at signs. -/
def AccountId.IsSpelled (text : String) : Prop :=
  text.toList ≠ [] ∧ ∀ c ∈ text.toList, c.isAlphanum = true ∨ c = '-' ∨ c = '.' ∨ c = '@'

/-- A currency is three capital letters of ASCII. -/
def Currency.IsSpelled (code : String) : Prop :=
  code.toList.length = 3 ∧ ∀ c ∈ code.toList, c.isUpper = true

instance (text : String) : Decidable (AccountId.IsSpelled text) :=
  inferInstanceAs (Decidable (_ ∧ _))

instance (code : String) : Decidable (Currency.IsSpelled code) :=
  inferInstanceAs (Decidable (_ ∧ _))

lemma AccountId.isSome_ofString?_iff {text : String} :
    (ofString? text).isSome = true ↔ IsSpelled text := by
  have hallowed : text.toList.all isAllowed = true ↔
      ∀ c ∈ text.toList, c.isAlphanum = true ∨ c = '-' ∨ c = '.' ∨ c = '@' := by
    simp [isAllowed, or_assoc]
  unfold ofString? IsSpelled
  rw [← hallowed]
  split <;> simp_all

lemma Currency.isSome_ofString?_iff {code : String} :
    (ofString? code).isSome = true ↔ IsSpelled code := by
  unfold ofString? IsSpelled
  rw [← List.all_eq_true]
  split <;> simp_all

/-- The error of a field that is not proper, where this does not hold. -/
def FieldError.unless (proper : Prop) [Decidable proper] (field message : String) :
    List FieldError :=
  if proper then [] else [⟨field, message, .invalidField⟩]

@[simp] lemma FieldError.unless_eq_nil_iff {proper : Prop} [Decidable proper]
    {field message : String} : FieldError.unless proper field message = [] ↔ proper := by
  simp [FieldError.unless]

namespace AccountEntry

/-- Every field of the entry is a proper one. -/
structure IsValid (entry : AccountEntry) : Prop where
  id : AccountId.IsSpelled entry.id
  balance : 0 ≤ entry.balance.toRat
  currency : Currency.IsSpelled entry.currency

/-- How a field of the entry at this position is named. -/
def fieldAt (position : ℕ) (name : String) : String := s!"accounts[{position}].{name}"

/-- The errors of the entry at this position, in the order of its fields. -/
def violations (position : ℕ) (entry : AccountEntry) : List FieldError :=
  FieldError.unless (AccountId.IsSpelled entry.id) (fieldAt position "id")
    (AccountId.faultMessage entry.id) ++
  FieldError.unless (0 ≤ entry.balance.toRat) (fieldAt position "balance")
    s!"balance must not be negative, got {entry.balance}" ++
  FieldError.unless (Currency.IsSpelled entry.currency) (fieldAt position "currency")
    (Currency.faultMessage entry.currency)

lemma violations_eq_nil_iff {position : ℕ} {entry : AccountEntry} :
    entry.violations position = [] ↔ entry.IsValid := by
  simp only [violations, List.append_eq_nil_iff, FieldError.unless_eq_nil_iff]
  constructor
  · rintro ⟨⟨hid, hbalance⟩, hcurrency⟩
    exact ⟨hid, hbalance, hcurrency⟩
  · rintro ⟨hid, hbalance, hcurrency⟩
    exact ⟨⟨hid, hbalance⟩, hcurrency⟩

/-- The faults of an entry are reported as its violations. -/
lemma map_fieldError_faults (position : ℕ) (entry : AccountEntry) :
    entry.faults.map (EntryFault.fieldError position) = entry.violations position := by
  unfold faults idFaults balanceFaults currencyFaults violations FieldError.unless
  simp only [AccountId.isSome_ofString?_iff, Currency.isSome_ofString?_iff,
    Decimal.nonNegative_iff, List.map_append]
  congr 1
  · congr 1
    · split <;> rfl
    · split <;> rfl
  · split <;> rfl

end AccountEntry

/-! ## Requests -/

namespace Request

variable {request : Request}

/-- Some character of the instruction is not blank. -/
def HasInstruction (request : Request) : Prop :=
  ∃ c ∈ request.instruction.toList, Text.isBlank c = false

instance (request : Request) : Decidable request.HasInstruction :=
  inferInstanceAs (Decidable (∃ c ∈ request.instruction.toList, Text.isBlank c = false))

/-- Every entry of the request is valid, and its instruction is not blank. -/
structure IsValid (request : Request) : Prop where
  entries : ∀ entry ∈ request.accounts, entry.IsValid
  instruction : request.HasInstruction

/-- The errors of the request: those of its entries, one position after the other, and then that of
its instruction. -/
def violations (request : Request) : List FieldError :=
  (request.accounts.zipIdx.flatMap fun (entry, position) => entry.violations position) ++
    FieldError.unless request.HasInstruction "instruction" "instruction is required"

lemma violations_eq_nil_iff : request.violations = [] ↔ request.IsValid := by
  rw [violations, List.append_eq_nil_iff, FieldError.unless_eq_nil_iff, List.flatMap_eq_nil_iff]
  simp only [AccountEntry.violations_eq_nil_iff]
  constructor
  · rintro ⟨hentries, hinstruction⟩
    refine ⟨fun entry hentry => ?_, hinstruction⟩
    obtain ⟨position, hposition, rfl⟩ := List.mem_iff_getElem.mp hentry
    exact hentries (_, position) (by simp [List.mem_zipIdx_iff_getElem?, hposition])
  · rintro ⟨hentries, hinstruction⟩
    exact ⟨fun entry hentry => hentries entry.1 (List.fst_mem_of_mem_zipIdx hentry), hinstruction⟩

/-- The errors of the entries from one position on are their violations. -/
lemma entryErrors_eq (position : ℕ) (entries : List AccountEntry) :
    entryErrors position entries =
      (entries.zipIdx position).flatMap fun (entry, position) => entry.violations position := by
  induction entries generalizing position with
  | nil => rfl
  | cons entry entries ih =>
    rw [entryErrors, AccountEntry.map_fieldError_faults, ih, List.zipIdx_cons, List.flatMap_cons]

/-- Something is left of a trimmed instruction just when it is not blank. -/
lemma trim_eq_nil_iff : Text.trim request.instruction.toList = [] ↔ ¬ request.HasInstruction := by
  rw [Text.trim_eq_nil_iff, HasInstruction]
  simp only [not_exists, not_and, Bool.not_eq_false]

lemma errors_eq_violations (request : Request) : request.errors = request.violations := by
  rw [errors, violations, entryErrors_eq, instructionErrors, FieldError.unless]
  by_cases hinstruction : request.HasInstruction
  · rw [if_neg fun hnil => trim_eq_nil_iff.mp hnil hinstruction, if_pos hinstruction]
  · rw [if_pos (trim_eq_nil_iff.mpr hinstruction), if_neg hinstruction]
    rfl

/-- What the checks make of a request. Where every field is proper, the request passes with all of
its accounts, in their order and as they are, and with its instruction trimmed. Where some field is
not, the errors are those of the fields that are not. -/
theorem check_exact (request : Request) :
    (request.IsValid ∧ ∃ checked, request.check = .ok checked ∧
      checked.accounts.map Account.entry = request.accounts ∧
      Text.TrimsTo request.instruction.toList checked.instruction) ∨
    (¬ request.IsValid ∧ request.check = .error request.violations) := by
  rw [← violations_eq_nil_iff, ← errors_eq_violations]
  unfold check
  split
  · next hnone =>
    obtain ⟨hentries, -⟩ := errors_eq_nil_iff.mp hnone
    exact .inl ⟨hnone, _, rfl, map_entry_accounts hentries, Text.trimsTo_trim _⟩
  · next herrors => exact .inr ⟨herrors, rfl⟩

end Request

end Remittance
