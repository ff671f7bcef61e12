import Remittance.Envelope.Decoding
import Remittance.Envelope.Encoding
import Remittance.Proofs.Date
import Remittance.Proofs.Decimal.Printing
import Remittance.Proofs.Instruction.Words
import Remittance.Proofs.Json.Tree
/-!
# The data of responses as values

What a response carries is found again in the value that it is written as
(`ResponseData.ofJson?_json`), and this value can be written (`ResponseData.writable_json`). Reports
and lists of errors are not mistaken for each other. Decimals keep their values and their scales, but
a zero comes back without a sign (`ResponseData.unsignZeros`).
-/

namespace Remittance

/-! ## Fields -/

/-- In an object without repeated names, a member is found by its name. -/
lemma Json.member?_eq {members : List (String × Json)} (h : (members.map Prod.fst).Nodup)
    (name : String) : member? members name = some (members.lookup name) := by
  induction members with
  | nil => rfl
  | cons member members ih =>
    obtain ⟨key, value⟩ := member
    obtain ⟨hkey, hmembers⟩ := List.nodup_cons.mp h
    by_cases hname : key = name
    · subst hname
      have hnone : members.filter (·.1 == key) = [] := by
        simp only [List.filter_eq_nil_iff, beq_iff_eq]
        exact fun member hmem heq => hkey (List.mem_map.mpr ⟨member, hmem, heq⟩)
      simp [member?, hnone]
    · have hlookup : ((key, value) :: members).lookup name = members.lookup name := by
        rw [List.lookup_cons, beq_false_of_ne (Ne.symm hname)]
      rw [hlookup, ← ih hmembers]
      simp [member?, hname]

/-- The fields of a record are looked up in an object without repeated names. -/
lemma Json.fields?_object {members : List (String × Json)} (h : (members.map Prod.fst).Nodup)
    (names : List String) : fields? names (.object members) = some (names.map fun name => members.lookup name) := by
  rw [fields?]
  induction names with
  | nil => rfl
  | cons name names ih => simp [member?_eq h, ih]

/-! ## Decimals and names -/

/-- The text of a decimal is the text of a number. -/
lemma Decimal.numeral_toChars (a : Decimal) : Json.Numeral a.toChars := by
  refine ⟨if a.negative then ['-'] else [], a.wholeChars, a.fractionChars, ?_,
    Json.wholePart_toDigits _, ?_, a.toChars_eq⟩
  · split
    · exact .inr rfl
    · exact .inl rfl
  · unfold fractionChars
    split
    · exact .inl rfl
    · next hscale =>
      refine .inr ⟨_, ?_, isDigit_of_mem_fixedDigits, rfl⟩
      rw [← List.length_pos_iff, length_fixedDigits]
      omega

lemma Decimal.ofJson?_json (a : Decimal) : ofJson? a.json = some a.unsignZero := a.read?_toChars

lemma AccountId.ofJson?_text (id : AccountId) : ofJson? (.string id.text) = some id :=
  ofString?_eq_some_iff.mpr rfl

lemma Currency.ofJson?_code (currency : Currency) : ofJson? (.string currency.code) = some currency :=
  ofString?_eq_some_iff.mpr rfl

lemma Date.ofJson?_toString (date : Date) : ofJson? (.string date.toString) = some date := by
  simp [ofJson?, Json.string?, Date.toString, date.read?_toChars]

lemma Side.ofJson?_keyword (side : Side) : ofJson? (.string side.keyword) = some side := by
  cases side <;> rfl

lemma TransferStatus.ofJson?_text (status : TransferStatus) :
    ofJson? (.string status.text) = some status := by
  cases status <;> rfl

lemma StatusCode.ofJson?_text (code : StatusCode) : ofJson? (.string code.text) = some code := by
  cases code <;> rfl

lemma ErrorCode.ofJson?_text (code : ErrorCode) : ofJson? (.string code.text) = some code := by
  cases code <;> rfl

/-! ## Reports -/

/-- The same account, with a zero without a sign for a zero with one. -/
def Snapshot.unsignZeros (s : Snapshot) : Snapshot :=
  { s with balance := s.balance.unsignZero, balanceBefore := s.balanceBefore.unsignZero }

/-- The same report, with a zero without a sign for each zero with one. -/
def Summary.unsignZeros (s : Summary) : Summary :=
  { s with amount := s.amount.unsignZero, accounts := s.accounts.map Snapshot.unsignZeros }

/-- The same data, with a zero without a sign for each zero with one. -/
def ResponseData.unsignZeros : ResponseData → ResponseData
  | .report summary => .report summary.unsignZeros
  | .errorList errors => .errorList errors

lemma Snapshot.ofJson?_json (s : Snapshot) : ofJson? s.json = some s.unsignZeros := by
  simp [ofJson?, json, Json.fields?, Json.member?, AccountId.ofJson?_text, Decimal.ofJson?_json,
    Currency.ofJson?_code, unsignZeros]

/-- Items that are found one by one are found all together. -/
lemma mapM_map_eq_some {α β γ : Type} {f : β → Option γ} {g : α → β} {h : α → γ}
    (hf : ∀ a, f (g a) = some (h a)) (as : List α) : (as.map g).mapM f = some (as.map h) := by
  have hcomp : f ∘ g = fun a => some (h a) := funext hf
  rw [List.mapM_map, hcomp]
  exact List.mapM_pure

/-- The day of settlement is found again, also where there is none. -/
lemma executeByOf?_lookup (day : Option Date) :
    executeByOf? (day.map fun date => .string date.toString) = some day := by
  cases day with
  | none => rfl
  | some date => simp [executeByOf?, Date.ofJson?_toString]

lemma Summary.fields?_json (s : Summary) :
    s.json.fields? ["type", "amount", "currency", "debit_account", "credit_account", "execute_by",
      "status", "status_reason", "status_code", "accounts"] =
    some [some (.string s.side.keyword), some s.amount.json, some (.string s.currency.code),
      some (.string s.debitAccount.text), some (.string s.creditAccount.text),
      s.executeBy.map fun date => .string date.toString, some (.string s.status.text),
      some (.string s.reason), some (.string s.code.text),
      some (.array (s.accounts.map Snapshot.json))] := by
  unfold json
  cases s.executeBy with
  | none =>
    rw [Json.fields?_object (by simp [executeByMember])]
    rfl
  | some date =>
    rw [Json.fields?_object (by simp [executeByMember])]
    rfl

lemma Summary.ofJson?_json (s : Summary) : ofJson? s.json = some s.unsignZeros := by
  have haccounts := mapM_map_eq_some Snapshot.ofJson?_json s.accounts
  -- the names are matched first: `simp` would go through the whole reader for each of them
  rw [ofJson?, fields?_json, Option.bind_eq_bind, Option.bind_some]
  dsimp only
  simp only [Option.bind_eq_bind, Option.bind_some, Option.pure_def, Json.string?, Json.items?,
    executeByOf?_lookup, AccountId.ofJson?_text, Decimal.ofJson?_json, Currency.ofJson?_code,
    Side.ofJson?_keyword, TransferStatus.ofJson?_text, StatusCode.ofJson?_text, haccounts,
    unsignZeros]

/-! ## Errors -/

lemma FieldError.ofJson?_json (e : FieldError) : ofJson? e.json = some e := by
  simp [ofJson?, json, Json.fields?, Json.member?, Json.string?, ErrorCode.ofJson?_text]

lemma errorsOfJson?_json (errors : List FieldError) :
    errorsOfJson? (.object [("errors", .array (errors.map FieldError.json))]) = some errors := by
  have herrors := mapM_map_eq_some FieldError.ofJson?_json errors
  simpa [errorsOfJson?, Json.fields?, Json.member?, Json.items?] using herrors

/-- A list of errors is no report, since it has no side. -/
lemma Summary.ofJson?_errors (errors : List FieldError) :
    ofJson? (.object [("errors", .array (errors.map FieldError.json))]) = none := by
  rw [ofJson?, Json.fields?_object (by simp)]
  rfl

/-! ## Both kinds of data -/

/-- What a response carries is found in the value that it is written as, a report as a report and a
list of errors as a list of errors. -/
theorem ResponseData.ofJson?_json (data : ResponseData) :
    ofJson? data.json = some data.unsignZeros := by
  cases data with
  | report summary => simp [ofJson?, json, Summary.ofJson?_json, unsignZeros]
  | errorList errors =>
    simp [ofJson?, json, Summary.ofJson?_errors, errorsOfJson?_json, unsignZeros]

section

variable (depth : ℕ)

lemma Decimal.writable_json (a : Decimal) : Json.Writable depth a.json :=
  .number a.numeral_toChars

lemma Snapshot.writable_json (s : Snapshot) : Json.Writable (depth + 1) s.json :=
  .object <| by simp [Json.Writable.string, Decimal.writable_json]

lemma Summary.writable_json (s : Summary) : Json.Writable (depth + 3) s.json := by
  have haccounts : Json.Writable (depth + 2) (.array (s.accounts.map Snapshot.json)) :=
    .array (by simp [Snapshot.writable_json])
  have hday : ∀ member ∈ executeByMember s.executeBy, Json.Writable (depth + 2) member.2 := by
    cases s.executeBy with
    | none => simp [executeByMember]
    | some date => simp [executeByMember, Json.Writable.string]
  refine .object (List.forall_mem_append.mpr ⟨List.forall_mem_append.mpr ⟨?_, hday⟩, ?_⟩)
  · simp [Json.Writable.string, Decimal.writable_json]
  · simpa [Json.Writable.string] using haccounts

lemma FieldError.writable_json (e : FieldError) : Json.Writable (depth + 1) e.json :=
  .object <| by simp [Json.Writable.string]

/-- What a response carries can be written. -/
theorem ResponseData.writable_json (data : ResponseData) :
    Json.Writable (depth + 3) data.json := by
  cases data with
  | report summary => exact summary.writable_json depth
  | errorList errors =>
    have herrors : Json.Writable (depth + 2) (.array (errors.map FieldError.json)) :=
      .array (by simp [FieldError.writable_json])
    exact .object (by simpa using herrors)

end

end Remittance
