import Remittance.Json.Unsigned
import Remittance.Proofs.Decimal.Spelling
import Remittance.Proofs.Json.Tree
/-!
# Records are read as they are written

`Shape.Fills` says that the values of some members, read one after another from their texts, take a
draft to another one. A record whose members fill the empty draft is read back from its text as an
object (`Shape.gives_read`).
-/

namespace Remittance.Json

variable {σ α : Type} {shape : Shape σ α} {draft next last : σ} {record : α}
  {members : List (String × Json)} {rest : List Char} {n bound : ℕ}

/-! ## Fields -/

/-- The field takes the draft to the next one where it reads this value from its text. -/
def Field.Puts (field : Field σ) (draft : σ) (value : Json) (next : σ) : Prop :=
  ∀ rest, EndsNumber rest → Gives (field.read draft (value.render ++ rest)) next rest

lemma Field.puts_of {get : σ → Option α} {set : σ → α → σ} {reader : Reader α} {value : Json}
    {name : String} {a : α} (h : ReadsAs reader value a) :
    (Field.of name get set reader).Puts draft value (set draft a) :=
  fun rest hrest => (h rest hrest).map (set draft)

namespace Shape

/-- These members fill a draft: each is a field that the draft does not have yet. -/
inductive Fills (shape : Shape σ α) : σ → List (String × Json) → σ → Prop
  | nil {draft : σ} : Fills shape draft [] draft
  | cons {draft next last : σ} {key : String} {value : Json} {members : List (String × Json)}
    {field : Field σ} (hfield : shape.field? key = some field)
    (hunset : field.isSet draft = false) (hputs : field.Puts draft value next)
    (hrest : Fills shape next members last) :
    Fills shape draft ((key, value) :: members) last

/-- The members behind the first one are read one by one. -/
lemma finds_readMembers_renderMembers (rest : List Char) (h : shape.Fills draft members last) :
    Finds (shape.readMembers false draft (renderMembers members ++ rest)) last
      ('}' :: rest) := by
  induction h with
  | nil => exact finds_readMembers_close
  | cons hfield hunset hputs _ ih =>
    rw [renderMembers_append, quote_append]
    refine finds_readMembers_next finds_nextMember_comma ?_ ih
    rw [← quote_append]
    exact gives_readMember hfield hunset (hputs _ (endsNumber_renderMembers _ _))

/-- A record is read back from its text as an object. -/
theorem gives_read (rest : List Char) (h : shape.Fills shape.start members last)
    (hfinish : shape.finish last = .ok record) :
    Gives (shape.read ((object members).render ++ rest)) record rest := by
  have hinside (cs : List Char) (hmembers : Finds (shape.readMembers true shape.start cs) last
      ('}' :: rest)) : Gives (shape.read ('{' :: cs)) record rest := by
    have hcomplete : Finds ((shape.readMembers true shape.start cs).bind shape.complete) record
        ('}' :: rest) := by
      obtain ⟨_, hmembers⟩ := hmembers
      simp only [hmembers, Except.bind, complete, hfinish]
      exact ⟨_, rfl⟩
    rw [read, gives_afterBlanks, skipBlanks_cons rfl]
    exact gives_map_widen.mpr (gives_enclosed hcomplete gives_closeObject)
  generalize hstart : shape.start = start at h
  cases h with
  | nil =>
    refine hinside _ ?_
    rw [hstart]
    exact finds_readMembers_close
  | cons hfield hunset hputs hmembers =>
    rw [render_object_append]
    refine hinside _ ?_
    rw [quote_append]
    refine finds_readMembers_next finds_nextMember_first ?_
      (finds_readMembers_renderMembers rest hmembers)
    rw [← quote_append, hstart]
    exact gives_readMember hfield hunset (hputs _ (endsNumber_renderMembers _ _))

end Shape

/-! ## Whole numbers -/

/-- The digits of a number that fits into sixty-four bits spell this number. -/
lemma wholeNumber?_toDigits (hn : n < UInt64.size) :
    wholeNumber? (Nat.toDigits 10 n) = some (n : Int) := by
  have hdigits : ∀ c ∈ Nat.toDigits 10 n, c.isDigit = true := (wholePart_toDigits n).isDigit
  have hvalue : digitsValue (Nat.toDigits 10 n) = n :=
    (Decimal.foldl_digitValue _ 0).trans Nat.ofDigitChars_ten_toDigits
  have hsign : ∀ rest, Nat.toDigits 10 n = '-' :: rest → False := by
    intro rest heq
    have := hdigits '-' (by rw [heq]; exact List.mem_cons_self)
    cases this
  rw [wholeNumber?.eq_2 _ hsign, hvalue, if_pos ⟨List.all_eq_true.mpr hdigits, hn⟩]

/-- A whole number below the bound is read back from its digits. -/
theorem gives_readUnsigned (expected : String) (hn : n < bound) (hbound : bound ≤ UInt64.size)
    (hrest : EndsNumber rest) :
    Gives (readUnsigned expected bound (Nat.toDigits 10 n ++ rest)) n rest := by
  obtain ⟨c, digits, hchars, hc⟩ := (numeral_toDigits n).exists_cons
  have hnumber := gives_readNumber .endInValue (numeral_toDigits n) hrest
  have htext : WholeOrFloat.ofText? (Nat.toDigits 10 n) = some (.whole n) := by
    simp [WholeOrFloat.ofText?, wholeNumber?_toDigits (lt_of_lt_of_le hn hbound)]
  rw [hchars, List.cons_append] at hnumber
  obtain ⟨_, hnumber⟩ := hnumber
  rw [hchars] at htext
  rw [hchars, readUnsigned, gives_afterBlanks, List.cons_append,
    skipBlanks_cons (isBlank_of_startsNumber hc)]
  have hrange : 0 ≤ (n : Int) ∧ (n : Int) < bound := by omega
  simp only [hc, if_true, hnumber, htext, hrange, and_self, bind, Except.bind]
  exact gives_ok _

end Remittance.Json
