import Mathlib.Tactic.Common
import Remittance.Json.Record
import Remittance.Json.Tree
import Remittance.Proofs.Json.Text
/-!
# Between brackets

One step of each loop over the parts of an array or object: the loop gives what it has where the
closing bracket stands (`_close`), and otherwise goes on behind the next part (`_next`). The parts
themselves are whatever the reader of a part gives.
-/

namespace Remittance.Json

variable {α : Type} {cs ds es rest : List Char} {first : Bool} {c : Char} {value : α}

/-! ## Going from part to part -/

lemma finds_nextItem_close (first : Bool) (rest : List Char) :
    Finds (nextItem first (']' :: rest)) false (']' :: rest) := by
  refine ⟨length_le_self _, ?_⟩
  unfold nextItem
  split
  · next heq => cases heq
  · next heq =>
    cases heq
    rfl

lemma finds_nextItem_first (hc : isBlank c = false) (hne : c ≠ ']') :
    Finds (nextItem true (c :: rest)) true (c :: rest) := by
  refine ⟨length_le_self _, ?_⟩
  unfold nextItem
  split
  · next heq => cases (skipBlanks_cons hc).symm.trans heq
  · next heq =>
    cases (skipBlanks_cons hc).symm.trans heq
    rw [if_neg hne, if_pos rfl]

lemma finds_nextItem_comma (hc : isBlank c = false) (hne : c ≠ ']') :
    Finds (nextItem false (',' :: c :: rest)) true (c :: rest) := by
  refine ⟨length_le_cons _ _, ?_⟩
  unfold nextItem
  split
  · next heq => cases heq
  · next heq =>
    cases heq
    rw [if_neg (by decide), if_neg (by decide), if_pos rfl]
    split
    · next heq => cases (skipBlanks_cons hc).symm.trans heq
    · next heq =>
      cases (skipBlanks_cons hc).symm.trans heq
      rw [if_neg hne]

lemma finds_nextMember_close (first : Bool) (rest : List Char) :
    Finds (nextMember first ('}' :: rest)) false ('}' :: rest) := by
  refine ⟨length_le_self _, ?_⟩
  unfold nextMember
  split
  · next heq => cases heq
  · next heq =>
    cases heq
    rfl

lemma finds_nextMember_first : Finds (nextMember true ('"' :: rest)) true ('"' :: rest) := by
  refine ⟨length_le_self _, ?_⟩
  unfold nextMember
  split
  · next heq => cases heq
  · next heq =>
    cases heq
    rfl

lemma finds_nextMember_comma :
    Finds (nextMember false (',' :: '"' :: rest)) true ('"' :: rest) := by
  refine ⟨length_le_cons _ _, ?_⟩
  unfold nextMember
  split
  · next heq => cases heq
  · next heq =>
    cases heq
    rw [if_neg (by decide), if_neg (by decide), if_pos rfl]
    split
    · next heq => cases heq
    · next heq =>
      cases heq
      rfl

lemma gives_closeArray : Gives (closeArray (']' :: rest)) () rest := by
  rw [closeArray, gives_afterBlanks, skipBlanks_cons rfl]
  exact gives_ok _

lemma gives_closeObject : Gives (closeObject ('}' :: rest)) () rest := by
  rw [closeObject, gives_afterBlanks, skipBlanks_cons rfl]
  exact gives_ok _

lemma gives_readColon (rest : List Char) : Gives (readColon (':' :: rest)) () rest := by
  rw [readColon, readMark, gives_afterBlanks, skipBlanks_cons rfl]
  exact gives_ok _

/-- What stands between brackets is given where the bracket is closed. -/
lemma gives_enclosed {close : Reader Unit} {inside : Except Failure (Reached α cs)}
    (hinside : Finds inside value ds) (hclose : Gives (close ds) () rest) :
    Gives (enclosed close inside) value rest := by
  obtain ⟨_, rfl⟩ := hinside
  obtain ⟨_, hclose⟩ := hclose
  simp only [enclosed, hclose]
  exact gives_ok _

@[simp] lemma finds_map_widen {step : Except Failure (Reached α cs)} {h : cs.length ≤ ds.length} :
    Finds (step.map (·.widen h)) value rest ↔ Finds step value rest := by
  constructor
  · rintro ⟨_, heq⟩
    cases step with
    | error failure => cases heq
    | ok p =>
      cases heq
      exact ⟨p.noLonger, rfl⟩
  · rintro ⟨_, rfl⟩
    exact ⟨_, rfl⟩

/-! ## Items -/

section

variable {item : Reader α} {before : List α} {values : List α}

lemma finds_readItems_close :
    Finds (readItems item first before (']' :: rest)) before.reverse (']' :: rest) := by
  obtain ⟨_, hnext⟩ := finds_nextItem_close first rest
  rw [readItems]
  simp only [hnext]
  exact ⟨_, rfl⟩

lemma finds_readItems_next (hnext : Finds (nextItem first cs) true ds)
    (hitem : Gives (item ds) value es)
    (hrest : Finds (readItems item false (value :: before) es) values rest) :
    Finds (readItems item first before cs) values rest := by
  obtain ⟨_, hnext⟩ := hnext
  obtain ⟨_, hitem⟩ := hitem
  rw [readItems]
  simpa only [hnext, hitem, finds_map_widen] using hrest

end

/-! ## Members -/

section

variable {reader : Reader α} {before : List (String × α)} {members : List (String × α)}
  {key : String}

/-- A member is given where its value is. -/
lemma gives_readPair (key : String) (hvalue : Gives (reader ds) value rest) :
    Gives (readPair reader (quote key ++ ':' :: ds)) (key, value) rest := by
  obtain ⟨_, hkey⟩ := gives_readString "field identifier" key (':' :: ds)
  obtain ⟨_, hcolon⟩ := gives_readColon ds
  obtain ⟨_, hvalue⟩ := hvalue
  simp only [readPair, hkey, hcolon, hvalue, bind, Except.bind]
  exact gives_ok _

lemma finds_readPairs_close :
    Finds (readPairs reader first before ('}' :: rest)) before.reverse ('}' :: rest) := by
  obtain ⟨_, hnext⟩ := finds_nextMember_close first rest
  rw [readPairs]
  simp only [hnext]
  exact ⟨_, rfl⟩

lemma finds_readPairs_next (hnext : Finds (nextMember first cs) true ds)
    (hmember : Gives (readPair reader ds) (key, value) es)
    (hrest : Finds (readPairs reader false ((key, value) :: before) es) members rest) :
    Finds (readPairs reader first before cs) members rest := by
  obtain ⟨_, hnext⟩ := hnext
  obtain ⟨_, hmember⟩ := hmember
  rw [readPairs]
  simpa only [hnext, hmember, finds_map_widen] using hrest

end

/-! ## Members of records -/

section

variable {σ : Type} {shape : Shape σ α} {field : Field σ} {draft next last : σ} {key : String}

/-- A member that is a field is put into the draft that does not have it yet. -/
lemma gives_readMember (hfield : shape.field? key = some field) (hunset : field.isSet draft = false)
    (hvalue : Gives (field.read draft ds) next rest) :
    Gives (shape.readMember draft (quote key ++ ':' :: ds)) next rest := by
  obtain ⟨_, hkey⟩ := gives_readString "field identifier" key (':' :: ds)
  obtain ⟨_, hcolon⟩ := gives_readColon ds
  obtain ⟨_, hvalue⟩ := hvalue
  simp only [Shape.readMember, hkey, hcolon, hfield, hunset, hvalue, bind, Except.bind]
  exact gives_ok _

lemma finds_readMembers_close :
    Finds (shape.readMembers first draft ('}' :: rest)) draft ('}' :: rest) := by
  obtain ⟨_, hnext⟩ := finds_nextMember_close first rest
  rw [Shape.readMembers]
  simp only [hnext]
  exact ⟨_, rfl⟩

lemma finds_readMembers_next (hnext : Finds (nextMember first cs) true ds)
    (hmember : Gives (shape.readMember draft ds) next es)
    (hrest : Finds (shape.readMembers false next es) last rest) :
    Finds (shape.readMembers first draft cs) last rest := by
  obtain ⟨_, hnext⟩ := hnext
  obtain ⟨_, hmember⟩ := hmember
  rw [Shape.readMembers]
  simpa only [hnext, hmember, finds_map_widen] using hrest

end

end Remittance.Json
