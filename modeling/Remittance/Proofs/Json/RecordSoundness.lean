import Remittance.Json.Lookup
import Remittance.Json.Record
import Remittance.Proofs.Json.Soundness
/-!
# Records are read from what tells them

`Shape.Tells` says which values tell a record: an object of its fields, among which others may stand,
or the array of its fields in their order. A reader of records takes nothing else
(`Shape.reads_read`), and a field of an object that tells a record is told once
(`Shape.Collects.member?_eq`).
-/

namespace Remittance.Json

variable {σ α β : Type} {cs rest : List Char} {first : Bool} {shape : Shape σ α}
  {puts : String → Json → σ → σ → Prop} {draft last : σ} {members : List (String × Json)}
  {name : String} {stands : Json → β → Prop}

/-! ## Fields -/

/-- The field reads values that put it into a draft. -/
def Field.Fits (field : Field σ) (puts : Json → σ → σ → Prop) : Prop :=
  ∀ draft, Reads (field.read draft) fun value next => puts value draft next

lemma Field.fits_of {get : σ → Option β} {set : σ → β → σ} {reader : Reader β}
    (h : Reads reader stands) :
    (Field.of name get set reader).Fits fun value draft next =>
      ∃ b, stands value b ∧ next = set draft b := by
  intro draft cs p hread hrest
  obtain ⟨q, hq, rfl⟩ := map_eq_ok_iff.mp hread
  obtain ⟨value, hvalue, hstands⟩ := h hq hrest
  exact ⟨value, hvalue, q.value, hstands, rfl⟩

namespace Shape

/-- The fields of the shape read values that put them into a draft, each by its name. -/
def Fits (shape : Shape σ α) (puts : String → Json → σ → σ → Prop) : Prop :=
  ∀ field ∈ shape.fields, field.Fits (puts field.name)

lemma Fits.of_field? {field : Field σ} (h : shape.Fits puts) (hfield : shape.field? name = some field) :
    field.Fits (puts name) := by
  have hname : field.name = name := by simpa using List.find?_some hfield
  rw [← hname]
  exact h field (List.mem_of_find?_eq_some hfield)

/-- The members take a draft to another one. A member that is a field is put into the draft, which
does not have it yet, and others leave it as it is. -/
inductive Collects (shape : Shape σ α) (puts : String → Json → σ → σ → Prop) :
    σ → List (String × Json) → σ → Prop
  | nil {draft : σ} : Collects shape puts draft [] draft
  | field {draft next last : σ} {key : String} {value : Json} {members : List (String × Json)}
    {field : Field σ} (hfield : shape.field? key = some field)
    (hunset : field.isSet draft = false) (hputs : puts key value draft next)
    (hmembers : Collects shape puts next members last) :
    Collects shape puts draft ((key, value) :: members) last
  | other {draft last : σ} {key : String} {value : Json} {members : List (String × Json)}
    (hfield : shape.field? key = none) (hmembers : Collects shape puts draft members last) :
    Collects shape puts draft ((key, value) :: members) last

/-- The values take a draft to another one, one for each of the fields. -/
inductive Lists (puts : String → Json → σ → σ → Prop) : σ → List (Field σ) → List Json → σ → Prop
  | nil {draft : σ} : Lists puts draft [] [] draft
  | cons {draft next last : σ} {field : Field σ} {fields : List (Field σ)} {value : Json}
    {values : List Json} (hputs : puts field.name value draft next)
    (hvalues : Lists puts next fields values last) :
    Lists puts draft (field :: fields) (value :: values) last

lemma Lists.exists_cons {field : Field σ} {fields : List (Field σ)} {items : List Json}
    (h : Lists puts draft (field :: fields) items last) :
    ∃ value values next, items = value :: values ∧ puts field.name value draft next ∧
      Lists puts next fields values last := by
  cases h with
  | cons hputs hvalues => exact ⟨_, _, _, rfl, hputs, hvalues⟩

lemma Lists.eq_nil {items : List Json} (h : Lists puts draft [] items last) :
    items = [] ∧ last = draft := by
  cases h
  exact ⟨rfl, rfl⟩

/-- The value tells the record: as an object, or as the array of the fields. -/
def Tells (shape : Shape σ α) (puts : String → Json → σ → σ → Prop) (value : Json) (record : α) :
    Prop :=
  ∃ last, shape.finish last = .ok record ∧
    ((∃ members, value = .object members ∧ shape.Collects puts shape.start members last) ∨
      ∃ items, value = .array items ∧ Lists puts shape.start shape.fields items last)

/-! ## Reading -/

/-- A member is read into a draft, or passed over. -/
lemma exists_of_readMember {p : Parsed σ cs} (hfits : shape.Fits puts)
    (h : shape.readMember draft cs = .ok p) (hrest : EndsValue p.rest) :
    ∃ key value ds, Labels key cs ds ∧ Spells (.value value) ds p.rest ∧
      ∀ {members last}, shape.Collects puts p.value members last →
        shape.Collects puts draft ((key, value) :: members) last := by
  obtain ⟨key, hkey, h⟩ := bind_eq_ok_iff.mp h
  split at h
  · next hfield =>
    -- no field has this key, so the value is passed over
    obtain ⟨colon, hcolon, h⟩ := bind_eq_ok_iff.mp h
    obtain ⟨value, hvalue, h⟩ := bind_eq_ok_iff.mp h
    cases h
    obtain ⟨v, hv, -⟩ := reads_skipValue hvalue hrest
    exact ⟨key.value, v, colon.rest, labels_of_readString hkey hcolon, hv, .other hfield⟩
  · next field hfield =>
    split at h
    -- a field that the draft has already is refused
    · cases h
    next hunset =>
    obtain ⟨colon, hcolon, h⟩ := bind_eq_ok_iff.mp h
    obtain ⟨value, hvalue, h⟩ := bind_eq_ok_iff.mp h
    cases h
    obtain ⟨v, hv, hputs⟩ := hfits.of_field? hfield draft hvalue hrest
    exact ⟨key.value, v, colon.rest, labels_of_readString hkey hcolon, hv,
      .field hfield (Bool.eq_false_iff.mpr hunset) hputs⟩

/-- What is read one after another are the members of an object. -/
lemma exists_spells_of_readMembers {p : Reached σ cs} (hfits : shape.Fits puts)
    (h : shape.readMembers first draft cs = .ok p) (hclose : skipBlanks p.rest = '}' :: rest) :
    ∃ members, Spells (.members first members) cs rest ∧ shape.Collects puts draft members p.value := by
  induction hsize : cs.length using Nat.strong_induction_on generalizing first draft cs with
  | _ size ih =>
    subst hsize
    rw [readMembers] at h
    split at h
    · cases h
    · next behind hle hnext =>
      cases h
      have hcs : skipBlanks behind = skipBlanks cs := advances_nextMember hnext
      exact ⟨[], .noMember (hcs.symm.trans hclose), .nil⟩
    · next behind hle hnext =>
      obtain ⟨ds, hseparates, hds⟩ := advances_nextMember hnext
      split at h
      · cases h
      next member hmember =>
      obtain ⟨q, hq, rfl⟩ := map_eq_ok_iff.mp h
      have hshorter : member.rest.length < cs.length := Nat.lt_of_lt_of_le member.shorter hle
      -- the members behind this one come first, as they are what ends its value
      obtain ⟨members, hmembers, hcollects⟩ := ih _ hshorter hq hclose rfl
      obtain ⟨key, value, es, hkey, hvalue, hcollect⟩ :=
        exists_of_readMember hfits hmember hmembers.endsValue_members
      exact ⟨(key, value) :: members, .member hseparates (hkey.of_skipBlanks hds) hvalue hmembers,
        hcollect hcollects⟩

/-- What is read for the fields in their order are the items of an array. -/
lemma exists_spells_of_readInOrder {taken : ℕ} {fields : List (Field σ)} {p : Reached σ cs}
    (hfits : ∀ field ∈ fields, field.Fits (puts field.name))
    (h : shape.readInOrder draft taken fields cs = .ok p)
    (hclose : skipBlanks p.rest = ']' :: rest) :
    ∃ items, Spells (.items (taken == 0) items) cs rest ∧ Lists puts draft fields items p.value := by
  induction fields generalizing draft taken cs with
  | nil =>
    cases h
    exact ⟨[], .noItem hclose, .nil⟩
  | cons field fields ih =>
    obtain ⟨hfield, hfits⟩ := List.forall_mem_cons.mp hfits
    rw [readInOrder] at h
    split at h
    · cases h
    · cases h
    next behind hle hnext =>
    obtain ⟨ds, hseparates, hds⟩ := advances_nextItem hnext
    split at h
    · cases h
    next item hitem =>
    obtain ⟨q, hq, rfl⟩ := map_eq_ok_iff.mp h
    obtain ⟨items, hitems, hlists⟩ := ih hfits hq hclose
    obtain ⟨value, hvalue, hputs⟩ := hfield draft hitem hitems.endsValue_items
    exact ⟨value :: items, .item hseparates (Spells.of_skipBlanks (hds ▸ hvalue)) hitems,
      .cons hputs hlists⟩

lemma exists_of_complete {inside : Except Failure (Reached σ cs)} {p : Reached α cs}
    (h : inside.bind shape.complete = .ok p) :
    ∃ q, inside = .ok q ∧ shape.finish q.value = .ok p.value ∧ q.rest = p.rest := by
  obtain ⟨q, hq, h⟩ := bind_eq_ok_iff.mp h
  unfold complete at h
  split at h
  · next record hfinish =>
    cases h
    exact ⟨q, hq, hfinish, rfl⟩
  · cases h

/-- A record is read from a value that tells it. -/
theorem reads_read (hfits : shape.Fits puts) : Reads shape.read (shape.Tells puts) := by
  refine Reads.afterBlanks fun cs p hread _ => ?_
  cases cs with
  | nil => cases hread
  | cons c behind =>
    simp only at hread
    split_ifs at hread with hobject harray
    · subst hobject
      obtain ⟨q, hq, rfl⟩ := map_eq_ok_iff.mp hread
      obtain ⟨inside, hinside, hrecord, hclose⟩ := exists_of_enclosed skipBlanks_of_closeObject hq
      obtain ⟨last, hlast, hfinish, hend⟩ := exists_of_complete hinside
      rw [← hend] at hclose
      rw [hrecord] at hfinish
      obtain ⟨members, hmembers, hcollects⟩ := exists_spells_of_readMembers hfits hlast hclose
      exact ⟨.object members, .object rfl hmembers, last.value, hfinish,
        .inl ⟨members, rfl, hcollects⟩⟩
    · subst harray
      obtain ⟨q, hq, rfl⟩ := map_eq_ok_iff.mp hread
      obtain ⟨inside, hinside, hrecord, hclose⟩ := exists_of_enclosed skipBlanks_of_closeArray hq
      obtain ⟨last, hlast, hfinish, hend⟩ := exists_of_complete hinside
      rw [← hend] at hclose
      rw [hrecord] at hfinish
      obtain ⟨items, hitems, hlists⟩ := exists_spells_of_readInOrder hfits hlast hclose
      exact ⟨.array items, .array rfl hitems, last.value, hfinish, .inr ⟨items, rfl, hlists⟩⟩

end Shape

/-- The value of a whole text is read from it. -/
lemma exists_of_readWhole {reader : Reader α} {stands : Json → α → Prop} {text : List Char} {a : α}
    (hreader : Reads reader stands) (h : readWhole reader text = .ok a) :
    ∃ value, IsTextOf text value ∧ stands value a := by
  obtain ⟨p, hp, h⟩ := bind_eq_ok_iff.mp h
  split at h
  · next hrest =>
    cases h
    obtain ⟨value, hvalue, hstands⟩ := hreader hp (.of_skipBlanks (by rw [hrest]; exact endsValue_nil))
    exact ⟨value, ⟨p.rest, hvalue, hrest⟩, hstands⟩
  · cases h

/-! ## Looking fields up -/

namespace Shape

/-- A draft keeps the field of this name where `get` finds it, and no other field changes it. -/
structure Keeps (shape : Shape σ α) (puts : String → Json → σ → σ → Prop) (name : String)
    (get : σ → Option β) (stands : Json → β → Prop) : Prop where
  isSet : ∃ field, shape.field? name = some field ∧ ∀ draft, field.isSet draft = (get draft).isSome
  own : ∀ {value draft next}, puts name value draft next → ∃ b, get next = some b ∧ stands value b
  others : ∀ {key value draft next}, key ≠ name → puts key value draft next → get next = get draft

/-- A field that a draft has stays as it is, and one that it lacks is told by one member. -/
lemma Collects.get_eq {get : σ → Option β} (hkeeps : shape.Keeps puts name get stands)
    (h : shape.Collects puts draft members last) :
    (∀ b, get draft = some b → get last = some b ∧ members.filter (·.1 == name) = []) ∧
    (get draft = none → ∀ b, get last = some b →
      ∃ value, members.filter (·.1 == name) = [(name, value)] ∧ stands value b) := by
  -- both parts at once: the member of this name takes the draft from the second to the first
  induction h with
  | nil => exact ⟨fun b hb => ⟨hb, rfl⟩, fun hnone b hb => (nomatch hnone.symm.trans hb)⟩
  | @field draft next last key value members field hfield hunset hputs _ ih =>
    by_cases hkey : key = name
    · subst hkey
      obtain ⟨own, hown, hisSet⟩ := hkeeps.isSet
      obtain rfl : field = own := Option.some.inj (hfield.symm.trans hown)
      have hnone : get draft = none := by
        rw [hisSet] at hunset
        simpa using hunset
      obtain ⟨a, ha, hstands⟩ := hkeeps.own hputs
      obtain ⟨hlast, hothers⟩ := ih.1 a ha
      refine ⟨fun b hb => (nomatch hnone.symm.trans hb), fun _ b hb => ⟨value, ?_, ?_⟩⟩
      · rw [List.filter_cons_of_pos (by simp), hothers]
      · rwa [Option.some.inj (hb.symm.trans hlast)]
    · rw [List.filter_cons_of_neg (by simpa using hkey), ← hkeeps.others hkey hputs]
      exact ih
  | @other draft last key value members hfield _ ih =>
    have hkey : key ≠ name := by
      rintro rfl
      obtain ⟨field, hsome, -⟩ := hkeeps.isSet
      cases hfield.symm.trans hsome
    rw [List.filter_cons_of_neg (by simpa using hkey)]
    exact ih

/-- A field of an object that tells a record is told by the one member of its name. -/
theorem Collects.member?_eq {get : σ → Option β} {b : β} (hkeeps : shape.Keeps puts name get stands)
    (h : shape.Collects puts draft members last) (hstart : get draft = none)
    (hlast : get last = some b) :
    ∃ value, member? members name = some (some value) ∧ stands value b := by
  obtain ⟨value, hfilter, hstands⟩ := (h.get_eq hkeeps).2 hstart b hlast
  exact ⟨value, by rw [member?, hfilter], hstands⟩

end Shape

end Remittance.Json
