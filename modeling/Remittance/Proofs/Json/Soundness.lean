import Remittance.Json.Container
import Remittance.Proofs.Json.Grammar
/-!
# Readers take nothing but JSON

`Reads` says of a reader that it takes only texts of values, and which values stand for what it gives.
The readers of strings and of sequences do (`reads_readString`, `reads_readSequence`), and what is passed
over is a value as well (`reads_skipValue`).
-/

namespace Remittance.Json

variable {α : Type} {cs ds es rest : List Char} {first : Bool} {c : Char} {value : Json}
  {reader : Reader α} {stands : Json → α → Prop}

/-- Whatever the reader takes is the text of a value, which stands for what the reader gives. What
follows has to end the value. -/
def Reads (reader : Reader α) (stands : Json → α → Prop) : Prop :=
  ∀ ⦃cs : List Char⦄ ⦃p : Parsed α cs⦄, reader cs = .ok p → EndsValue p.rest →
    ∃ value, Spells (.value value) cs p.rest ∧ stands value p.value

/-! ## Blanks and marks -/

lemma Scalar.Spells.skipBlanks_eq {s : Scalar} (h : s.Spells cs rest) : skipBlanks cs = cs := by
  obtain ⟨c, behind, rfl, hc⟩ := h.exists_cons
  refine skipBlanks_cons (Bool.eq_false_iff.mpr fun hblank => hc ?_)
  simp [marks, mem_followers_of_isBlank hblank]

/-- A value that holds no others is a value. -/
lemma Scalar.Spells.spells {s : Scalar} (h : s.Spells cs rest) : Json.Spells (.value s.json) cs rest :=
  .scalar (by rwa [h.skipBlanks_eq])

/-- Blanks may stand in front of a value. -/
lemma Spells.of_skipBlanks (h : Spells (.value value) (skipBlanks cs) rest) :
    Spells (.value value) cs rest := by
  cases h with
  | scalar hs => exact .scalar (by rwa [skipBlanks_skipBlanks] at hs)
  | array hcs hitems => exact .array (by rwa [skipBlanks_skipBlanks] at hcs) hitems
  | object hcs hmembers => exact .object (by rwa [skipBlanks_skipBlanks] at hcs) hmembers

/-- What is read behind blanks is read from the text behind them. -/
lemma exists_of_afterBlanks {p : Parsed α cs} (h : afterBlanks reader cs = .ok p) :
    ∃ (ds : List Char) (q : Parsed α ds), skipBlanks cs = ds ∧ reader ds = .ok q ∧
      q.value = p.value ∧ q.rest = p.rest := by
  obtain ⟨q, hq, rfl⟩ := map_eq_ok_iff.mp h
  exact ⟨_, q, rfl, hq, rfl, rfl⟩

lemma Reads.afterBlanks (h : Reads reader stands) : Reads (afterBlanks reader) stands := by
  intro cs p hread hrest
  obtain ⟨_, q, rfl, hq, hvalue, hbehind⟩ := exists_of_afterBlanks hread
  rw [← hbehind] at hrest ⊢
  rw [← hvalue]
  obtain ⟨value, hspells, hstands⟩ := h hq hrest
  exact ⟨value, hspells.of_skipBlanks, hstands⟩

lemma skipBlanks_of_readMark {atEnd otherwise : Fault} {p : Parsed Unit cs}
    (h : readMark c atEnd otherwise cs = .ok p) : skipBlanks cs = c :: p.rest := by
  obtain ⟨_ | ⟨d, behind⟩, q, hcs, hq, -, hrest⟩ := exists_of_afterBlanks h
  · cases hq
  · simp only at hq
    split at hq
    · next hd =>
      cases hq
      rw [hcs, hd, ← hrest]
    · cases hq

lemma skipBlanks_of_closeArray {p : Parsed Unit cs} (h : closeArray cs = .ok p) :
    skipBlanks cs = ']' :: p.rest := by
  obtain ⟨_ | ⟨d, behind⟩, q, hcs, hq, -, hrest⟩ := exists_of_afterBlanks h
  · cases hq
  · simp only at hq
    split at hq
    · next hd =>
      cases hq
      rw [hcs, hd, ← hrest]
    · repeat' split at hq
      all_goals cases hq

lemma skipBlanks_of_closeObject {p : Parsed Unit cs} (h : closeObject cs = .ok p) :
    skipBlanks cs = '}' :: p.rest := by
  obtain ⟨_ | ⟨d, behind⟩, q, hcs, hq, -, hrest⟩ := exists_of_afterBlanks h
  · cases hq
  · simp only at hq
    split at hq
    · next hd =>
      cases hq
      rw [hcs, hd, ← hrest]
    · split at hq <;> cases hq

/-- What is read between brackets is followed by the closing one. -/
lemma exists_of_enclosed {close : Reader Unit} {inside : Except Failure (Reached α cs)}
    {p : Parsed α cs}
    (hclose : ∀ {ds} {closed : Parsed Unit ds}, close ds = .ok closed → skipBlanks ds = c :: closed.rest)
    (h : enclosed close inside = .ok p) :
    ∃ q, inside = .ok q ∧ q.value = p.value ∧ skipBlanks q.rest = c :: p.rest := by
  cases inside with
  | error failure => cases h
  | ok q =>
    obtain ⟨closed, hclosed, rfl⟩ := map_eq_ok_iff.mp h
    exact ⟨q, rfl, rfl, hclose hclosed⟩

/-! ## Keys -/

lemma exists_of_readString {expected : String} {p : Parsed String cs}
    (h : readString expected cs = .ok p) :
    ∃ text ds, skipBlanks cs = '"' :: ds ∧ SpellsText text ds p.rest ∧
      p.value = String.ofList text := by
  obtain ⟨_ | ⟨c, behind⟩, q, hcs, hq, hvalue, hrest⟩ := exists_of_afterBlanks h
  · cases hq
  · simp only at hq
    split at hq
    · next hc =>
      subst hc
      obtain ⟨r, hr, rfl⟩ := map_eq_ok_iff.mp hq
      obtain ⟨text, htext, htextvalue⟩ := exists_spellsText_of_readText hr
      exact ⟨text, behind, hcs, hrest ▸ htext, hvalue ▸ htextvalue⟩
    · cases hq

theorem reads_readString (expected : String) :
    Reads (readString expected) fun value text => value = .string text := by
  intro cs p hread _
  obtain ⟨text, ds, hcs, htext, hvalue⟩ := exists_of_readString hread
  refine ⟨.string p.value, ?_, rfl⟩
  rw [hvalue]
  exact .of_skipBlanks (hcs ▸ (Scalar.Spells.string htext).spells)

lemma labels_of_readString {expected : String} {key : Parsed String cs} {colon : Parsed Unit key.rest}
    (hkey : readString expected cs = .ok key) (hcolon : readColon key.rest = .ok colon) :
    Labels key.value cs colon.rest := by
  obtain ⟨text, ds, hcs, htext, hvalue⟩ := exists_of_readString hkey
  exact ⟨text, ds, key.rest, hcs, htext, skipBlanks_of_readMark hcolon, hvalue⟩

/-- Blanks may stand in front of a key. -/
lemma Labels.of_skipBlanks {key : String} (h : Labels key es rest) (hds : skipBlanks ds = es) :
    Labels key ds rest := by
  obtain ⟨text, as, bs, hquote, htext⟩ := h
  rw [← hds, skipBlanks_skipBlanks] at hquote
  exact ⟨text, as, bs, hquote, htext⟩

lemma exists_labels_of_skipKey {p : Parsed Unit cs} (h : skipKey cs = .ok p) :
    ∃ key, Labels key cs p.rest := by
  obtain ⟨quote, hquote, h⟩ := bind_eq_ok_iff.mp h
  obtain ⟨key, hkey, h⟩ := bind_eq_ok_iff.mp h
  obtain ⟨colon, hcolon, h⟩ := bind_eq_ok_iff.mp h
  cases h
  obtain ⟨text, htext⟩ := exists_spellsText_of_skipTextFrom hkey
  exact ⟨String.ofList text, text, quote.rest, key.rest, skipBlanks_of_readMark hquote, htext,
    skipBlanks_of_readMark hcolon, rfl⟩

/-! ## From part to part -/

/-- The step goes to the closing bracket, or to the next part of an array or object. -/
def Advances (first : Bool) (step : Step cs) : Prop :=
  if step.value then ∃ ds, Separates first cs ds ∧ skipBlanks ds = step.rest
  else skipBlanks step.rest = skipBlanks cs

lemma advances_nextItem {step : Step cs} (h : nextItem first cs = .ok step) :
    Advances first step := by
  unfold nextItem at h
  split at h
  · cases h
  next c behind hcs =>
  dsimp only at h
  split_ifs at h with hclose hfirst hcomma
  · cases h
    show skipBlanks (c :: behind) = skipBlanks cs
    rw [← hcs, skipBlanks_skipBlanks]
  · cases h
    exact ⟨cs, by simp [Separates, hfirst], hcs⟩
  · split at h
    · cases h
    next d after hbehind =>
    split at h
    · cases h
    · cases h
      exact ⟨behind, by simp [Separates, hfirst, hcs, hcomma], hbehind⟩

lemma advances_nextMember {step : Step cs} (h : nextMember first cs = .ok step) :
    Advances first step := by
  unfold nextMember at h
  split at h
  · cases h
  next c behind hcs =>
  dsimp only at h
  split_ifs at h with hclose hfirst hquote hcomma
  · cases h
    show skipBlanks (c :: behind) = skipBlanks cs
    rw [← hcs, skipBlanks_skipBlanks]
  · cases h
    exact ⟨cs, by simp [Separates, hfirst], hcs⟩
  · split at h
    · cases h
    next d after hbehind =>
    split at h
    -- behind a comma only the quote of a key is taken
    · cases h
      exact ⟨behind, by simp [Separates, hfirst, hcs, hcomma], hbehind⟩
    · split at h <;> cases h

/-- What is left of an array or object, behind one of its parts, ends this part. -/
lemma Spells.endsValue_items {items : List Json} (h : Spells (.items false items) cs rest) :
    EndsValue cs := by
  refine .of_skipBlanks ?_
  cases h with
  | noItem hcs =>
    rw [hcs, endsValue_cons]
    decide
  | item hcs =>
    rw [show skipBlanks cs = _ from hcs, endsValue_cons]
    decide

lemma Spells.endsValue_members {members : List (String × Json)}
    (h : Spells (.members false members) cs rest) : EndsValue cs := by
  refine .of_skipBlanks ?_
  cases h with
  | noMember hcs =>
    rw [hcs, endsValue_cons]
    decide
  | member hcs =>
    rw [show skipBlanks cs = _ from hcs, endsValue_cons]
    decide

/-- What is read one after another are the items of an array. -/
lemma exists_spells_of_readItems {before : List α} {p : Reached (List α) cs}
    (hreader : Reads reader stands) (h : readItems reader first before cs = .ok p)
    (hclose : skipBlanks p.rest = ']' :: rest) :
    ∃ items values, Spells (.items first items) cs rest ∧ List.Forall₂ stands items values ∧
      p.value = before.reverse ++ values := by
  induction hsize : cs.length using Nat.strong_induction_on generalizing first before cs with
  | _ size ih =>
    subst hsize
    rw [readItems] at h
    split at h
    · cases h
    · next behind hle hnext =>
      cases h
      have hcs : skipBlanks behind = skipBlanks cs := advances_nextItem hnext
      exact ⟨[], [], .noItem (hcs.symm.trans hclose), .nil, (List.append_nil _).symm⟩
    · next behind hle hnext =>
      obtain ⟨ds, hseparates, hds⟩ := advances_nextItem hnext
      split at h
      · cases h
      next item hitem =>
      obtain ⟨q, hq, rfl⟩ := map_eq_ok_iff.mp h
      have hshorter : item.rest.length < cs.length := Nat.lt_of_lt_of_le item.shorter hle
      -- the items behind this one come first, as they are what ends its value
      obtain ⟨items, values, hitems, hvalues, hq⟩ := ih _ hshorter hq hclose rfl
      obtain ⟨value, hvalue, hstands⟩ := hreader hitem hitems.endsValue_items
      refine ⟨value :: items, item.value :: values, .item hseparates ?_ hitems,
        .cons hstands hvalues, ?_⟩
      · exact Spells.of_skipBlanks (hds ▸ hvalue)
      · rw [List.reverse_cons, List.append_assoc] at hq
        exact hq

/-- A sequence is read from an array, and its parts from the items. -/
theorem reads_readSequence (h : Reads reader stands) :
    Reads (readSequence reader) fun value values =>
      ∃ items, value = .array items ∧ List.Forall₂ stands items values := by
  refine Reads.afterBlanks fun cs p hread _ => ?_
  cases cs with
  | nil => cases hread
  | cons c behind =>
    simp only at hread
    split at hread
    · next hc =>
      subst hc
      obtain ⟨q, hq, rfl⟩ := map_eq_ok_iff.mp hread
      obtain ⟨inside, hinside, hvalues, hclose⟩ := exists_of_enclosed skipBlanks_of_closeArray hq
      obtain ⟨items, values, hitems, hstands, heq⟩ := exists_spells_of_readItems h hinside hclose
      have hall : q.value = values := hvalues.symm.trans heq
      rw [← hall] at hstands
      exact ⟨.array items, .array rfl hitems, items, rfl, hstands⟩
    · cases hread

/-! ## Passing over values -/

/-- What is left of an array or object up to and with its closing bracket. -/
def Open.Spells (kind : Open) (first : Bool) (cs rest : List Char) : Prop :=
  match kind with
  | .array => ∃ items, Json.Spells (.items first items) cs rest
  | .object => ∃ members, Json.Spells (.members first members) cs rest

/-- What is left of the arrays and objects that are open, the innermost one first. -/
def SpellsAround : List Open → List Char → List Char → Prop
  | [], cs, rest => cs = rest
  | kind :: outer, cs, rest => ∃ ds, kind.Spells false cs ds ∧ SpellsAround outer ds rest

lemma Open.spells_close {kind : Open} (h : skipBlanks cs = kind.closing :: rest) :
    kind.Spells first cs rest := by
  cases kind with
  | array => exact ⟨[], .noItem h⟩
  | object => exact ⟨[], .noMember h⟩

/-- A value that is passed over is a part of the array or object around it. -/
lemma Open.spells_part {kind : Open} {label : Reached Unit ds} (hcs : Separates first cs ds)
    (hlabel : kind.skipLabel ds = .ok label)
    (hvalue : Json.Spells (.value value) label.rest es) (hothers : kind.Spells false es rest) :
    kind.Spells first cs rest := by
  cases kind with
  | array =>
    obtain ⟨items, hitems⟩ := hothers
    cases hlabel
    exact ⟨value :: items, .item hcs hvalue hitems⟩
  | object =>
    obtain ⟨members, hmembers⟩ := hothers
    obtain ⟨p, hskip, rfl⟩ := map_eq_ok_iff.mp hlabel
    obtain ⟨key, hkey⟩ := exists_labels_of_skipKey hskip
    exact ⟨(key, value) :: members, .member hcs hkey hvalue hmembers⟩

/-- What is left of arrays and objects ends the value in front of it. -/
lemma SpellsAround.endsValue {around : List Open} (h : SpellsAround around cs rest)
    (hrest : EndsValue rest) : EndsValue cs := by
  match around with
  | [] =>
    rw [show cs = rest from h]
    exact hrest
  | .array :: _ =>
    obtain ⟨_, ⟨items, hitems⟩, -⟩ := h
    exact hitems.endsValue_items
  | .object :: _ =>
    obtain ⟨_, ⟨members, hmembers⟩, -⟩ := h
    exact hmembers.endsValue_members

/-- What is left of a value where the passing over of it stands. -/
def SkipState.Spells (state : SkipState) (around : List Open) (cs rest : List Char) : Prop :=
  match state with
  | .value => ∃ value ds, Json.Spells (.value value) cs ds ∧ SpellsAround around ds rest
  | .opened kind => ∃ ds, kind.Spells true cs ds ∧ SpellsAround around ds rest
  | .behind => SpellsAround around cs rest

/-- What is passed over is what is left of the value. -/
lemma spells_of_skipFrom {whole : List Char} {state : SkipState} {around : List Open}
    {hle : cs.length + state.taken ≤ whole.length} {p : Parsed Unit whole}
    (h : skipFrom whole state around cs hle = .ok p) (hrest : EndsValue p.rest) :
    state.Spells around cs p.rest := by
  -- the invariant is told of what is still open, so no step looks back at an opening bracket
  fun_induction skipFrom whole state around cs hle with
  | case2 around cs hle behind _ hcs _ ih =>
    obtain ⟨ds, ⟨items, hitems⟩, haround⟩ := ih h
    exact ⟨.array items, ds, .array hcs hitems, haround⟩
  | case3 around cs hle behind _ hcs _ _ ih =>
    obtain ⟨ds, ⟨members, hmembers⟩, haround⟩ := ih h
    exact ⟨.object members, ds, .object hcs hmembers, haround⟩
  | case6 around cs hle c behind hcs _ _ _ scalar hscalar _ _ ih =>
    -- a number is over where something follows it, which what is open tells
    have haround : SpellsAround around scalar.rest p.rest := ih h
    obtain ⟨s, hs⟩ := exists_spells_of_skipScalar? hscalar (haround.endsValue hrest)
    exact ⟨s.json, scalar.rest, .scalar (by rwa [hcs]), haround⟩
  | case8 around cs kind hle behind _ hcs _ ih =>
    exact ⟨behind, Open.spells_close hcs, ih h⟩
  | case10 around cs kind hle c behind _ _ _ label hlabel _ _ ih =>
    obtain ⟨value, ds, hvalue, es, hothers, haround⟩ := ih h
    exact ⟨es, Open.spells_part (by simp [Separates]) hlabel hvalue hothers, haround⟩
  | case11 =>
    cases h
    rfl
  | case14 cs hle kind outer behind label hlabel _ hcs _ _ ih =>
    obtain ⟨value, ds, hvalue, es, hothers, haround⟩ := ih h
    exact ⟨es, Open.spells_part (by simpa [Separates] using hcs) hlabel hvalue hothers, haround⟩
  | case15 cs hle kind outer behind _ hcs _ _ ih =>
    exact ⟨behind, Open.spells_close hcs, ih h⟩
  | case1 | case4 | case5 | case7 | case9 | case12 | case13 | case16 => cases h

/-- A value that is passed over is a value. -/
theorem reads_skipValue : Reads skipValue fun _ _ => True := by
  intro cs p h hrest
  obtain ⟨value, ds, hvalue, rfl⟩ := spells_of_skipFrom h hrest
  exact ⟨value, hvalue, trivial⟩

end Remittance.Json
