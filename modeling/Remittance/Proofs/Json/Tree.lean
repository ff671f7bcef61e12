import Mathlib.Data.List.Forall2
import Remittance.Proofs.Json.Container
import Remittance.Proofs.Json.Number
/-!
# Values are read as they are written

`Writable` says which values have a text: their numbers are numbers, and they are nested only so
deep. Each of them is read back from its text (`gives_readTree`), and a line break never stands in
this text (`line_break_notMem_render`).
-/

namespace Remittance.Json

variable {α : Type} {cs rest : List Char} {c : Char} {value : Json} {depth : ℕ} {s : Scalar}

/-- A value whose numbers are spelled as such, with arrays and objects nested at most `depth`
deep. -/
inductive Writable : ℕ → Json → Prop
  | null {depth : ℕ} : Writable depth .null
  | bool {depth : ℕ} (b : Bool) : Writable depth (.bool b)
  | number {depth : ℕ} {text : List Char} (h : Numeral text) : Writable depth (.number text)
  | string {depth : ℕ} (s : String) : Writable depth (.string s)
  | array {depth : ℕ} {items : List Json} (h : ∀ item ∈ items, Writable depth item) :
    Writable (depth + 1) (.array items)
  | object {depth : ℕ} {members : List (String × Json)}
    (h : ∀ member ∈ members, Writable depth member.2) : Writable (depth + 1) (.object members)

/-! ## Values that hold no others -/

/-- A scalar is read as the value that it is, however deep it may be nested. -/
lemma gives_readTree_scalar {step : Except Failure (Parsed Scalar (c :: cs))}
    (hc : isBlank c = false) (harray : c ≠ '[') (hobject : c ≠ '{')
    (hscalar : readScalar? c cs = some step) (hstep : Gives step s rest) :
    Gives (readTree depth (c :: cs)) s.json rest := by
  obtain ⟨_, rfl⟩ := hstep
  have hleaf : Gives (readLeaf c cs) s.json rest := by
    simp only [readLeaf, hscalar]
    exact gives_ok _
  cases depth with
  | zero =>
    rw [readTree, gives_afterBlanks, skipBlanks_cons hc]
    simpa [harray, hobject] using hleaf
  | succ depth =>
    rw [readTree, gives_afterBlanks, skipBlanks_cons hc]
    simpa [harray, hobject] using hleaf

/-- A string is read as the string that it is. -/
lemma gives_readTree_string (depth : ℕ) (text : String) (rest : List Char) :
    Gives (readTree depth (quote text ++ rest)) (.string text) rest := by
  rw [quote_append]
  exact gives_readTree_scalar (s := .string text) rfl (by decide) (by decide) rfl
    ((gives_readText text).map_widen Scalar.string)

lemma isBlank_of_startsNumber (h : startsNumber c = true) : isBlank c = false := by
  rw [Bool.eq_false_iff]
  intro hblank
  simp only [isBlank, Bool.or_eq_true, beq_iff_eq] at hblank
  obtain ((rfl | rfl) | rfl) | rfl := hblank <;> cases h

/-- A number is a scalar, which is read as its text. -/
lemma exists_readScalar?_number {text : List Char} (htext : Numeral text)
    (hrest : EndsNumber rest) : ∃ c behind step, text = c :: behind ∧ isBlank c = false ∧
      c ≠ '[' ∧ c ≠ '{' ∧ readScalar? c (behind ++ rest) = some step ∧
      Gives step (.number text) rest := by
  obtain ⟨c, behind, rfl, hc⟩ := htext.exists_cons
  have hne {d : Char} (hd : startsNumber d = false) : c ≠ d := by
    rintro rfl
    cases hc.symm.trans hd
  have hscalar : readScalar? c (behind ++ rest) =
      some ((readNumber .endInValue (c :: (behind ++ rest))).map (·.map .number)) := by
    rw [readScalar?, if_neg (hne rfl), if_pos hc]
  have hnumber : Gives (readNumber .endInValue (c :: (behind ++ rest))) (c :: behind) rest :=
    gives_readNumber .endInValue htext hrest
  exact ⟨c, behind, _, rfl, isBlank_of_startsNumber hc, hne rfl, hne rfl, hscalar,
    hnumber.map Scalar.number⟩

/-- A number is read as its text. -/
lemma gives_readTree_number (depth : ℕ) {text : List Char} (htext : Numeral text)
    (hrest : EndsNumber rest) : Gives (readTree depth (text ++ rest)) (.number text) rest := by
  obtain ⟨c, behind, step, rfl, hblank, harray, hobject, hscalar, hstep⟩ :=
    exists_readScalar?_number htext hrest
  exact gives_readTree_scalar hblank harray hobject hscalar hstep

/-! ## Arrays and objects -/

lemma gives_readTree_array {items : List Json}
    (hitems : Finds (readItems (readTree depth) true [] cs) items (']' :: rest)) :
    Gives (readTree (depth + 1) ('[' :: cs)) (.array items) rest := by
  rw [readTree, gives_afterBlanks, skipBlanks_cons rfl]
  exact (gives_enclosed hitems gives_closeArray).map_widen Json.array

lemma gives_readTree_object {members : List (String × Json)}
    (hmembers : Finds (readPairs (readTree depth) true [] cs) members ('}' :: rest)) :
    Gives (readTree (depth + 1) ('{' :: cs)) (.object members) rest := by
  rw [readTree, gives_afterBlanks, skipBlanks_cons rfl]
  exact (gives_enclosed hmembers gives_closeObject).map_widen Json.object

/-- The text of a value may stand behind an opening bracket or a comma. -/
lemma Writable.exists_cons (h : Writable depth value) :
    ∃ c rest, value.render = c :: rest ∧ isBlank c = false ∧ c ≠ ']' := by
  cases h with
  | null => exact ⟨'n', _, rfl, rfl, by decide⟩
  | bool b =>
    cases b with
    | true => exact ⟨'t', _, rfl, rfl, by decide⟩
    | false => exact ⟨'f', _, rfl, rfl, by decide⟩
  | number htext =>
    obtain ⟨c, rest, rfl, hc⟩ := htext.exists_cons
    refine ⟨c, rest, rfl, isBlank_of_startsNumber hc, ?_⟩
    rintro rfl
    cases hc
  | string s => exact ⟨'"', _, rfl, rfl, by decide⟩
  | @array _ items _ =>
    cases items with
    | nil => exact ⟨'[', _, rfl, rfl, by decide⟩
    | cons item items => exact ⟨'[', _, rfl, rfl, by decide⟩
  | @object _ members _ =>
    cases members with
    | nil => exact ⟨'{', _, rfl, rfl, by decide⟩
    | cons member members => exact ⟨'{', _, rfl, rfl, by decide⟩

lemma endsNumber_renderItems (items : List Json) (rest : List Char) :
    EndsNumber (renderItems items ++ rest) := by
  cases items <;> exact endsNumber_cons.mpr rfl

lemma endsNumber_renderMembers (members : List (String × Json)) (rest : List Char) :
    EndsNumber (renderMembers members ++ rest) := by
  cases members <;> exact endsNumber_cons.mpr rfl

lemma render_array_append (item : Json) (items : List Json) (rest : List Char) :
    (array (item :: items)).render ++ rest =
      '[' :: (item.render ++ (renderItems items ++ rest)) := by
  simp [render]

lemma renderItems_append (item : Json) (items : List Json) (rest : List Char) :
    renderItems (item :: items) ++ rest = ',' :: (item.render ++ (renderItems items ++ rest)) := by
  simp [renderItems]

lemma render_object_append (key : String) (v : Json) (members : List (String × Json))
    (rest : List Char) :
    (object ((key, v) :: members)).render ++ rest =
      '{' :: (quote key ++ ':' :: (v.render ++ (renderMembers members ++ rest))) := by
  simp [render]

lemma renderMembers_append (key : String) (v : Json) (members : List (String × Json))
    (rest : List Char) :
    renderMembers ((key, v) :: members) ++ rest =
      ',' :: (quote key ++ ':' :: (v.render ++ (renderMembers members ++ rest))) := by
  simp [renderMembers]

/-- The reader gives this value from its text. -/
def ReadsBack (reader : Reader Json) (value : Json) : Prop :=
  ∀ rest, EndsNumber rest → Gives (reader (value.render ++ rest)) value rest

/-- The reader gives `a` from the text of the value. -/
def ReadsAs (reader : Reader α) (value : Json) (a : α) : Prop :=
  ∀ rest, EndsNumber rest → Gives (reader (value.render ++ rest)) a rest

/-- The items behind the first one are read one by one. -/
lemma finds_readItems_renderItems {item : Reader α} {items : List Json} {values : List α}
    (rest : List Char) (before : List α) (hwritable : ∀ v ∈ items, Writable depth v)
    (hitems : List.Forall₂ (ReadsAs item) items values) :
    Finds (readItems item false before (renderItems items ++ rest)) (before.reverse ++ values)
      (']' :: rest) := by
  induction hitems generalizing before with
  | nil =>
    rw [List.append_nil]
    exact finds_readItems_close
  | @cons v a items values hv _ ih =>
    obtain ⟨hfirst, hwritable⟩ := List.forall_mem_cons.mp hwritable
    have hgives := hv _ (endsNumber_renderItems items rest)
    have hrest := ih (a :: before) hwritable
    rw [List.reverse_cons, List.append_assoc, List.singleton_append] at hrest
    obtain ⟨c, text, htext, hc, hne⟩ := hfirst.exists_cons
    refine finds_readItems_next ?_ hgives hrest
    rw [renderItems_append, htext]
    exact finds_nextItem_comma hc hne

/-- The items of an array are read one by one behind its opening bracket. -/
lemma finds_readItems_render {item : Reader α} {items : List Json} {values : List α}
    (rest : List Char) (hwritable : ∀ v ∈ items, Writable depth v)
    (hitems : List.Forall₂ (ReadsAs item) items values) :
    ∃ cs, (array items).render ++ rest = '[' :: cs ∧
      Finds (readItems item true [] cs) values (']' :: rest) := by
  cases hitems with
  | nil => exact ⟨']' :: rest, rfl, finds_readItems_close⟩
  | @cons v a items values hv hothers =>
    obtain ⟨hfirst, hwritable⟩ := List.forall_mem_cons.mp hwritable
    obtain ⟨c, text, htext, hc, hne⟩ := hfirst.exists_cons
    have hgives := hv _ (endsNumber_renderItems items rest)
    have hrest := finds_readItems_renderItems rest [a] hwritable hothers
    refine ⟨_, render_array_append v items rest, finds_readItems_next ?_ hgives hrest⟩
    rw [htext]
    exact finds_nextItem_first hc hne

/-- An array is read as the list of what its items are read as. -/
theorem readsAs_readSequence {item : Reader α} {items : List Json} {values : List α}
    (hwritable : ∀ v ∈ items, Writable depth v)
    (hitems : List.Forall₂ (ReadsAs item) items values) :
    ReadsAs (readSequence item) (.array items) values := by
  intro rest _
  obtain ⟨cs, htext, hfinds⟩ := finds_readItems_render rest hwritable hitems
  rw [htext, readSequence, gives_afterBlanks, skipBlanks_cons rfl]
  exact gives_map_widen.mpr (gives_enclosed hfinds gives_closeArray)

/-- The members behind the first one are read one by one. -/
lemma finds_readPairs_renderMembers {reader : Reader Json} {members : List (String × Json)}
    (rest : List Char) (before : List (String × Json))
    (hvalue : ∀ member ∈ members, ReadsBack reader member.2) :
    Finds (readPairs reader false before (renderMembers members ++ rest))
      (before.reverse ++ members) ('}' :: rest) := by
  induction members generalizing before with
  | nil =>
    rw [List.append_nil]
    exact finds_readPairs_close
  | cons member members ih =>
    obtain ⟨key, v⟩ := member
    obtain ⟨hv, hvalue⟩ := List.forall_mem_cons.mp hvalue
    have hgives := gives_readPair key (hv _ (endsNumber_renderMembers members rest))
    have hrest := ih ((key, v) :: before) hvalue
    rw [List.reverse_cons, List.append_assoc, List.singleton_append] at hrest
    refine finds_readPairs_next ?_ hgives hrest
    rw [renderMembers_append, quote_append]
    exact finds_nextMember_comma

/-- A value is read back from its text, whatever follows that is no part of a number. -/
theorem gives_readTree (h : Writable depth value) : ReadsBack (readTree depth) value := by
  induction h with
  | null =>
    exact fun rest _ => gives_readTree_scalar (s := .null) rfl (by decide) (by decide) rfl ⟨_, rfl⟩
  | bool b =>
    intro rest _
    cases b with
    | true =>
      exact gives_readTree_scalar (s := .bool true) rfl (by decide) (by decide) rfl ⟨_, rfl⟩
    | false =>
      exact gives_readTree_scalar (s := .bool false) rfl (by decide) (by decide) rfl ⟨_, rfl⟩
  | number htext => exact fun rest hrest => gives_readTree_number _ htext hrest
  | string s => exact fun rest _ => gives_readTree_string _ s rest
  | @array depth items hitems ih =>
    intro rest _
    obtain ⟨cs, htext, hfinds⟩ := finds_readItems_render rest hitems (List.forall₂_same.mpr ih)
    rw [htext]
    exact gives_readTree_array hfinds
  | @object depth members _ ih =>
    intro rest _
    cases members with
    | nil => exact gives_readTree_object finds_readPairs_close
    | cons member members =>
      obtain ⟨key, v⟩ := member
      obtain ⟨hread, ih⟩ := List.forall_mem_cons.mp ih
      have hgives := gives_readPair key (hread _ (endsNumber_renderMembers members rest))
      have hrest := finds_readPairs_renderMembers rest [(key, v)] ih
      rw [quote_append] at hgives
      rw [render_object_append, quote_append]
      exact gives_readTree_object (finds_readPairs_next finds_nextMember_first hgives hrest)

/-! ## One line -/

lemma line_break_notMem_renderItems {items : List Json} (h : ∀ v ∈ items, '\n' ∉ v.render) :
    '\n' ∉ renderItems items := by
  induction items with
  | nil => decide
  | cons v items ih =>
    obtain ⟨hv, hitems⟩ := List.forall_mem_cons.mp h
    simp [renderItems, hv, ih hitems]

lemma line_break_notMem_renderMembers {members : List (String × Json)}
    (h : ∀ member ∈ members, '\n' ∉ member.2.render) : '\n' ∉ renderMembers members := by
  induction members with
  | nil => decide
  | cons member members ih =>
    obtain ⟨hv, hmembers⟩ := List.forall_mem_cons.mp h
    simp [renderMembers, hv, ih hmembers, line_break_notMem_quote]

/-- The text of a value is one line. -/
theorem line_break_notMem_render (h : Writable depth value) : '\n' ∉ value.render := by
  induction h with
  | null => decide
  | bool b => cases b <;> decide
  | number htext =>
    intro hmem
    obtain hdigit | heq | heq := htext.mem hmem
    · cases hdigit
    · cases heq
    · cases heq
  | string s => exact line_break_notMem_quote s
  | @array _ items _ ih =>
    cases items with
    | nil => decide
    | cons item items =>
      obtain ⟨hitem, ih⟩ := List.forall_mem_cons.mp ih
      simp [render, hitem, line_break_notMem_renderItems ih]
  | @object _ members _ ih =>
    cases members with
    | nil => decide
    | cons member members =>
      obtain ⟨hvalue, ih⟩ := List.forall_mem_cons.mp ih
      simp [render, hvalue, line_break_notMem_renderMembers ih, line_break_notMem_quote]

end Remittance.Json
