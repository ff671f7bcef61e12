import Remittance.Json.Skip
import Remittance.Proofs.Json.NumberText
import Remittance.Proofs.Json.StringText
/-!
# The texts of values that hold no others

`Scalar.Spells` says which texts stand for words, numbers and strings. No text stands for two of them
(`Scalar.Spells.unique`). A reader of such values takes nothing but these texts
(`spells_of_readScalar?`), and neither does what passes over them (`exists_spells_of_skipScalar?`).
-/

namespace Remittance.Json

variable {cs ds es rest letters : List Char} {c : Char} {s : Scalar}

/-- The text, up to the rest, stands for this value. -/
inductive Scalar.Spells : Scalar → List Char → List Char → Prop
  | wordNull {rest : List Char} : Spells .null ('n' :: 'u' :: 'l' :: 'l' :: rest) rest
  | wordTrue {rest : List Char} : Spells (.bool true) ('t' :: 'r' :: 'u' :: 'e' :: rest) rest
  | wordFalse {rest : List Char} :
    Spells (.bool false) ('f' :: 'a' :: 'l' :: 's' :: 'e' :: rest) rest
  | number {text cs rest : List Char} (htext : NumberText text) (hcs : cs = text ++ rest)
    (hrest : EndsValue rest) : Spells (.number text) cs rest
  | string {text cs rest : List Char} (htext : SpellsText text cs rest) :
    Spells (.string (String.ofList text)) ('"' :: cs) rest

lemma Scalar.Spells.unique {s' : Scalar} (h : s.Spells cs ds) (h' : s'.Spells cs es) :
    s = s' ∧ ds = es := by
  cases h with
  | wordNull =>
    cases h' with
    | wordNull => exact ⟨rfl, rfl⟩
    | number htext hcs => exact absurd hcs (htext.not_cons rfl)
  | wordTrue =>
    cases h' with
    | wordTrue => exact ⟨rfl, rfl⟩
    | number htext hcs => exact absurd hcs (htext.not_cons rfl)
  | wordFalse =>
    cases h' with
    | wordFalse => exact ⟨rfl, rfl⟩
    | number htext hcs => exact absurd hcs (htext.not_cons rfl)
  | number htext hcs hrest =>
    cases h' with
    | number htext' hcs' hrest' =>
      -- both are the run of number characters in front of the text
      have happend := hcs.symm.trans hcs'
      have heq := congrArg (List.takeWhile isNumberChar) happend
      rw [htext.takeWhile_append hrest, htext'.takeWhile_append hrest'] at heq
      subst heq
      exact ⟨rfl, List.append_cancel_left happend⟩
    | wordNull | wordTrue | wordFalse | string => exact absurd hcs (htext.not_cons rfl)
  | string htext =>
    cases h' with
    | string htext' =>
      obtain ⟨rfl, rfl⟩ := htext.unique htext'
      exact ⟨rfl, rfl⟩
    | number htext hcs => exact absurd hcs (htext.not_cons rfl)

/-- The characters that stand around values. -/
def marks : List Char := '[' :: '{' :: ':' :: followers

lemma not_mem_marks_of_startsNumber (h : startsNumber c = true) : c ∉ marks := by
  have hmarks : (marks.all fun c => !startsNumber c) = true := by decide
  intro hc
  have hstart := List.all_eq_true.mp hmarks c hc
  simp [h] at hstart

/-- A value that holds no others starts with no mark. -/
lemma Scalar.Spells.exists_cons (h : s.Spells cs rest) :
    ∃ c behind, cs = c :: behind ∧ c ∉ marks := by
  cases h with
  | wordNull | wordTrue | wordFalse | string => exact ⟨_, _, rfl, by decide⟩
  | number htext hcs =>
    obtain ⟨c, behind, rfl, hc⟩ := htext.exists_cons
    exact ⟨c, behind ++ rest, hcs, not_mem_marks_of_startsNumber hc⟩

lemma eq_append_of_takeLetters {t : Taken cs} (h : takeLetters letters cs = .ok t) :
    cs = letters ++ t.rest := by
  induction letters generalizing cs with
  | nil =>
    cases h
    rfl
  | cons letter letters ih =>
    cases cs with
    | nil => cases h
    | cons c cs =>
      rw [takeLetters] at h
      split at h
      · next hc =>
        obtain ⟨behind, hbehind, rfl⟩ := map_eq_ok_iff.mp h
        rw [hc, List.cons_append]
        exact congrArg (letter :: ·) (ih hbehind)
      · cases h

lemma spells_of_readWord? {p : Parsed (Option Bool) (c :: cs)} (h : readWord? c cs = some (.ok p)) :
    (Scalar.ofWord p.value).Spells (c :: cs) p.rest := by
  have hword {letters : List Char} {value : Option Bool}
      (h : readWord c letters value cs = .ok p) : p.value = value ∧ cs = letters ++ p.rest := by
    obtain ⟨t, ht, rfl⟩ := map_eq_ok_iff.mp h
    exact ⟨rfl, eq_append_of_takeLetters ht⟩
  unfold readWord? at h
  split_ifs at h with hn ht hf
  all_goals
    obtain ⟨hvalue, hcs⟩ := hword (Option.some.inj h)
    rw [hvalue]
    -- the rest is bound to the text that it is the rest of, so it is freed before the rewriting
    generalize p.rest = rest at hcs
    subst hcs
  · subst hn
    exact .wordNull
  · subst ht
    exact .wordTrue
  · subst hf
    exact .wordFalse

/-- A value that holds no others is read from a text that stands for it. -/
lemma spells_of_readScalar? {p : Parsed Scalar (c :: cs)} (h : readScalar? c cs = some (.ok p))
    (hrest : EndsValue p.rest) : p.value.Spells (c :: cs) p.rest := by
  unfold readScalar? at h
  split_ifs at h with hquote hnumber
  · subst hquote
    obtain ⟨q, hread, rfl⟩ := map_eq_ok_iff.mp (Option.some.inj h)
    obtain ⟨text, htext, hvalue⟩ := exists_spellsText_of_readText hread
    show Scalar.Spells (.string q.value) _ q.rest
    rw [hvalue]
    exact .string htext
  · obtain ⟨q, hread, rfl⟩ := map_eq_ok_iff.mp (Option.some.inj h)
    obtain ⟨htext, hcs⟩ := numberText_of_readNumber hread
    exact .number htext hcs hrest
  · obtain ⟨step, hstep, hp⟩ := Option.map_eq_some_iff.mp h
    obtain ⟨q, rfl, rfl⟩ := map_eq_ok_iff.mp hp
    exact spells_of_readWord? hstep

/-- A value that holds no others is passed over in a text that stands for it. -/
lemma exists_spells_of_skipScalar? {p : Parsed Unit (c :: cs)}
    (h : skipScalar? c cs = some (.ok p)) (hrest : EndsValue p.rest) :
    ∃ s : Scalar, s.Spells (c :: cs) p.rest := by
  unfold skipScalar? at h
  split_ifs at h with hquote hnumber
  · subst hquote
    obtain ⟨q, hskip, rfl⟩ := map_eq_ok_iff.mp (Option.some.inj h)
    obtain ⟨text, htext⟩ := exists_spellsText_of_skipTextFrom hskip
    exact ⟨.string (String.ofList text), .string htext⟩
  · obtain ⟨q, hread, rfl⟩ := map_eq_ok_iff.mp (Option.some.inj h)
    obtain ⟨htext, hcs⟩ := numberText_of_readNumber hread
    exact ⟨.number q.value, .number htext hcs hrest⟩
  · obtain ⟨step, hstep, hp⟩ := Option.map_eq_some_iff.mp h
    obtain ⟨q, rfl, rfl⟩ := map_eq_ok_iff.mp hp
    exact ⟨_, spells_of_readWord? hstep⟩

end Remittance.Json
