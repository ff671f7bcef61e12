import Mathlib.Data.List.TakeWhile
import Remittance.Proofs.Text.Cut
/-!
# Texts that are written word by word

`Spaced` says that words stand in a text one after another with gaps between them, and `Padded` that
there may be blanks at both ends. Words that are written so are what a text is cut into
(`words_of_spaced`), and a trimmed text is what is left between blanks (`trimsTo_trim`).
-/

namespace Remittance.Text

variable {isGap isBreak : Char → Bool} {words : List (List Char)} {body text gap : List Char}

/-- The words stand in the text in this order, with one or more characters of the class between each
of them and the next. -/
inductive Spaced (isGap : Char → Bool) : List (List Char) → List Char → Prop where
  | single (w : List Char) : Spaced isGap [w] w
  | cons (w : List Char) {gap rest : List Char} {words : List (List Char)} (hne : gap ≠ [])
    (hgap : ∀ c ∈ gap, isGap c = true) (h : Spaced isGap words rest) :
    Spaced isGap (w :: words) (w ++ (gap ++ rest))

/-- The text is the body with blanks at both of its ends, of which there may be none. -/
def Padded (body text : List Char) : Prop :=
  ∃ front back, (∀ c ∈ front, isBlank c = true) ∧ (∀ c ∈ back, isBlank c = true) ∧
    text = front ++ (body ++ back)

/-- Words with one character of the class between each and the next. -/
lemma spaced_intercalate {c : Char} (hc : isGap c = true) (hne : words ≠ []) :
    Spaced isGap words ([c].intercalate words) := by
  induction words with
  | nil => exact absurd rfl hne
  | cons w words ih =>
    cases words with
    | nil =>
      rw [List.intercalate_singleton]
      exact .single w
    | cons v words =>
      rw [List.intercalate_cons_cons, List.append_assoc]
      exact .cons w (List.cons_ne_nil _ _) (by simp [hc]) (ih (List.cons_ne_nil _ _))

/-- There need not be a blank at either end. -/
lemma padded_self (body : List Char) : Padded body body := ⟨[], [], by simp, by simp, by simp⟩

/-- What no blank at either end changes is the same for a padded text. -/
lemma Padded.invariant {α : Sort*} {f : List Char → α} (h : Padded body text)
    (front : ∀ c cs, isBlank c = true → f (c :: cs) = f cs)
    (back : ∀ cs c, isBlank c = true → f (cs ++ [c]) = f cs) : f text = f body := by
  obtain ⟨lead, trail, hlead, htrail, rfl⟩ := h
  have hback : f (body ++ trail) = f body := by
    induction trail using List.reverseRec with
    | nil => rw [List.append_nil]
    | append_singleton trail c ih =>
      rw [← List.append_assoc, back _ _ (htrail c (by simp)),
        ih fun b hb => htrail b (List.mem_append_left _ hb)]
  induction lead with
  | nil => exact hback
  | cons c lead ih =>
    rw [List.cons_append, front _ _ (hlead c List.mem_cons_self),
      ih fun b hb => hlead b (List.mem_cons_of_mem _ hb)]

/-! ## Cutting -/

/-- A gap between two texts is a cut. -/
lemma runs_append_gap (hne : gap ≠ []) (hgap : ∀ c ∈ gap, isBreak c = true) (xs ys : List Char) :
    runs isBreak (xs ++ (gap ++ ys)) = runs isBreak xs ++ runs isBreak ys := by
  have hfront : ∀ gap : List Char, (∀ c ∈ gap, isBreak c = true) →
      runs isBreak (gap ++ ys) = runs isBreak ys := by
    intro gap hgap
    induction gap with
    | nil => rfl
    | cons c gap ih =>
      rw [List.cons_append, runs_cons_break (hgap c List.mem_cons_self),
        ih fun b hb => hgap b (List.mem_cons_of_mem _ hb)]
  obtain ⟨c, gap, rfl⟩ := List.exists_cons_of_ne_nil hne
  rw [List.cons_append, runs_append_break (hgap c List.mem_cons_self),
    hfront gap fun b hb => hgap b (List.mem_cons_of_mem _ hb)]

/-- Pieces with a gap between each and the next are cut one by one. -/
lemma runs_intercalate (hne : gap ≠ []) (hgap : ∀ c ∈ gap, isBreak c = true)
    (pieces : List (List Char)) :
    runs isBreak (gap.intercalate pieces) = pieces.flatMap (runs isBreak) := by
  induction pieces with
  | nil => rfl
  | cons piece pieces ih =>
    cases pieces with
    | nil => simp
    | cons next pieces =>
      rw [List.intercalate_cons_cons, List.append_assoc, runs_append_gap hne hgap, ih]
      rfl

/-- Every character between pieces is one of a piece or of the gap. -/
lemma mem_intercalate {c : Char} {pieces : List (List Char)} (h : c ∈ gap.intercalate pieces) :
    c ∈ gap ∨ ∃ piece ∈ pieces, c ∈ piece := by
  induction pieces with
  | nil => simp at h
  | cons piece pieces ih =>
    cases pieces with
    | nil => exact .inr ⟨piece, List.mem_cons_self, by simpa using h⟩
    | cons next pieces =>
      rw [List.intercalate_cons_cons, List.append_assoc] at h
      rcases List.mem_append.mp h with hc | h
      · exact .inr ⟨piece, List.mem_cons_self, hc⟩
      rcases List.mem_append.mp h with hc | h
      · exact .inl hc
      · exact (ih h).imp_right fun ⟨w, hw, hc⟩ => ⟨w, List.mem_cons_of_mem _ hw, hc⟩

/-- A text is cut into the words that stand in it. -/
lemma runs_of_spaced (hwords : ∀ w ∈ words, w ≠ [] ∧ ∀ c ∈ w, isBreak c = false)
    (hgap : ∀ c, isGap c = true → isBreak c = true) (h : Spaced isGap words text) :
    runs isBreak text = words := by
  have hrun : ∀ w ∈ words, runs isBreak w = [w] := by
    intro w hw
    obtain ⟨hne, hfree⟩ := hwords w hw
    rw [runs_of_free hfree]
    simp [hne]
  induction h with
  | single w => exact hrun w List.mem_cons_self
  | cons w hne hmem _ ih =>
    rw [runs_append_gap hne (fun c hc => hgap c (hmem c hc)), hrun w List.mem_cons_self,
      ih (fun v hv => hwords v (List.mem_cons_of_mem _ hv))
        fun v hv => hrun v (List.mem_cons_of_mem _ hv)]
    rfl

/-- The words of a text that is written word by word are these words. -/
lemma words_of_spaced (hwords : ∀ w ∈ words, w ≠ [] ∧ ∀ c ∈ w, isBlank c = false)
    (hgap : ∀ c, isGap c = true → isBlank c = true) (h : Spaced isGap words body)
    (hpadded : Padded body text) : Text.words text = words := by
  have hbody : Text.words text = Text.words body :=
    hpadded.invariant (fun _ _ hc => runs_cons_break hc _)
      (fun cs _ hc => (runs_append_break hc cs []).trans (List.append_nil _))
  rw [hbody]
  exact runs_of_spaced hwords hgap h

/-- Every character of a text that is written word by word is one of a word or of a gap. -/
lemma mem_of_spaced (h : Spaced isGap words text) :
    ∀ c ∈ text, (∃ w ∈ words, c ∈ w) ∨ isGap c = true := by
  induction h with
  | single w => exact fun c hc => .inl ⟨w, List.mem_cons_self, hc⟩
  | cons w hne hmem _ ih =>
    intro c hc
    rcases List.mem_append.mp hc with hc | hc
    · exact .inl ⟨w, List.mem_cons_self, hc⟩
    rcases List.mem_append.mp hc with hc | hc
    · exact .inr (hmem c hc)
    · exact (ih c hc).imp_left fun ⟨v, hv, hc⟩ => ⟨v, List.mem_cons_of_mem _ hv, hc⟩

/-- The printed characters of ASCII are not blank. -/
lemma isBlank_of_printed {c : Char} (h : 0x21 ≤ c.toNat ∧ c.toNat ≤ 0x7E) : isBlank c = false := by
  unfold isBlank
  generalize c.toNat = n at h
  simp only [Bool.or_eq_false_iff, Bool.and_eq_false_iff, decide_eq_false_iff_not,
    beq_eq_false_iff_ne]
  omega

/-! ## Trimming -/

/-- Nothing is left of a trimmed text if all its characters are blanks. -/
lemma trim_eq_nil_iff {cs : List Char} : trim cs = [] ↔ ∀ c ∈ cs, isBlank c = true := by
  constructor
  · intro hnil c hc
    by_contra hblank
    have hmem := (mem_trim_iff ((Bool.not_eq_true _).mp hblank) cs).mpr hc
    rw [hnil] at hmem
    cases hmem
  · intro hblank
    have hstart : trimStart cs = [] := List.dropWhile_eq_nil_iff.mpr hblank
    rw [trim, hstart]
    rfl

/-- The body is the text without the blanks at both of its ends. -/
structure TrimsTo (text body : List Char) : Prop where
  padded : Padded body text
  head : ∀ c ∈ body.head?, isBlank c = false
  last : ∀ c ∈ body.getLast?, isBlank c = false

/-- A trimmed text is what is left between the blanks at its ends. -/
lemma trimsTo_trim (cs : List Char) : TrimsTo cs (trim cs) := by
  have hhead : ∀ ds : List Char, ∀ c ∈ (ds.dropWhile isBlank).head?, isBlank c = false := by
    intro ds c hc
    have hnot := List.head?_dropWhile_not isBlank ds
    rw [Option.mem_def.mp hc] at hnot
    simpa using hnot
  have hblank : ∀ ds : List Char, ∀ c ∈ ds.takeWhile isBlank, isBlank c = true := by
    intro ds c hc
    exact List.mem_takeWhile_imp hc
  -- the blanks at the end are taken off the reversed text
  have hback : trim cs ++ ((trimStart cs).reverse.takeWhile isBlank).reverse = trimStart cs := by
    rw [trim, trimEnd, ← List.reverse_append, List.takeWhile_append_dropWhile, List.reverse_reverse]
  refine ⟨⟨cs.takeWhile isBlank, ((trimStart cs).reverse.takeWhile isBlank).reverse, hblank cs, ?_,
    ?_⟩, ?_, ?_⟩
  · intro c hc
    exact hblank _ c (List.mem_reverse.mp hc)
  · rw [hback, trimStart, List.takeWhile_append_dropWhile]
  · intro c hc
    obtain ⟨body, hbody⟩ := List.head?_eq_some_iff.mp hc
    refine hhead cs c ?_
    rw [← trimStart, ← hback, hbody]
    rfl
  · intro c hc
    rw [trim, trimEnd, List.getLast?_reverse] at hc
    exact hhead _ c hc

end Remittance.Text
