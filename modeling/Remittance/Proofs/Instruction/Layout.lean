import Remittance.Proofs.Instruction.Reading
/-!
# The layout of an instruction

How an instruction is read depends on its clauses and on whether a semicolon stands in it, and on
nothing else of its text (`read_of_clauses_eq`). The characters around the words are fillers: blanks
and ends of clauses. Fillers at the ends of a text are in none of its clauses
(`clauses_fillers_append`, `clauses_append_fillers`), and fillers between two words either cut the
text there or do not, whichever and however many they are (`clauses_append_gap`).
-/

namespace Remittance.Instruction

variable {c : Char} {text other xs ys gap gap' fillers : List Char}

/-- A character that is in no word. -/
def isFiller (c : Char) : Bool := endsClause c || Text.isBlank c

/-- Fillers between two words. -/
def IsGap (gap : List Char) : Prop := gap ≠ [] ∧ ∀ c ∈ gap, isFiller c = true

/-- The text is cut at some of the fillers. -/
def Cuts (gap : List Char) : Prop := ∃ c ∈ gap, endsClause c = true

/-! ## Fillers -/

lemma clauses_cons_filler (hc : isFiller c = true) (cs : List Char) :
    clauses (c :: cs) = clauses cs := by
  rcases Bool.or_eq_true_iff.mp hc with hend | hblank
  · exact clauses_append_end hend [] cs
  · exact clauses_cons_blank hblank cs

lemma clauses_concat_filler (hc : isFiller c = true) (cs : List Char) :
    clauses (cs ++ [c]) = clauses cs := by
  rcases Bool.or_eq_true_iff.mp hc with hend | hblank
  · exact (clauses_append_end hend cs []).trans (List.append_nil _)
  · exact clauses_concat_blank hblank cs

/-- Fillers in front of a text are in none of its clauses. -/
lemma clauses_fillers_append (hfillers : ∀ c ∈ fillers, isFiller c = true) (cs : List Char) :
    clauses (fillers ++ cs) = clauses cs := by
  induction fillers with
  | nil => rfl
  | cons c fillers ih =>
    obtain ⟨hc, hfillers⟩ := List.forall_mem_cons.mp hfillers
    rw [List.cons_append, clauses_cons_filler hc, ih hfillers]

/-- Fillers behind a text are in none of its clauses. -/
lemma clauses_append_fillers (hfillers : ∀ c ∈ fillers, isFiller c = true) (cs : List Char) :
    clauses (cs ++ fillers) = clauses cs := by
  induction fillers generalizing cs with
  | nil => rw [List.append_nil]
  | cons c fillers ih =>
    obtain ⟨hc, hfillers⟩ := List.forall_mem_cons.mp hfillers
    rw [List.append_cons, ih hfillers, clauses_concat_filler hc]

/-! ## Gaps -/

/-- A gap that cuts the text is as good as one end of a clause. -/
lemma clauses_append_gap_of_cuts (hgap : IsGap gap) (hcuts : Cuts gap) (xs ys : List Char) :
    clauses (xs ++ (gap ++ ys)) = clauses xs ++ clauses ys := by
  obtain ⟨c, hmem, hend⟩ := hcuts
  obtain ⟨front, back, rfl⟩ := List.append_of_mem hmem
  have hfront : ∀ c ∈ front, isFiller c = true := fun c hc =>
    hgap.2 c (List.mem_append_left _ hc)
  have hback : ∀ c ∈ back, isFiller c = true := fun c hc =>
    hgap.2 c (List.mem_append_right _ (List.mem_cons_of_mem _ hc))
  calc clauses (xs ++ (front ++ c :: back ++ ys))
      = clauses ((xs ++ front) ++ c :: (back ++ ys)) := by simp
    _ = clauses (xs ++ front) ++ clauses (back ++ ys) := clauses_append_end hend _ _
    _ = clauses xs ++ clauses ys := by
      rw [clauses_append_fillers hfront, clauses_fillers_append hback]

/-- A gap that does not cut the text is as good as one space. -/
lemma clauses_append_gap_of_not_cuts (hgap : IsGap gap) (hcuts : ¬ Cuts gap) (xs ys : List Char) :
    clauses (xs ++ (gap ++ ys)) = clauses (xs ++ ([' '] ++ ys)) := by
  have hends : ∀ c ∈ gap, endsClause c = false := by
    simpa [Cuts] using hcuts
  have hblank : ∀ c ∈ gap, Text.isBlank c = true := by
    intro c hc
    have hfiller := hgap.2 c hc
    rwa [isFiller, hends c hc, Bool.false_or] at hfiller
  -- the clause with the gap in it begins behind the last end of a clause in front of the gap, and
  -- reaches to the first one behind it
  induction xs using Text.cutInduction endsClause with
  | cut front c xs hc _ ih =>
    rw [List.append_assoc, List.append_assoc, List.cons_append, List.cons_append,
      clauses_append_end hc, clauses_append_end hc, ih]
  | free xs hxs =>
    induction ys using Text.cutInduction endsClause with
    | cut ys c back hc ih _ =>
      calc clauses (xs ++ (gap ++ (ys ++ c :: back)))
          = clauses ((xs ++ (gap ++ ys)) ++ c :: back) := by simp
        _ = clauses ((xs ++ ([' '] ++ ys)) ++ c :: back) := by
          rw [clauses_append_end hc, clauses_append_end hc, ih]
        _ = clauses (xs ++ ([' '] ++ (ys ++ c :: back))) := by simp
    | free ys hys =>
      have hspace : ∀ c ∈ [' '], Text.isBlank c = true := List.forall_mem_singleton.mpr rfl
      have hspaceEnds : ∀ c ∈ [' '], endsClause c = false := List.forall_mem_singleton.mpr rfl
      have hfree : ∀ gap : List Char, (∀ c ∈ gap, endsClause c = false) →
          ∀ c ∈ xs ++ (gap ++ ys), endsClause c = false := by
        intro gap hgap
        simp only [List.forall_mem_append]
        exact ⟨hxs, hgap, hys⟩
      rw [clauses_of_free (hfree gap hends), clauses_of_free (hfree [' '] hspaceEnds), Text.words,
        Text.words, Text.runs_append_gap hgap.1 hblank,
        Text.runs_append_gap (List.cons_ne_nil _ _) hspace]

/-- Two gaps that both cut a text, or both do not, give the same clauses. -/
lemma clauses_append_gap (hgap : IsGap gap) (hgap' : IsGap gap') (hcuts : Cuts gap ↔ Cuts gap')
    (xs ys : List Char) : clauses (xs ++ (gap ++ ys)) = clauses (xs ++ (gap' ++ ys)) := by
  by_cases h : Cuts gap
  · rw [clauses_append_gap_of_cuts hgap h, clauses_append_gap_of_cuts hgap' (hcuts.mp h)]
  · rw [clauses_append_gap_of_not_cuts hgap h,
      clauses_append_gap_of_not_cuts hgap' (mt hcuts.mpr h)]

/-! ## Reading -/

/-- Texts with the same clauses are read alike, if both have a semicolon or both have none. -/
lemma read_of_clauses_eq (hclauses : clauses text = clauses other)
    (hsemicolon : ';' ∈ text ↔ ';' ∈ other) : read text = read other := by
  by_cases htext : ';' ∈ text
  · rw [read_of_semicolon htext, read_of_semicolon (hsemicolon.mp htext), hclauses]
  · -- without semicolons the words are those of the clauses, so both texts are blank or none is
    have hother : ';' ∉ other := mt hsemicolon.mpr htext
    have hwords : Text.words text = Text.words other := by
      rw [words_eq_flatten_clauses htext, words_eq_flatten_clauses hother, hclauses]
    have hempty : Text.trim text = [] ↔ Text.trim other = [] := by
      rw [Text.trim_eq_nil_iff, Text.trim_eq_nil_iff, ← Text.runs_eq_nil_iff,
        ← Text.runs_eq_nil_iff]
      exact Eq.congr_left hwords
    rw [read_eq, read_eq, hwords, hclauses]
    simp only [htext, hother, hempty]

/-- The layout of an instruction does not change how it is read. Texts with the same clauses are
read alike, if both have a semicolon or both have none. So are, in particular, a text with any
fillers at its ends and the text without them, and two texts with different gaps in one place, if
these both cut the text or both do not. -/
theorem read_ignores_layout :
    (∀ text other, clauses text = clauses other → (';' ∈ text ↔ ';' ∈ other) →
      read text = read other) ∧
    (∀ front text back, (∀ c ∈ front ++ back, isFiller c = true) →
      (';' ∈ front ++ back → ';' ∈ text) → read (front ++ (text ++ back)) = read text) ∧
    ∀ xs gap gap' ys, IsGap gap → IsGap gap' → (Cuts gap ↔ Cuts gap') →
      (';' ∈ xs ++ (gap ++ ys) ↔ ';' ∈ xs ++ (gap' ++ ys)) →
      read (xs ++ (gap ++ ys)) = read (xs ++ (gap' ++ ys)) := by
  refine ⟨fun text other => read_of_clauses_eq, ?_, ?_⟩
  · intro front text back hfillers hsemicolon
    obtain ⟨hfront, hback⟩ := List.forall_mem_append.mp hfillers
    apply read_of_clauses_eq
    · rw [clauses_fillers_append hfront, clauses_append_fillers hback]
    · simp only [List.mem_append] at hsemicolon ⊢
      tauto
  · intro xs gap gap' ys hgap hgap' hcuts hsemicolon
    exact read_of_clauses_eq (clauses_append_gap hgap hgap' hcuts xs ys) hsemicolon

/-- Blanks of Unicode, both kinds of line breaks, a blank line and semicolons in a row. -/
theorem read_ignores_layout_of_two_legs :
    let text := "DEBIT A 1;CREDIT B 1".toList
    let other := "\n DEBIT\u2003A\u00a01 ;\r\n \u3000\n;; \tCREDIT  B\u20281\r\n".toList
    clauses text = clauses other ∧ (';' ∈ text ↔ ';' ∈ other) ∧ read other = read text ∧
      read ("\n;".toList ++ (text ++ ";\t".toList)) = read text ∧
      read ("DEBIT A 1".toList ++ ("\r\n; \n".toList ++ "CREDIT B 1".toList)) = read text := by
  intro text other
  obtain ⟨hread, hends, hgaps⟩ := read_ignores_layout
  have hclauses : clauses text = clauses other := by decide +kernel
  have hsemicolon : ';' ∈ text ↔ ';' ∈ other := by decide +kernel
  refine ⟨hclauses, hsemicolon, (hread _ _ hclauses hsemicolon).symm, ?_, ?_⟩
  · have hfillers : ∀ c ∈ "\n;".toList ++ ";\t".toList, isFiller c = true :=
      List.all_eq_true.mp (by decide)
    exact hends _ text _ hfillers fun _ => by decide
  · have hgap {gap : List Char} (h : ';' ∈ gap) (hall : gap.all isFiller = true) :
        IsGap gap ∧ Cuts gap :=
      ⟨⟨List.ne_nil_of_mem h, List.all_eq_true.mp hall⟩, ';', h, rfl⟩
    obtain ⟨hgap₁, hcuts₁⟩ : IsGap "\r\n; \n".toList ∧ Cuts _ := hgap (by decide) (by decide)
    obtain ⟨hgap₂, hcuts₂⟩ : IsGap ";".toList ∧ Cuts _ := hgap (by decide) (by decide)
    have hsplit : text = "DEBIT A 1".toList ++ (";".toList ++ "CREDIT B 1".toList) := by decide
    rw [hsplit]
    exact hgaps _ _ _ _ hgap₁ hgap₂ (iff_of_true hcuts₁ hcuts₂) (by decide)

end Remittance.Instruction
