import Mathlib.Data.List.Induction
import Mathlib.Tactic.Common
import Remittance.Text.Blank
/-!
# Cutting texts

`runs` is the splitting of the core library without its empty pieces (`runs_eq_splitOnP`), so it can
be told from the pieces on both sides of any one break (`runs_append_break`). With `cutInduction`
this settles what cutting at two classes of characters does (`runs_or`), and a function that no
blank at either end changes does not see `trim` (`trim_invariant`).
-/

namespace Remittance.Text

variable {p q : Char → Bool}

/-- What holds of a text without a break, and of two texts with a break between them if it holds of
both, holds of every text. -/
@[elab_as_elim]
theorem cutInduction (p : Char → Bool) {motive : List Char → Prop}
    (free : ∀ cs, (∀ c ∈ cs, p c = false) → motive cs)
    (cut : ∀ xs c ys, p c = true → motive xs → motive ys → motive (xs ++ c :: ys))
    (cs : List Char) : motive cs := by
  by_cases h : ∃ c ∈ cs, p c = true
  · -- any break will do, since the texts on both of its sides are shorter
    obtain ⟨c, hmem, hc⟩ := h
    obtain ⟨xs, ys, hcs⟩ := List.append_of_mem hmem
    have hlength : cs.length = xs.length + ys.length + 1 := by simp [hcs]; omega
    rw [hcs]
    exact cut xs c ys hc (cutInduction p free cut xs) (cutInduction p free cut ys)
  · exact free cs (by simpa using h)
termination_by cs.length

/-! ## Runs -/

/-- The runs are the pieces between the breaks that are not empty. -/
theorem runs_eq_splitOnP (p : Char → Bool) (cs : List Char) :
    runs p cs = (cs.splitOnP p).filter (!·.isEmpty) := by
  fun_induction runs p cs with
  | case1 => rfl
  | case2 c hc => simp [hc, List.splitOnP_cons_eq_if_modifyHead]
  | case3 c hc => simp [hc, List.splitOnP_cons_eq_if_modifyHead]
  | case4 c d rest hc ih => simp [hc, ih, List.splitOnP_cons_eq_if_modifyHead]
  | case5 c d rest hc hd ih => simp [hc, hd, ih, List.splitOnP_cons_eq_if_modifyHead]
  | case6 c d rest hc hd piece pieces hrest ih =>
    -- the first piece behind `c` holds `d`, so it is a run, and `c` belongs to it
    obtain ⟨first, others, hsplit⟩ := List.exists_cons_of_ne_nil (List.splitOnP_ne_nil p rest)
    simp_all [List.splitOnP_cons_eq_if_modifyHead]
  | case7 c d rest hc hd hrest ih =>
    -- there is a run that starts with `d`, so the runs behind `c` are not none
    obtain ⟨first, others, hsplit⟩ := List.exists_cons_of_ne_nil (List.splitOnP_ne_nil p rest)
    simp_all [List.splitOnP_cons_eq_if_modifyHead]

@[simp] lemma runs_nil (p : Char → Bool) : runs p [] = [] := rfl

/-- A text is cut at each of its breaks. -/
lemma runs_append_break {c : Char} (hc : p c = true) (xs ys : List Char) :
    runs p (xs ++ c :: ys) = runs p xs ++ runs p ys := by
  rw [runs_eq_splitOnP, runs_eq_splitOnP, runs_eq_splitOnP, List.splitOnP_append_cons xs ys hc,
    List.filter_append]

/-- A break in front of a text is in none of its runs. -/
lemma runs_cons_break {c : Char} (hc : p c = true) (cs : List Char) :
    runs p (c :: cs) = runs p cs :=
  runs_append_break hc [] cs

/-- A text without a break is one run, if it is not empty. -/
lemma runs_of_free {cs : List Char} (h : ∀ c ∈ cs, p c = false) :
    runs p cs = [cs].filter (!·.isEmpty) := by
  rw [runs_eq_splitOnP, List.splitOnP_eq_singleton h]

/-- Runs are not empty, and no break stands in them. -/
lemma forall_mem_runs (cs : List Char) : ∀ run ∈ runs p cs, run ≠ [] ∧ ∀ c ∈ run, p c = false := by
  induction cs using cutInduction p with
  | free cs h =>
    intro run hrun
    rw [runs_of_free h] at hrun
    obtain ⟨hmem, hne⟩ := List.mem_filter.mp hrun
    obtain rfl := List.mem_singleton.mp hmem
    exact ⟨by simpa using hne, h⟩
  | cut xs c ys hc ihx ihy =>
    intro run hrun
    rw [runs_append_break hc] at hrun
    exact (List.mem_append.mp hrun).elim (ihx run) (ihy run)

/-- A text has no runs if all its characters are breaks. -/
lemma runs_eq_nil_iff {cs : List Char} :
    runs p cs = [] ↔ ∀ c ∈ cs, p c = true := by
  induction cs using cutInduction p with
  | free cs h =>
    rw [runs_of_free h]
    cases cs with
    | nil => simp
    | cons c cs => simp [h c List.mem_cons_self]
  | cut xs c ys hc ihx ihy =>
    rw [runs_append_break hc, List.append_eq_nil_iff, ihx, ihy]
    simp [or_imp, forall_and, hc]

/-- Only the class of a text's own characters matters. -/
lemma runs_congr {cs : List Char} (h : ∀ c ∈ cs, p c = q c) : runs p cs = runs q cs := by
  induction cs using runs.induct p <;> simp_all [runs]

/-- To cut at the characters of either class is to cut at those of one, and then each piece at those
of the other. -/
theorem runs_or (p q : Char → Bool) (cs : List Char) :
    runs (fun c => p c || q c) cs = (runs p cs).flatMap (runs q) := by
  induction cs using cutInduction p with
  | free cs h =>
    rw [runs_of_free h, runs_congr (q := q) fun c hc => by rw [h c hc, Bool.false_or]]
    cases cs <;> simp
  | cut xs c ys hc ihx ihy =>
    rw [runs_append_break hc, runs_append_break (by rw [hc, Bool.true_or]), List.flatMap_append,
      ihx, ihy]

/-! ## Trimming -/

/-- A blank in front of a text is trimmed. -/
lemma trim_cons {c : Char} (hc : isBlank c = true) (cs : List Char) : trim (c :: cs) = trim cs := by
  rw [trim, trim, trimStart, List.dropWhile_cons_of_pos hc, trimStart]

/-- A blank behind a text is trimmed. -/
lemma trim_concat {c : Char} (hc : isBlank c = true) (cs : List Char) :
    trim (cs ++ [c]) = trim cs := by
  have hend : ∀ ds, trimEnd (ds ++ [c]) = trimEnd ds := by
    intro ds
    rw [trimEnd, trimEnd, List.reverse_concat, List.dropWhile_cons_of_pos hc]
  rw [trim, trim, trimStart, trimStart, List.dropWhile_append]
  split
  · next hempty =>
    rw [List.isEmpty_iff.mp hempty, List.dropWhile_cons_of_pos hc, List.dropWhile_nil]
  · exact hend _

/-- What does not change when a blank is put at either end of a text does not change when the text
is trimmed. -/
lemma trim_invariant {α : Sort*} {f : List Char → α}
    (front : ∀ c cs, isBlank c = true → f (c :: cs) = f cs)
    (back : ∀ cs c, isBlank c = true → f (cs ++ [c]) = f cs) (cs : List Char) :
    f (trim cs) = f cs := by
  have hstart : ∀ cs, f (trimStart cs) = f cs := by
    intro cs
    induction cs with
    | nil => rfl
    | cons c cs ih =>
      by_cases hc : isBlank c
      · rw [front c cs hc, ← ih, trimStart, trimStart, List.dropWhile_cons_of_pos hc]
      · rw [trimStart, List.dropWhile_cons_of_neg hc]
  have hend : ∀ cs, f (trimEnd cs) = f cs := by
    -- blanks are taken away from the right, so the induction is on the last character
    intro cs
    induction cs using List.reverseRec with
    | nil => rfl
    | append_singleton cs c ih =>
      by_cases hc : isBlank c
      · rw [back cs c hc, ← ih, trimEnd, trimEnd, List.reverse_concat,
          List.dropWhile_cons_of_pos hc]
      · rw [trimEnd, List.reverse_concat, List.dropWhile_cons_of_neg hc, List.reverse_cons,
          List.reverse_reverse]
  rw [trim, hend, hstart]

/-- Nothing is trimmed in front of a text without blanks. -/
lemma trimStart_of_free {cs : List Char} (h : ∀ c ∈ cs, isBlank c = false) : trimStart cs = cs := by
  cases cs with
  | nil => rfl
  | cons c cs => exact List.dropWhile_cons_of_neg (by simp [h c List.mem_cons_self])

/-- Nothing is trimmed of a text without blanks. -/
lemma trim_of_free {cs : List Char} (h : ∀ c ∈ cs, isBlank c = false) : trim cs = cs := by
  have hreverse : cs.reverse.dropWhile isBlank = cs.reverse := trimStart_of_free (by simpa using h)
  rw [trim, trimStart_of_free h, trimEnd, hreverse, List.reverse_reverse]

/-- A text that is trimmed is not trimmed further. -/
lemma trim_trim (cs : List Char) : trim (trim cs) = trim cs :=
  trim_invariant (fun _ cs hc => trim_cons hc cs) (fun cs _ hc => trim_concat hc cs) cs

/-- Trimming takes no character away that is not blank. -/
lemma mem_trim_iff {c : Char} (hc : isBlank c = false) (cs : List Char) :
    c ∈ trim cs ↔ c ∈ cs := by
  refine iff_of_eq (trim_invariant (f := (c ∈ ·)) (fun b cs hb => ?_) (fun cs b hb => ?_) cs)
  all_goals
    have hne : c ≠ b := by
      rintro rfl
      rw [hb] at hc
      cases hc
    simp [hne]

/-- The blanks at both ends of a text are in none of its words. -/
lemma words_trim (cs : List Char) : words (trim cs) = words cs :=
  trim_invariant (fun _ cs hc => runs_cons_break hc cs)
    (fun cs _ hc => (runs_append_break hc cs []).trans (List.append_nil _)) cs

end Remittance.Text
