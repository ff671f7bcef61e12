import Mathlib.Data.List.Basic
import Mathlib.Tactic.Common
import Remittance.RequestLines
/-!
# What batches take from a file

A batch takes the next request lines of a file and leaves the others, one that meets a line that is
no text loses what it had taken, and one that there is no memory for takes nothing. These are all the
ways in which a batch can end (`RequestLines.takes_batch`). What stands in a file is told by the lines
themselves: the request lines of a file of texts are those that are not blank, and the first fault of
any other file is that of its first line that is no text.
-/

namespace Remittance.RequestLines

/-- The first of the lines that is no text has this fault. -/
def FirstFault (lines : List (List UInt8)) (fault : Text.Utf8.Fault) : Prop :=
  ∃ before line after, lines = before ++ line :: after ∧
    (∀ l ∈ before, ∃ cs, text l = .ok cs) ∧ text line = .error fault

/-! ## Memory -/

/-- There is memory for `size` request lines where it can be had for `room` of them. -/
def Fits (room size : ℕ) : Prop := size ≤ maxSize ∧ size ≤ room

instance (room size : ℕ) : Decidable (Fits room size) := inferInstanceAs (Decidable (_ ∧ _))

lemma reserve_eq_ok_iff {room size : ℕ} : reserve room size = .ok () ↔ Fits room size := by
  unfold reserve Fits
  split_ifs with hlarge hroom
  · simp [Nat.not_le.mpr hlarge]
  · simp [Nat.not_le.mpr hroom]
  · simp [Nat.not_lt.mp hlarge, Nat.not_lt.mp hroom]

/-! ## One batch -/

/-- What a batch of at most `size` request lines takes from the items of a file, once it has its
memory. Without a fault it has the first of them, fewer than `size` only if that is all; with a fault
it gives up what it had, which were fewer. -/
def TakesItems (size : ℕ) (items : List (Except Text.Utf8.Fault RequestLine)) :
    Except Text.Utf8.Fault (List RequestLine) × RequestLines → Prop
  | (.ok batch, rest) =>
    items = batch.map .ok ++ rest.all ∧
      batch.length ≤ size ∧ (batch.length < size → rest.all = [])
  | (.error fault, rest) =>
    ∃ lost : List RequestLine,
      items = lost.map .ok ++ .error fault :: rest.all ∧ lost.length < size

/-- A batch that may be longer takes one request line more. -/
lemma TakesItems.cons {size : ℕ} {items : List (Except Text.Utf8.Fault RequestLine)}
    {result : Except Text.Utf8.Fault (List RequestLine)} {rest : RequestLines}
    (h : TakesItems size items (result, rest)) (line : RequestLine) :
    TakesItems (size + 1) (.ok line :: items) (result.map (line :: ·), rest) := by
  cases result with
  | ok batch =>
    obtain ⟨rfl, hle, hshort⟩ := h
    exact ⟨rfl, Nat.succ_le_succ hle, fun hlt => hshort (Nat.lt_of_succ_lt_succ hlt)⟩
  | error fault =>
    obtain ⟨lost, rfl, hlost⟩ := h
    exact ⟨line :: lost, rfl, Nat.succ_lt_succ hlost⟩

lemma takesItems_batchFrom (count size : ℕ) (pending : List (List UInt8)) :
    TakesItems size (allFrom count pending) (batchFrom count size pending) := by
  induction pending generalizing count size with
  | nil =>
    cases size with
    | zero => exact ⟨rfl, Nat.le_refl _, fun hlt => absurd hlt (Nat.lt_irrefl _)⟩
    | succ size => exact ⟨rfl, Nat.zero_le _, fun _ => rfl⟩
  | cons line pending ih =>
    cases size with
    | zero => exact ⟨rfl, Nat.le_refl _, fun hlt => absurd hlt (Nat.lt_irrefl _)⟩
    | succ size =>
      rw [batchFrom, allFrom]
      cases text line with
      | error fault => exact ⟨[], rfl, Nat.succ_pos size⟩
      | ok content =>
        simp only
        split
        · exact ih (count + 1) (size + 1)
        · exact (ih (count + 1) size).cons ⟨count + 1, content⟩

/-- The ways in which a batch of a file can end, each with what is left of the file. -/
inductive Takes (room size : ℕ) (lines : RequestLines) :
    Except BatchFault (List RequestLine) × RequestLines → Prop
  /-- It has the next request lines, fewer than `size` only if that is all. -/
  | batch {batch : List RequestLine} {rest : RequestLines} (fits : Fits room size)
      (all_eq : lines.all = batch.map .ok ++ rest.all) (length_le : batch.length ≤ size)
      (short : batch.length < size → rest.all = []) : Takes room size lines (.ok batch, rest)
  /-- It meets a fault, and fewer than `size` request lines in front of it are lost. -/
  | fault {lost : List RequestLine} {fault : Text.Utf8.Fault} {rest : RequestLines}
      (fits : Fits room size) (all_eq : lines.all = lost.map .ok ++ .error fault :: rest.all)
      (lost_lt : lost.length < size) :
      Takes room size lines (.error (.undecodable fault), rest)
  /-- There is no memory for it, and nothing is read. -/
  | noRoom {fault : BatchFault} (unfit : ¬ Fits room size)
      (refusal : reserve room size = .error fault) : Takes room size lines (.error fault, lines)

/-- Every batch ends in one of these ways. -/
theorem takes_batch (lines : RequestLines) (room size : ℕ) :
    Takes room size lines (lines.batch room size) := by
  unfold batch
  cases hreserve : reserve room size with
  | error fault =>
    refine .noRoom (fun fits => ?_) hreserve
    rw [reserve_eq_ok_iff.mpr fits] at hreserve
    cases hreserve
  | ok reserved =>
    have fits := reserve_eq_ok_iff.mp hreserve
    have htakes := takesItems_batchFrom lines.count size lines.pending
    obtain ⟨⟨result, rest⟩, hbatch⟩ : ∃ taken, batchFrom lines.count size lines.pending = taken :=
      ⟨_, rfl⟩
    rw [hbatch] at htakes
    simp only [hbatch]
    cases result with
    | ok batch =>
      obtain ⟨hall, hle, hshort⟩ := htakes
      exact .batch fits hall hle hshort
    | error fault =>
      obtain ⟨lost, hall, hlost⟩ := htakes
      exact .fault fits hall hlost

/-- A batch that may have lines and has none is the end of the file. -/
lemma all_eq_nil_of_batch_eq_nil {lines rest : RequestLines} {room size : ℕ} (hsize : 0 < size)
    (h : lines.batch room size = (.ok [], rest)) : lines.all = [] := by
  have htakes := lines.takes_batch room size
  rw [h] at htakes
  obtain ⟨-, hall, -, hshort⟩ := htakes
  rw [hall, hshort hsize]
  rfl

/-! ## All lines of a file -/

/-- The request lines of texts are those that are not blank. -/
lemma allFrom_of_texts (count : ℕ) {lines : List (List UInt8)} {texts : List (List Char)}
    (h : lines.map text = texts.map .ok) :
    ∃ requests : List RequestLine, allFrom count lines = requests.map .ok ∧
      requests.map RequestLine.content = texts.filter fun cs => !isBlank cs := by
  induction lines generalizing count texts with
  | nil =>
    obtain rfl : texts = [] := by simpa using h.symm
    exact ⟨[], rfl, rfl⟩
  | cons line lines ih =>
    cases texts with
    | nil => simp at h
    | cons cs texts =>
      obtain ⟨hline, hlines⟩ := List.cons.inj h
      obtain ⟨requests, hall, hcontents⟩ := ih (count + 1) hlines
      rw [allFrom]
      simp only [hline]
      by_cases hblank : isBlank cs
      · exact ⟨requests, by simp [hblank, hall], by simp [hblank, hcontents]⟩
      · exact ⟨⟨count + 1, cs⟩ :: requests, by simp [hblank, hall], by simp [hblank, hcontents]⟩

/-- Lines behind texts are counted on from them. -/
lemma allFrom_append (count : ℕ) {lines : List (List UInt8)} {texts : List (List Char)}
    (h : lines.map text = texts.map .ok) (others : List (List UInt8)) :
    allFrom count (lines ++ others) =
      allFrom count lines ++ allFrom (count + lines.length) others := by
  induction lines generalizing count texts with
  | nil => rfl
  | cons line lines ih =>
    cases texts with
    | nil => simp at h
    | cons cs texts =>
      obtain ⟨hline, hlines⟩ := List.cons.inj h
      rw [List.cons_append, allFrom, allFrom]
      simp only [hline]
      rw [ih (count + 1) hlines, List.length_cons, Nat.add_right_comm, Nat.add_assoc]
      split <;> rfl

/-- The first fault among the items of a file is that of its first line that is no text. -/
lemma firstFault_of_allFrom {count : ℕ} {lines : List (List UInt8)} {requests : List RequestLine}
    {fault : Text.Utf8.Fault} {items : List (Except Text.Utf8.Fault RequestLine)}
    (h : allFrom count lines = requests.map .ok ++ .error fault :: items) :
    FirstFault lines fault := by
  induction lines generalizing count requests with
  | nil => simp [allFrom] at h
  | cons line lines ih =>
    rw [allFrom] at h
    cases htext : text line with
    | error fault' =>
      simp only [htext] at h
      cases requests with
      | nil =>
        obtain ⟨hfault, -⟩ := List.cons.inj h
        exact ⟨[], line, lines, rfl, by simp, by rw [htext, Except.error.inj hfault]⟩
      | cons request requests => simp at h
    | ok cs =>
      -- the line is a text, so the first fault is among the lines behind it
      have hrest : FirstFault lines fault := by
        simp only [htext] at h
        split at h
        · exact ih h
        · cases requests with
          | nil => simp at h
          | cons request requests => exact ih (List.cons.inj h).2
      obtain ⟨before, bad, after, rfl, hbefore, hbad⟩ := hrest
      refine ⟨line :: before, bad, after, rfl, ?_, hbad⟩
      rw [List.forall_mem_cons]
      exact ⟨⟨cs, htext⟩, hbefore⟩

/-- The first line that is no text is the first fault among the items of its file. -/
lemma exists_allFrom_of_firstFault (count : ℕ) {lines : List (List UInt8)}
    {fault : Text.Utf8.Fault} (h : FirstFault lines fault) :
    ∃ (requests : List RequestLine) (items : List (Except Text.Utf8.Fault RequestLine)),
      allFrom count lines = requests.map .ok ++ .error fault :: items := by
  obtain ⟨before, line, after, rfl, hbefore, hline⟩ := h
  induction before generalizing count with
  | nil =>
    refine ⟨[], allFrom count after, ?_⟩
    rw [List.nil_append, allFrom, hline]
    rfl
  | cons first before ih =>
    rw [List.forall_mem_cons] at hbefore
    obtain ⟨⟨cs, hfirst⟩, hbefore⟩ := hbefore
    obtain ⟨requests, items, hall⟩ := ih (count + 1) hbefore
    rw [List.cons_append, allFrom, hfirst]
    by_cases hblank : isBlank cs
    · exact ⟨requests, items, by simp [hblank, hall]⟩
    · exact ⟨⟨count + 1, cs⟩ :: requests, items, by simp [hblank, hall]⟩

/-- Request lines that stand in front of a fault are among the first ones there. -/
lemma exists_of_append_error {taken requests : List RequestLine} {fault : Text.Utf8.Fault}
    {items behind : List (Except Text.Utf8.Fault RequestLine)}
    (h : taken.map .ok ++ items = requests.map .ok ++ .error fault :: behind) :
    ∃ others, requests = taken ++ others ∧ items = others.map .ok ++ .error fault :: behind := by
  induction taken generalizing requests with
  | nil => exact ⟨requests, rfl, h⟩
  | cons line taken ih =>
    cases requests with
    | nil => simp at h
    | cons line' requests =>
      obtain ⟨hline, hrest⟩ := List.cons.inj h
      obtain ⟨others, rfl, hitems⟩ := ih hrest
      cases hline
      exact ⟨others, rfl, hitems⟩

/-- There is one first fault among the items of a file. -/
lemma requests_fault_eq_of_append {requests requests' : List RequestLine}
    {fault fault' : Text.Utf8.Fault} {items items' : List (Except Text.Utf8.Fault RequestLine)}
    (h : requests.map .ok ++ .error fault :: items = requests'.map .ok ++ .error fault' :: items') :
    requests = requests' ∧ fault = fault' := by
  obtain ⟨others, rfl, hitems⟩ := exists_of_append_error h
  cases others with
  | nil =>
    obtain ⟨hfault, -⟩ := List.cons.inj hitems
    exact ⟨(List.append_nil _).symm, Except.error.inj hfault⟩
  | cons line others => cases (List.cons.inj hitems).1

end Remittance.RequestLines
