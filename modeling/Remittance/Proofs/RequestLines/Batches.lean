import Mathlib.Algebra.GroupWithZero.Nat
import Mathlib.Data.List.SplitLengths
import Remittance.Proofs.RequestLines
import Remittance.Proofs.RequestLines.PhysicalLines
/-!
# Batches one after another

`batches` reads a file in batches of any sizes, and goes on behind a batch that failed. In a file of
texts only a batch that there is no memory for fails, and it leaves the others as they are
(`batches_of_requests`). Each of these is the next piece of the request lines, so together they are
the first of these lines in their order, and only the end of the file makes one shorter than its size
(`batches_partition`).
-/

namespace Remittance.RequestLines

open Text.Utf8 (encode)

variable {lines : RequestLines} {requests : List RequestLine} {room size : ℕ} {sizes : List ℕ}

/-- What batches of these sizes give one after another. Each goes on where the one before it
stopped, and so does one behind a batch that failed. -/
def batches (lines : RequestLines) (room : ℕ) :
    List ℕ → List (Except BatchFault (List RequestLine))
  | [] => []
  | size :: sizes => (lines.batch room size).1 :: (lines.batch room size).2.batches room sizes

/-! ## Pieces of a list -/

section
variable {α : Type*} {xs piece : List α} {i : ℕ}

lemma flatten_splitLengths_eq_take (sizes : List ℕ) (xs : List α) :
    (sizes.splitLengths xs).flatten = xs.take sizes.sum := by
  induction sizes generalizing xs with
  | nil => simp
  | cons size sizes ih =>
    rw [List.splitLengths_cons, List.flatten_cons, ih, List.sum_cons, List.take_add]

/-- A piece is too short only where the pieces up to it are everything. -/
lemma length_le_of_short_piece (hpiece : (sizes.splitLengths xs)[i]? = some piece)
    (hsize : sizes[i]? = some size) (hshort : piece.length < size) :
    xs.length ≤ (sizes.take (i + 1)).sum := by
  induction sizes generalizing xs i with
  | nil => simp at hsize
  | cons first sizes ih =>
    rw [List.splitLengths_cons] at hpiece
    cases i with
    | zero =>
      simp only [List.getElem?_cons_zero, Option.some.injEq] at hpiece hsize
      rw [← hpiece, List.length_take, ← hsize] at hshort
      simp only [Nat.zero_add, List.take_one, List.head?_cons, Option.toList_some,
        List.sum_singleton]
      omega
    | succ i =>
      rw [List.getElem?_cons_succ] at hpiece hsize
      have hdrop := ih hpiece hsize
      rw [List.length_drop] at hdrop
      rw [List.take_succ_cons, List.sum_cons]
      omega

/-- Behind a piece that is too short, nothing is left. -/
lemma splitLengths_of_short_piece (hpiece : (sizes.splitLengths xs)[i]? = some piece)
    (hsize : sizes[i]? = some size) (hshort : piece.length < size) :
    ((sizes.splitLengths xs).take (i + 1)).flatten = xs ∧
      ∀ later ∈ (sizes.splitLengths xs).drop (i + 1), later = [] := by
  have hall : ((sizes.splitLengths xs).take (i + 1)).flatten = xs := by
    rw [List.take_splitLength, flatten_splitLengths_eq_take,
      List.take_of_length_le (length_le_of_short_piece hpiece hsize hshort)]
  refine ⟨hall, ?_⟩
  have hflatten := flatten_splitLengths_eq_take sizes xs
  rw [← List.take_append_drop (i + 1) (sizes.splitLengths xs), List.flatten_append, hall]
    at hflatten
  have hlength := congrArg List.length hflatten
  rw [List.length_append, List.length_take] at hlength
  have hnil : ((sizes.splitLengths xs).drop (i + 1)).flatten = [] :=
    List.eq_nil_of_length_eq_zero (by omega)
  exact List.flatten_eq_nil_iff.mp hnil

end

/-! ## Files of texts -/

@[simp] lemma isOk_ok (batch : List RequestLine) :
    (.ok batch : Except BatchFault (List RequestLine)).isOk = true := rfl

@[simp] lemma isOk_error (fault : BatchFault) :
    (.error fault : Except BatchFault (List RequestLine)).isOk = false := rfl

/-- A batch of a file without faults is the next piece of its request lines, if there is memory for it.
-/
lemma batch_of_requests (h : lines.all = requests.map .ok) (fits : Fits room size) :
    (lines.batch room size).1 = .ok (requests.take size) ∧
      (lines.batch room size).2.all = (requests.drop size).map .ok := by
  have htakes := lines.takes_batch room size
  generalize lines.batch room size = taken at htakes ⊢
  cases htakes with
  | noRoom unfit => exact absurd fits unfit
  | fault _ hall =>
    rw [h] at hall
    have hmem : Except.error _ ∈ requests.map Except.ok :=
      hall ▸ List.mem_append_right _ List.mem_cons_self
    simp at hmem
  | batch _ hall hle hshort =>
    rw [h] at hall
    obtain ⟨front, back, rfl, hfront, hback⟩ := List.map_eq_append_iff.mp hall
    obtain rfl := List.map_injective_iff.mpr (fun _ _ => Except.ok.inj) hfront
    rcases hle.lt_or_eq with hlt | rfl
    · have hnil : back = [] := List.map_eq_nil_iff.mp (hback.trans (hshort hlt))
      rw [hnil, List.append_nil, List.take_of_length_le hle, List.drop_eq_nil_of_le hle, ← hback,
        hnil]
      exact ⟨rfl, rfl⟩
    · rw [List.take_left, List.drop_left]
      exact ⟨rfl, hback.symm⟩

/-- A batch that there is no memory for fails, and nothing is read. -/
lemma batch_of_unfit (lines : RequestLines) (unfit : ¬ Fits room size) :
    ∃ fault, lines.batch room size = (.error fault, lines) := by
  have htakes := lines.takes_batch room size
  generalize lines.batch room size = taken at htakes ⊢
  cases htakes with
  | noRoom => exact ⟨_, rfl⟩
  | batch fits => exact absurd fits unfit
  | fault fits => exact absurd fits unfit

/-- Batches of a file without faults fail where there is no memory for them, and the others are its
request lines piece by piece. -/
lemma batches_of_requests (h : lines.all = requests.map .ok) (room : ℕ) (sizes : List ℕ) :
    (lines.batches room sizes).map Except.isOk = sizes.map (fun size => decide (Fits room size)) ∧
      (lines.batches room sizes).filter Except.isOk =
        ((sizes.filter fun size => Fits room size).splitLengths requests).map .ok := by
  induction sizes generalizing lines requests with
  | nil => exact ⟨rfl, rfl⟩
  | cons size sizes ih =>
    rw [batches]
    by_cases fits : Fits room size
    · obtain ⟨hbatch, hrest⟩ := batch_of_requests h fits
      obtain ⟨hok, hpieces⟩ := ih hrest
      simp [List.filter_cons, hbatch, hok, hpieces, fits]
    · obtain ⟨fault, hbatch⟩ := lines.batch_of_unfit fits
      obtain ⟨hok, hpieces⟩ := ih h
      simp [hbatch, hok, hpieces, fits]

/-- No batch fails exactly if there is memory for all of them. -/
lemma forall_isOk_batches_iff (h : lines.all = requests.map .ok) :
    (∀ result ∈ lines.batches room sizes, result.isOk) ↔ ∀ size ∈ sizes, Fits room size := by
  have hok := (batches_of_requests h room sizes).1
  rw [← List.forall_mem_map (P := fun ok => ok = true), hok, List.forall_mem_map]
  simp only [decide_eq_true_eq]

/-- A file of texts has no faults. -/
lemma exists_requests_of_texts {bytes : List UInt8}
    (h : ∀ line ∈ split bytes, ∃ cs, line = encode cs) :
    ∃ requests : List RequestLine, (ofBytes bytes).all = requests.map .ok := by
  have htexts : ∀ line ∈ split bytes, ∃ cs, text line = .ok cs := fun line hline =>
    exists_text_iff.mpr (h line hline)
  choose! read hread using htexts
  have hmap : (split bytes).map text = ((split bytes).map read).map .ok := by
    rw [List.map_map]
    exact List.map_congr_left hread
  obtain ⟨requests, hall, -⟩ := allFrom_of_texts 0 hmap
  exact ⟨requests, hall⟩

/-- In a file whose lines are all texts, a batch fails exactly if there is no memory for its size. The
others hold one after another the first request lines of the file, in their order and each of them
once, as many as their sizes sum up to or all that there are. None is longer than its size, and a
shorter one is where the request lines end: all of them have been read with it, and every later batch
is empty. These are all batches exactly if there is memory for every size. -/
theorem batches_partition {bytes : List UInt8} (h : ∀ line ∈ split bytes, ∃ cs, line = encode cs)
    (room : ℕ) (sizes : List ℕ) :
    let batches := (ofBytes bytes).batches room sizes
    let fitting := sizes.filter fun size => Fits room size
    ∃ (requests : List RequestLine) (pieces : List (List RequestLine)),
      (ofBytes bytes).all = requests.map .ok ∧
      batches.map Except.isOk = sizes.map (fun size => decide (Fits room size)) ∧
      batches.filter Except.isOk = pieces.map .ok ∧
      (batches = pieces.map .ok ↔ ∀ size ∈ sizes, Fits room size) ∧
      pieces.length = fitting.length ∧ pieces.flatten = requests.take fitting.sum ∧
      ∀ (i size : ℕ) (piece : List RequestLine), fitting[i]? = some size → pieces[i]? = some piece →
        piece.length ≤ size ∧
          (piece.length < size → (pieces.take (i + 1)).flatten = requests ∧
            ∀ later ∈ pieces.drop (i + 1), later = []) := by
  intro batches fitting
  obtain ⟨requests, hall⟩ := exists_requests_of_texts h
  obtain ⟨hok, hpieces⟩ := batches_of_requests hall room sizes
  refine ⟨requests, fitting.splitLengths requests, hall, hok, hpieces, ?_,
    List.length_splitLengths .., flatten_splitLengths_eq_take fitting requests, ?_⟩
  · rw [← hpieces, ← forall_isOk_batches_iff hall, eq_comm, List.filter_eq_self]
  · intro i size piece hsize hpiece
    refine ⟨?_, splitLengths_of_short_piece hpiece hsize⟩
    obtain ⟨hi, hget⟩ := List.getElem?_eq_some_iff.mp hpiece
    obtain ⟨hi', hget'⟩ := List.getElem?_eq_some_iff.mp hsize
    rw [← hget, ← hget']
    exact List.length_splitLengths_getElem_le ..

/-- Blank lines, both kinds of line ends and none behind the last line, a batch of size zero, and one
that no memory is large enough for. -/
theorem batches_partition_of_five :
    let bytes := encode "\na\r\n \nb\nc\n\n\td\ne".toList
    (∀ line ∈ split bytes, ∃ cs, line = encode cs) ∧
      ∃ (requests : List RequestLine) (pieces : List (List RequestLine)),
        (ofBytes bytes).all = requests.map .ok ∧ requests.length = 5 ∧
        ((ofBytes bytes).batches maxSize [2, 0, 2 ^ 62, 1, 4, 3]).map Except.isOk =
          [true, true, false, true, true, true] ∧
        ((ofBytes bytes).batches maxSize [2, 0, 2 ^ 62, 1, 4, 3]).filter Except.isOk =
          pieces.map .ok ∧
        pieces.length = 5 ∧ pieces.flatten = requests.take 10 := by
  intro bytes
  have hsplit : split bytes = ["\n", "a\r\n", " \n", "b\n", "c\n", "\n", "\td\n", "e"].map
      fun line => encode line.toList := by decide +kernel
  have htexts : ∀ line ∈ split bytes, ∃ cs, line = encode cs := by
    rw [hsplit, List.forall_mem_map]
    exact fun line _ => ⟨line.toList, rfl⟩
  obtain ⟨requests, pieces, hall, hok, hpieces, -, hlength, hflatten, -⟩ :=
    batches_partition htexts maxSize [2, 0, 2 ^ 62, 1, 4, 3]
  have hfive : (ofBytes bytes).all.length = 5 := by decide +kernel
  rw [hall, List.length_map] at hfive
  exact ⟨htexts, requests, pieces, hall, hfive, hok, hpieces, hlength, hflatten⟩

/-- A file of one line, and a batch that may be longer than any memory holds: however much memory there
is, the batch is not read. -/
theorem batches_refuse_too_large :
    let bytes := encode "a\n".toList
    (ofBytes bytes).all = [.ok ⟨1, ['a']⟩] ∧
      ∀ room, (ofBytes bytes).batches room [2 ^ 62] = [.error .tooLarge] := by
  intro bytes
  refine ⟨by decide +kernel, fun room => ?_⟩
  have hreserve : reserve room (2 ^ 62) = .error .tooLarge := if_pos (by decide)
  rw [batches, batch, hreserve]
  rfl

end Remittance.RequestLines
