import Remittance.Proofs.RequestLines.Batches
/-!
# The numbers of the request lines

A request line stands in its file behind `front` whole lines, so its place in the file is one more
than these. Its number is that place less the lines among them that are no texts, since a line at
fault is read over without being counted (`number_add_faults`). The readers agree on this, also
behind a fault.
-/

namespace Remittance.RequestLines

open Text.Utf8 (encode)

variable {bytes front : List UInt8} {lines : List (List UInt8)} {count : ℕ} {request : RequestLine}
  {file : RequestLines} {room : ℕ} {sizes : List ℕ} {batch : List RequestLine}

/-- A line is a text. -/
def isText (line : List UInt8) : Bool := (text line).isOk

/-- How many of the lines are no texts. -/
def faults (bytes : List UInt8) : ℕ := (split bytes).countP fun line => !isText line

/-- Where the line behind these whole lines stands, counted from one. -/
def position (front : List UInt8) : ℕ := front.count 10 + 1

/-- The request line stands in the file, and every line in front of it is counted in its number but
those that are no texts. -/
def CountedIn (bytes : List UInt8) (request : RequestLine) : Prop :=
  isBlank request.content = false ∧ ∃ front, StandsBehind bytes front request.content ∧
    request.number + faults front = position front ∧
    (request.number = position front ↔ ∀ line ∈ split front, ∃ cs, line = encode cs)

/-! ## Texts and faults -/

lemma isText_of_text {line : List UInt8} {cs : List Char} (h : text line = .ok cs) :
    isText line = true := by
  rw [isText, h]
  rfl

lemma isText_iff {line : List UInt8} : isText line = true ↔ ∃ cs, line = encode cs := by
  rw [← exists_text_iff]
  constructor
  · intro h
    cases htext : text line with
    | error fault =>
      rw [isText, htext] at h
      cases h
    | ok cs => exact ⟨cs, rfl⟩
  · rintro ⟨cs, htext⟩
    exact isText_of_text htext

lemma countP_isText_cons (line : List UInt8) :
    (line :: lines).countP isText = (isText line).toNat + lines.countP isText := by
  rw [List.countP_cons, Nat.add_comm]
  cases isText line <;> rfl

/-- Every whole line is a text or a fault. -/
lemma countP_isText_add_faults (hwhole : WholeLines front) :
    (split front).countP isText + faults front = front.count 10 := by
  rw [← length_split hwhole, List.length_eq_countP_add_countP isText, faults]
  simp only [Bool.not_eq_true, Bool.decide_eq_false]

lemma faults_eq_zero_iff : faults front = 0 ↔ ∀ line ∈ split front, ∃ cs, line = encode cs := by
  rw [faults, List.countP_eq_zero]
  refine forall₂_congr fun line _ => ?_
  rw [← isText_iff, Bool.not_eq_true, Bool.not_eq_false']

/-! ## The items of a file -/

/-- A request line is the first line, or one behind it. -/
lemma ok_mem_allFrom_cons_iff {line : List UInt8} :
    .ok request ∈ allFrom count (line :: lines) ↔
      (text line = .ok request.content ∧ isBlank request.content = false ∧
          request.number = count + 1) ∨
        .ok request ∈ allFrom (count + (isText line).toNat) lines := by
  rw [allFrom]
  cases htext : text line with
  | error fault => simp [isText, htext, Except.isOk, Except.toBool]
  | ok content =>
    rw [isText_of_text htext, Bool.toNat_true]
    obtain ⟨number, cs⟩ := request
    by_cases hblank : isBlank content
    · simp only [hblank, if_true]
      grind
    · simp only [hblank]
      grind

/-- The request lines of a file are its texts that are not blank, and the number of one counts the
texts up to it. -/
lemma ok_mem_allFrom_iff : .ok request ∈ allFrom count lines ↔
    ∃ before line after, lines = before ++ line :: after ∧ text line = .ok request.content ∧
      isBlank request.content = false ∧ request.number = count + before.countP isText + 1 := by
  induction lines generalizing count with
  | nil => simp [allFrom]
  | cons first lines ih =>
    rw [ok_mem_allFrom_cons_iff, ih]
    constructor
    · rintro (⟨htext, hblank, hnumber⟩ | ⟨before, line, after, rfl, htext, hblank, hnumber⟩)
      · exact ⟨[], first, lines, rfl, htext, hblank, hnumber⟩
      · refine ⟨first :: before, line, after, rfl, htext, hblank, ?_⟩
        rw [hnumber, countP_isText_cons]
        omega
    · rintro ⟨_ | ⟨_, before⟩, line, after, hlines, htext, hblank, hnumber⟩
      · obtain ⟨rfl, rfl⟩ := List.cons.inj hlines
        exact .inl ⟨htext, hblank, hnumber⟩
      · obtain ⟨rfl, rfl⟩ := List.cons.inj hlines
        refine .inr ⟨before, line, after, rfl, htext, hblank, ?_⟩
        rw [hnumber, countP_isText_cons]
        omega

/-- The items of a file are what is counted in it. -/
lemma ok_mem_all_iff : .ok request ∈ (ofBytes bytes).all ↔ CountedIn bytes request := by
  have hiff : .ok request ∈ allFrom 0 (split bytes) ↔ _ := ok_mem_allFrom_iff
  simp only [Nat.zero_add] at hiff
  rw [all, ofBytes, CountedIn, hiff]
  constructor
  · rintro ⟨before, line, after, hsplit, htext, hblank, hnumber⟩
    obtain ⟨front, rfl, hstands⟩ := exists_standsBehind hsplit htext
    have hfaults := countP_isText_add_faults hstands.1
    refine ⟨hblank, front, hstands, ?_, ?_⟩
    · rw [position]
      omega
    · rw [← faults_eq_zero_iff, position]
      omega
  · rintro ⟨hblank, front, hstands, hnumber, -⟩
    obtain ⟨line, after, hsplit, htext⟩ := split_of_standsBehind hstands
    have hfaults := countP_isText_add_faults hstands.1
    refine ⟨split front, line, after, hsplit, htext, hblank, ?_⟩
    rw [position] at hnumber
    omega

/-! ## Batches -/

/-- A batch and what stands behind it are items of the file, also where the batch failed. -/
lemma batch_subset (file : RequestLines) (room size : ℕ) :
    (∀ batch, (file.batch room size).1 = .ok batch →
      ∀ request ∈ batch, .ok request ∈ file.all) ∧
      ∀ item ∈ (file.batch room size).2.all, item ∈ file.all := by
  have htakes := file.takes_batch room size
  generalize file.batch room size = taken at htakes ⊢
  cases htakes with
  | noRoom => exact ⟨nofun, fun _ hitem => hitem⟩
  | fault _ hall =>
    rw [hall]
    refine ⟨nofun, fun item hitem => ?_⟩
    exact List.mem_append_right _ (List.mem_cons_of_mem _ hitem)
  | batch _ hall =>
    rw [hall]
    refine ⟨?_, fun item hitem => List.mem_append_right _ hitem⟩
    rintro _ ⟨⟩ request hrequest
    exact List.mem_append_left _ (List.mem_map_of_mem hrequest)

/-- Every line in a batch is an item of the file, however many batches were read or failed before.
-/
lemma mem_all_of_mem_batches (hbatch : .ok batch ∈ file.batches room sizes)
    (hrequest : request ∈ batch) : .ok request ∈ file.all := by
  induction sizes generalizing file with
  | nil => cases hbatch
  | cons size sizes ih =>
    obtain ⟨hfirst, hrest⟩ := batch_subset file room size
    rw [batches, List.mem_cons] at hbatch
    rcases hbatch with hbatch | hbatch
    · exact hfirst batch hbatch.symm request hrequest
    · exact hrest _ (ih hbatch)

/-- The request lines of a file are its lines that are texts and not blank, as they stand in it
without their ends. The number of one is its place in the file less the lines in front of it that
are no texts, so it is its place exactly if there are none. The same holds of every line in a batch,
whatever the sizes of the batches are, however much memory there is and however many of them fail. -/
theorem number_add_faults (bytes : List UInt8) :
    (∀ request, .ok request ∈ (ofBytes bytes).all ↔ CountedIn bytes request) ∧
      ∀ (room : ℕ) (sizes : List ℕ) (batch : List RequestLine),
        .ok batch ∈ (ofBytes bytes).batches room sizes →
          ∀ request ∈ batch, CountedIn bytes request :=
  ⟨fun _ => ok_mem_all_iff, fun _ _ _ hbatch _ hrequest =>
    ok_mem_all_iff.mp (mem_all_of_mem_batches hbatch hrequest)⟩

/-- The line behind a line that is no text has the number one, read on its own and in a batch, and
it stands in the file as the second one. -/
theorem number_behind_fault :
    let bytes : List UInt8 := [0xFF, 0x0A, 0x41, 0x0A]
    (ofBytes bytes).all = [.error ⟨0, some 1⟩, .ok ⟨1, ['A']⟩] ∧
      (ofBytes bytes).batches 1 [1, 1] =
        [.error (.undecodable ⟨0, some 1⟩), .ok [⟨1, ['A']⟩]] ∧
      ∀ front, StandsBehind bytes front ['A'] → position front = 2 := by
  intro bytes
  refine ⟨by decide +kernel, by decide +kernel, fun front hstands => ?_⟩
  obtain ⟨line, after, hsplit, htext⟩ := split_of_standsBehind hstands
  have hbytes : split bytes = [[0xFF, 0x0A], [0x41, 0x0A]] := by decide
  have hfault : text [0xFF, 0x0A] = .error ⟨0, some 1⟩ := by decide +kernel
  rw [position, ← length_split hstands.1]
  rw [hbytes] at hsplit
  -- the first line is no text, so the line is the other one
  match hfront : split front, hsplit with
  | [], hsplit =>
    obtain rfl := (List.cons.inj hsplit).1
    rw [hfault] at htext
    cases htext
  | [_], _ => rfl
  | _ :: _ :: front, hsplit => simp at hsplit

end Remittance.RequestLines
