import Remittance.Proofs.Run.Agreement
import Remittance.Proofs.Text.Utf8
/-!
# Replies in front of a line that is no text

In order, every request line in front of a line that is no text is replied to. In batches, the batch
that meets the line is lost with all that it had, so only the full batches in front of it are replied
to (`replyInBatches_of_fault`): the replies are the same exactly where the request lines in front of
the fault fill their batches (`inBatches_of_unreadable_line`).
-/

namespace Remittance.Run

variable {machine : Machine} {settings : BatchSettings} {size : ℕ} {requests : List RequestLine}
  {fault : Text.Utf8.Fault} {behind : List (Except Text.Utf8.Fault RequestLine)}

/-! ## Full batches -/

/-- How many of the request lines stand in full batches. -/
def inFullBatches (size count : ℕ) : ℕ := count / size * size

lemma inFullBatches_of_lt {count : ℕ} (h : count < size) : inFullBatches size count = 0 := by
  rw [inFullBatches, Nat.div_eq_of_lt h, Nat.zero_mul]

lemma inFullBatches_add (hsize : 0 < size) (count : ℕ) :
    inFullBatches size (size + count) = size + inFullBatches size count := by
  rw [inFullBatches, Nat.add_div_left count hsize, Nat.succ_mul, Nat.add_comm, inFullBatches]

lemma inFullBatches_eq_self_iff {count : ℕ} : inFullBatches size count = count ↔ size ∣ count :=
  ⟨fun h => h ▸ Nat.dvd_mul_left .., Nat.div_mul_cancel⟩

lemma inFullBatches_le (size count : ℕ) : inFullBatches size count ≤ count :=
  Nat.div_mul_le_self ..

/-! ## Replies in front of a fault -/

/-- Batches reply to the request lines in front of a fault that stand in full batches. -/
theorem replyInBatches_of_fault (desk : Desk) (hserves : machine.Serves settings)
    (lines : RequestLines) (h : lines.all = requests.map .ok ++ .error fault :: behind) :
    replyInBatches desk machine settings.size lines =
      (stopped (.file (.undecodable fault))).after
        ((requests.take (inFullBatches settings.size requests.length)).map
          fun line => desk.reply line.content) := by
  fun_induction replyInBatches desk machine settings.size lines generalizing requests with
  | case1 lines fault' rest hbatch =>
    have htakes := lines.takes_batch machine.room settings.size
    rw [hbatch] at htakes
    cases htakes with
    | noRoom unfit => exact absurd hserves.fits unfit
    | fault _ hall hlost =>
      obtain ⟨rfl, rfl⟩ := RequestLines.requests_fault_eq_of_append (hall.symm.trans h)
      rw [inFullBatches_of_lt hlost]
      rfl
  | case2 lines rest hbatch =>
    -- an empty batch is the end of the file, but the fault is still to come
    rw [RequestLines.all_eq_nil_of_batch_eq_nil settings.size_pos hbatch] at h
    simp at h
  | case3 lines first others rest hbatch _ ih =>
    have htakes := lines.takes_batch machine.room settings.size
    rw [hbatch] at htakes
    obtain ⟨-, hall, hle, hshort⟩ := htakes
    obtain ⟨left, rfl, hrest⟩ := RequestLines.exists_of_append_error (hall.symm.trans h)
    have hfull : (first :: others).length = settings.size := by
      refine Nat.le_antisymm hle (Nat.le_of_not_lt fun hlt => ?_)
      rw [hshort hlt] at hrest
      simp at hrest
    have hcount : inFullBatches settings.size ((first :: others) ++ left).length =
        (first :: others).length + inFullBatches settings.size left.length := by
      rw [List.length_append, hfull, inFullBatches_add settings.size_pos]
    rw [ih hrest, hserves.replies, hcount, List.take_length_add_append, List.map_append,
      after_append]
    rfl

/-- In order, all request lines in front of a fault are replied to. -/
lemma replyInOrder_of_fault (desk : Desk) {items : List (Except Text.Utf8.Fault RequestLine)}
    (h : items = requests.map .ok ++ .error fault :: behind) :
    replyInOrder desk items = (stopped (.file .notText)).after
      (requests.map fun line => desk.reply line.content) := by
  rw [h, replyInOrder_append]
  rfl

/-! ## Whole files -/

/-- The items of a file up to its first line that is no text. -/
lemma all_of_unreadable_line {bytes : List UInt8} {before after : List (List UInt8)}
    {bad : List UInt8} {texts : List (List Char)}
    (hsplit : RequestLines.split bytes = before ++ bad :: after)
    (hbefore : before.map RequestLines.text = texts.map .ok)
    (hbad : RequestLines.text bad = .error fault) :
    ∃ (requests : List RequestLine) (behind : List (Except Text.Utf8.Fault RequestLine)),
      (RequestLines.ofBytes bytes).all = requests.map .ok ++ .error fault :: behind ∧
      requests.map RequestLine.content = texts.filter fun cs => !RequestLines.isBlank cs := by
  obtain ⟨requests, hall, hcontents⟩ := RequestLines.allFrom_of_texts 0 hbefore
  refine ⟨requests, RequestLines.allFrom (0 + before.length) after, ?_, hcontents⟩
  rw [RequestLines.all, RequestLines.ofBytes, hsplit, RequestLines.allFrom_append 0 hbefore, hall,
    RequestLines.allFrom, hbad]

/-- A first part of some replies has all their bytes only if it is all of them. -/
lemma encode_lines_take_eq_iff {replies : List Envelope} {count : ℕ} (h : count ≤ replies.length) :
    Text.Utf8.encode (Envelope.lines (replies.take count)) =
      Text.Utf8.encode (Envelope.lines replies) ↔ count = replies.length := by
  constructor
  · intro hsame
    have hwhole : Text.Utf8.encode (Envelope.lines replies) =
        Text.Utf8.encode (Envelope.lines (replies.take count)) ++
          Text.Utf8.encode (Envelope.lines (replies.drop count)) := by
      rw [← Text.Utf8.encode_append, Envelope.lines, Envelope.lines, Envelope.lines,
        ← List.flatMap_append, List.take_append_drop]
    rw [hsame] at hwhole
    have hlines : Envelope.lines (replies.drop count) = [] := by
      by_contra hne
      exact Text.Utf8.encode_ne_nil hne (List.self_eq_append_right.mp hwhole)
    -- every reply ends with a line break, so no reply was left out
    have hdrop : replies.drop count = [] := by
      cases hdrop : replies.drop count with
      | nil => rfl
      | cons reply others => simp [hdrop, Envelope.lines, Envelope.line] at hlines
    exact Nat.le_antisymm h (List.drop_eq_nil_iff.mp hdrop)
  · rintro rfl
    rw [List.take_length]

/-- In a file with a line that is no text, both ways stop at the first such line, the batches on any
machine that serves them. In order, the replies are those to all lines in front of it that are not
blank. In batches, they are those to the ones that stand in full batches, so both ways write the same
bytes exactly if the lines in front of the fault that are not blank fill their batches. -/
theorem inBatches_of_unreadable_line (desk : Desk) (machine : Machine) (settings : BatchSettings)
    (path : String) {bytes : List UInt8} {before after : List (List UInt8)} {bad : List UInt8}
    {texts : List (List Char)} (hsplit : RequestLines.split bytes = before ++ bad :: after)
    (hbefore : before.map RequestLines.text = texts.map .ok)
    (hbad : RequestLines.text bad = .error fault) :
    let requests := texts.filter fun text => !RequestLines.isBlank text
    let full := inFullBatches settings.size requests.length
    let inOrder := Run.inOrder desk path (.file bytes)
    let inBatches := Run.inBatches desk machine settings path (.file bytes)
    inOrder.result = .error (.reported (.file .notText)) ∧
    inOrder.output = requests.flatMap (fun text => (desk.reply text).line) ∧
    (machine.Serves settings →
      inBatches.result = .error (.reported (.file (.undecodable fault))) ∧
      inBatches.output = (requests.take full).flatMap (fun text => (desk.reply text).line) ∧
      (Text.Utf8.encode inBatches.output = Text.Utf8.encode inOrder.output ↔
        settings.size ∣ requests.length)) := by
  obtain ⟨lines, behind, hall, hcontents⟩ := all_of_unreadable_line hsplit hbefore hbad
  intro requests full inOrder inBatches
  have hrequests : requests = lines.map RequestLine.content := hcontents.symm
  have hinOrder : inOrder = (stopped (.file .notText)).after (requests.map desk.reply) := by
    change replyInOrder desk (RequestLines.ofBytes bytes).all = _
    rw [replyInOrder_of_fault desk hall, hrequests, List.map_map]
    rfl
  have horder : inOrder.replies = requests.map desk.reply := by
    rw [hinOrder, Run.after, stopped, failed, List.append_nil]
  refine ⟨by rw [hinOrder]; rfl, ?_, fun hserves => ?_⟩
  · rw [output, horder, Envelope.lines, List.flatMap_map]
  · have hfull : inFullBatches settings.size lines.length = full := by
      change _ = inFullBatches settings.size requests.length
      rw [hrequests, List.length_map]
    have hinBatches : inBatches =
        (stopped (.file (.undecodable fault))).after ((requests.take full).map desk.reply) := by
      change Run.inBatches desk machine settings path (.file bytes) = _
      rw [inBatches_of_file hserves.threads, replyInBatches_of_fault desk hserves _ hall, hfull,
        hrequests, ← List.map_take, List.map_map]
      rfl
    have hbatches : inBatches.replies = (requests.map desk.reply).take full := by
      rw [hinBatches, Run.after, stopped, failed, List.append_nil, List.map_take]
    refine ⟨by rw [hinBatches]; rfl, ?_, ?_⟩
    · rw [output, hbatches, ← List.map_take, Envelope.lines, List.flatMap_map]
    · rw [output, output, horder, hbatches, encode_lines_take_eq_iff, List.length_map]
      · exact inFullBatches_eq_self_iff
      · rw [List.length_map]
        exact inFullBatches_le ..

/-- Two requests with a blank line between them fill a batch of two. -/
theorem inBatches_of_unreadable_line_full_batch :
    let desk := Desk.ofSettings Currency.defaults .reserveDebit
      ⟨2030, 6, 15, by decide, by decide, by decide⟩ .acceptAll
    let settings : BatchSettings := ⟨2, 1, by decide, by decide⟩
    let bytes : List UInt8 := [0x78, 0x0A, 0x20, 0x0A, 0x79, 0x0A, 0xFF, 0x0A, 0x7A]
    let inOrder := Run.inOrder desk "in.jsonl" (.file bytes)
    let inBatches := Run.inBatches desk .ample settings "in.jsonl" (.file bytes)
    inOrder.output = (desk.reply ['x']).line ++ (desk.reply ['y']).line ∧
      Text.Utf8.encode inBatches.output = Text.Utf8.encode inOrder.output := by
  intro desk settings bytes inOrder inBatches
  have hsplit : RequestLines.split bytes =
      [[0x78, 0x0A], [0x20, 0x0A], [0x79, 0x0A]] ++ [0xFF, 0x0A] :: [[0x7A]] := by decide
  have hbefore : [[0x78, 0x0A], [0x20, 0x0A], [0x79, 0x0A]].map RequestLines.text =
      [['x'], [' '], ['y']].map .ok := by decide +kernel
  have hbad : RequestLines.text [0xFF, 0x0A] = .error ⟨0, some 1⟩ := by decide +kernel
  obtain ⟨-, horder, hserved⟩ :=
    inBatches_of_unreadable_line desk .ample settings "in.jsonl" hsplit hbefore hbad
  obtain ⟨-, -, hsame⟩ := hserved (Machine.serves_ample (by decide))
  have hrequests : ([['x'], [' '], ['y']].filter fun text => !RequestLines.isBlank text) =
      [['x'], ['y']] := by decide
  rw [hrequests] at horder hsame
  refine ⟨?_, hsame.mpr (by decide)⟩
  rw [horder]
  simp

/-- One request in front of the fault: batches of two lose its reply. -/
theorem inBatches_loses_reply :
    let desk := Desk.ofSettings Currency.defaults .reserveDebit
      ⟨2030, 6, 15, by decide, by decide, by decide⟩ .acceptAll
    let settings : BatchSettings := ⟨2, 1, by decide, by decide⟩
    let bytes : List UInt8 := [0x78, 0x0A, 0xFF]
    Text.Utf8.encode (Run.inBatches desk .ample settings "in.jsonl" (.file bytes)).output = [] ∧
      Text.Utf8.encode (Run.inOrder desk "in.jsonl" (.file bytes)).output =
        Text.Utf8.encode (desk.reply ['x']).line ∧
      Text.Utf8.encode (desk.reply ['x']).line ≠ [] := by
  intro desk settings bytes
  have hall : (RequestLines.ofBytes bytes).all =
      [⟨1, ['x']⟩].map .ok ++ .error ⟨0, some 1⟩ :: [] := by decide +kernel
  have hserves : Machine.ample.Serves settings := Machine.serves_ample (by decide)
  have hinBatches : Run.inBatches desk .ample settings "in.jsonl" (.file bytes) =
      stopped (.file (.undecodable ⟨0, some 1⟩)) := by
    rw [inBatches_of_file hserves.threads, replyInBatches_of_fault desk hserves _ hall,
      inFullBatches_of_lt (by decide)]
    rfl
  have hinOrder : Run.inOrder desk "in.jsonl" (.file bytes) =
      (stopped (.file .notText)).after [desk.reply ['x']] :=
    replyInOrder_of_fault desk hall
  rw [hinBatches, hinOrder]
  refine ⟨rfl, ?_, Text.Utf8.encode_ne_nil (by simp [Envelope.line])⟩
  simp [output, Run.after, stopped, failed, Envelope.lines]

end Remittance.Run
