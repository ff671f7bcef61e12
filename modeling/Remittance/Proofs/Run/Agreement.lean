import Remittance.Proofs.Run.Schedule
/-!
# Replies in order and in batches

A file of texts gets the same replies in either way, one for each line that is not blank and in the
order of the lines. In a file with a line that is no text both ways end there, the batches perhaps
with fewer replies, and each tells of the line in its own words. Where the machine refuses something,
the batches end early and their replies are the first ones (`Run.inBatches_agrees`).
-/

namespace Remittance.Run

variable {desk : Desk} {machine : Machine} {settings : BatchSettings} {path : String}

/-! ## Replies to items -/

lemma after_append (run : Run) (replies replies' : List Envelope) :
    run.after (replies ++ replies') = (run.after replies').after replies := by
  simp [after]

/-- Request lines are replied to before what stands behind them. -/
lemma replyInOrder_append (desk : Desk) (requests : List RequestLine)
    (items : List (Except Text.Utf8.Fault RequestLine)) :
    replyInOrder desk (requests.map .ok ++ items) =
      (replyInOrder desk items).after (requests.map fun line => desk.reply line.content) := by
  induction requests with
  | nil => rfl
  | cons line requests ih =>
    rw [List.map_cons, List.cons_append, replyInOrder, ih, ← after_append]
    rfl

/-- Request lines alone are all replied to. -/
lemma replyInOrder_requests (desk : Desk) (requests : List RequestLine) :
    replyInOrder desk (requests.map .ok) =
      done.after (requests.map fun line => desk.reply line.content) := by
  have happend := replyInOrder_append desk requests []
  rwa [List.append_nil] at happend

/-- How the replies in batches compare with those in order: they are the same, or both ways stop at
the first fault, and the batches may have replied to fewer of the lines in front of it. Where the
batches are not served, they may fail anywhere. -/
def Agrees (served : Prop) (items : List (Except Text.Utf8.Fault RequestLine))
    (inOrder inBatches : Run) : Prop :=
  (inBatches = inOrder ∧ inOrder.result = .ok ()) ∨
    (∃ (requests : List RequestLine) (fault : Text.Utf8.Fault)
      (behind : List (Except Text.Utf8.Fault RequestLine)),
      items = requests.map .ok ++ .error fault :: behind ∧
        inOrder.result = .error (.reported (.file .notText)) ∧
        inBatches.result = .error (.reported (.file (.undecodable fault))) ∧
        inBatches.replies <+: inOrder.replies) ∨
    (¬ served ∧ (∃ fault, inBatches.result = .error fault) ∧ inBatches.replies <+: inOrder.replies)

section
variable {served : Prop} {items : List (Except Text.Utf8.Fault RequestLine)}
  {inOrder inBatches : Run}

/-- The comparison is not changed by replies that both ways have written before. -/
lemma Agrees.after (h : Agrees served items inOrder inBatches) (desk : Desk)
    (requests : List RequestLine) :
    Agrees served (requests.map .ok ++ items)
      (inOrder.after (requests.map fun line => desk.reply line.content))
      (inBatches.after (requests.map fun line => desk.reply line.content)) := by
  rcases h with ⟨rfl, hresult⟩ | ⟨others, fault, behind, rfl, hinOrder, hinBatches, hreplies⟩ |
    ⟨hserved, hfailed, hreplies⟩
  · exact .inl ⟨rfl, hresult⟩
  · refine .inr (.inl ⟨requests ++ others, fault, behind, ?_, hinOrder, hinBatches, ?_⟩)
    · rw [List.map_append, List.append_assoc]
    · exact (List.prefix_append_right_inj _).mpr hreplies
  · exact .inr (.inr ⟨hserved, hfailed, (List.prefix_append_right_inj _).mpr hreplies⟩)

lemma Agrees.replies_prefix (h : Agrees served items inOrder inBatches) :
    inBatches.replies <+: inOrder.replies := by
  rcases h with ⟨rfl, -⟩ | ⟨-, -, -, -, -, -, hreplies⟩ | ⟨-, -, hreplies⟩
  · exact List.prefix_refl _
  · exact hreplies
  · exact hreplies

/-- Batches that end well are complete, whether they are served or not. -/
lemma Agrees.eq_of_inBatches_ok (h : Agrees served items inOrder inBatches)
    (hok : inBatches.result = .ok ()) : inBatches = inOrder := by
  rcases h with ⟨hsame, -⟩ | ⟨_, fault, _, -, -, hfault, -⟩ | ⟨-, ⟨fault, hfailed⟩, -⟩
  · exact hsame
  · rw [hok] at hfault
    cases hfault
  · rw [hok] at hfailed
    cases hfailed

/-- Where the replies in order end well, the replies in batches are the same. -/
lemma Agrees.eq_of_ok (hserved : served) (h : Agrees served items inOrder inBatches)
    (hok : inOrder.result = .ok ()) : inBatches = inOrder := by
  rcases h with ⟨hsame, -⟩ | ⟨-, -, -, -, hfault, -, -⟩ | ⟨hrefused, -⟩
  · exact hsame
  · rw [hok] at hfault
    cases hfault
  · exact absurd hserved hrefused

end

/-- Replying batch by batch agrees with replying line by line, whatever the size of the batches. -/
theorem agrees_replyInBatches (desk : Desk) (machine : Machine) (settings : BatchSettings)
    (lines : RequestLines) :
    Agrees (machine.Serves settings) lines.all (replyInOrder desk lines.all)
      (replyInBatches desk machine settings.size lines) := by
  fun_induction replyInBatches desk machine settings.size lines with
  | case1 lines fault rest hbatch =>
    have htakes := lines.takes_batch machine.room settings.size
    rw [hbatch] at htakes
    cases htakes with
    | noRoom unfit =>
      exact .inr (.inr ⟨fun hserves => unfit hserves.fits, ⟨_, rfl⟩, List.nil_prefix⟩)
    | @fault lost fault' _ _ hall =>
      -- the batch is lost, while the lines in front of the fault are replied to in order
      rw [hall]
      refine .inr (.inl ⟨lost, fault', rest.all, rfl, ?_, rfl, List.nil_prefix⟩)
      rw [replyInOrder_append]
      rfl
  | case2 lines rest hbatch =>
    rw [RequestLines.all_eq_nil_of_batch_eq_nil settings.size_pos hbatch]
    exact .inl ⟨rfl, rfl⟩
  | case3 lines first others rest hbatch _ ih =>
    have htakes := lines.takes_batch machine.room settings.size
    rw [hbatch] at htakes
    obtain ⟨-, hall, -, -⟩ := htakes
    rw [Machine.replies]
    cases hfinish : machine.finish (first :: others) with
    | error reason =>
      refine .inr (.inr ⟨fun hserves => ?_, ⟨_, rfl⟩, List.nil_prefix⟩)
      rw [hserves.finishes] at hfinish
      cases hfinish
    | ok finished =>
      rw [hall, replyInOrder_append]
      exact ih.after desk (first :: others)

/-! ## Whole files -/

/-- In a file with a line that is no text, both ways stop at the first such line. -/
lemma Agrees.results_of_firstFault {served : Prop} {bytes : List UInt8} {inBatches : Run}
    {fault : Text.Utf8.Fault} (hserved : served)
    (h : Agrees served (RequestLines.ofBytes bytes).all
      (replyInOrder desk (RequestLines.ofBytes bytes).all) inBatches)
    (hfirst : RequestLines.FirstFault (RequestLines.split bytes) fault) :
    (replyInOrder desk (RequestLines.ofBytes bytes).all).result =
        .error (.reported (.file .notText)) ∧
      inBatches.result = .error (.reported (.file (.undecodable fault))) := by
  obtain ⟨requests, behind, hall⟩ := RequestLines.exists_allFrom_of_firstFault 0 hfirst
  have hitems : (RequestLines.ofBytes bytes).all = requests.map .ok ++ .error fault :: behind := hall
  rcases h with ⟨-, hresult⟩ | ⟨others, fault', behind', hall', hinOrder, hinBatches, -⟩ |
    ⟨hrefused, -⟩
  · -- the replies in order stop at the fault, so they do not end well
    rw [hitems, replyInOrder_append] at hresult
    cases hresult
  · obtain ⟨-, rfl⟩ := RequestLines.requests_fault_eq_of_append (hitems.symm.trans hall')
    exact ⟨hinOrder, hinBatches⟩
  · exact absurd hserved hrefused

/-- Fewer replies make fewer bytes. -/
lemma encode_output_prefix {run run' : Run} (h : run.replies <+: run'.replies) :
    Text.Utf8.encode run.output <+: Text.Utf8.encode run'.output := by
  obtain ⟨others, hothers⟩ := h
  unfold output Envelope.lines Text.Utf8.encode
  rw [← hothers, List.flatMap_append, List.flatMap_append]
  exact List.prefix_append _ _

/-- A run that fails at once has written nothing, and it does not end well. -/
lemma failed_first_part (fault : RunFault) (run : Run) :
    (failed fault).replies <+: run.replies ∧ ((failed fault).result = .ok () → failed fault = run) := by
  refine ⟨List.nil_prefix, fun hok => ?_⟩
  cases hok

/-- Whatever the machine does, the replies in batches are a first part of those in order, and all of
them where the run ends well. -/
lemma inBatches_first_part (desk : Desk) (machine : Machine) (settings : BatchSettings)
    (path : String) (source : Source) :
    (inBatches desk machine settings path source).replies <+:
        (inOrder desk path source).replies ∧
      ((inBatches desk machine settings path source).result = .ok () →
        inBatches desk machine settings path source = inOrder desk path source) := by
  cases hthreads : machine.startThreads settings.concurrent with
  | error fault =>
    simp only [inBatches, hthreads]
    exact failed_first_part ..
  | ok started =>
    cases source with
    | missing =>
      simp only [inBatches, hthreads]
      exact failed_first_part ..
    | directory =>
      simp only [inBatches, hthreads]
      split <;> exact failed_first_part ..
    | file bytes =>
      rw [inBatches_of_file hthreads]
      have hagrees := agrees_replyInBatches desk machine settings (RequestLines.ofBytes bytes)
      exact ⟨hagrees.replies_prefix, hagrees.eq_of_inBatches_ok⟩

/-- Without a file to read, both ways are the same where the machine serves the batches. -/
lemma inBatches_eq_inOrder {source : Source} (hserves : machine.Serves settings)
    (hsource : ∀ bytes, source ≠ .file bytes) :
    inBatches desk machine settings path source = inOrder desk path source := by
  cases source with
  | missing => simp only [inBatches, hserves.threads, inOrder]
  | directory =>
    have hreserve := RequestLines.reserve_eq_ok_iff.mpr hserves.fits
    simp only [inBatches, hserves.threads, hreserve, inOrder]
  | file bytes => exact absurd rfl (hsource bytes)

/-- In a file of texts every line that is not blank is replied to, in the order of the lines. -/
lemma replyInOrder_of_texts {bytes : List UInt8} {texts : List (List Char)}
    (h : (RequestLines.split bytes).map RequestLines.text = texts.map .ok) (desk : Desk) :
    replyInOrder desk (RequestLines.ofBytes bytes).all =
      done.after ((texts.filter fun text => !RequestLines.isBlank text).map desk.reply) := by
  obtain ⟨requests, hall, hcontents⟩ := RequestLines.allFrom_of_texts 0 h
  have hrequests : (RequestLines.ofBytes bytes).all = requests.map .ok := hall
  rw [hrequests, replyInOrder_requests, ← hcontents, List.map_map]
  rfl

/-- For every file and all settings, the replies in batches are a first part of those in order, and
all of them where the batches end well. On a machine that serves them, both ways end with the same
result, unless some line is no text: then both end at the first such line, of which the lines in order
say nothing but that, and the batches say why. Where every line is a text, both ways write the reply
to each line that is not blank, in the order of the lines. In whatever order the work on the batches
ends, the run is the same. -/
theorem inBatches_agrees (desk : Desk) (machine : Machine) (settings : BatchSettings)
    (path : String) (source : Source) :
    let inOrder := Run.inOrder desk path source
    let inBatches := Run.inBatches desk machine settings path source
    Text.Utf8.encode inBatches.output <+: Text.Utf8.encode inOrder.output ∧
    (inBatches.result = .ok () → inBatches = inOrder) ∧
    (machine.Serves settings →
      ((∀ bytes fault, source = .file bytes →
          ¬ RequestLines.FirstFault (RequestLines.split bytes) fault) →
        inBatches.result = inOrder.result) ∧
      (∀ bytes fault, source = .file bytes →
        RequestLines.FirstFault (RequestLines.split bytes) fault →
          inOrder.result = .error (.reported (.file .notText)) ∧
          inBatches.result = .error (.reported (.file (.undecodable fault)))) ∧
      ∀ bytes (texts : List (List Char)), source = .file bytes →
        (RequestLines.split bytes).map RequestLines.text = texts.map .ok →
          inOrder.result = .ok () ∧ inBatches.result = .ok () ∧
          inBatches.output = inOrder.output ∧
          inOrder.output = (texts.filter fun text => !RequestLines.isBlank text).flatMap
            fun text => (desk.reply text).line) ∧
    ∀ bytes, source = .file bytes → machine.startThreads settings.concurrent = .ok () →
      ∀ run, (Pipeline.start bytes).CanEnd desk machine settings run ↔ run = inBatches := by
  intro inOrder inBatches
  obtain ⟨hreplies, hcomplete⟩ := inBatches_first_part desk machine settings path source
  have houtput := encode_output_prefix hreplies
  refine ⟨houtput, hcomplete, fun hserves => ?_, ?_⟩
  · cases source with
    | missing =>
      exact ⟨fun _ => congrArg Run.result (inBatches_eq_inOrder hserves nofun), nofun, nofun⟩
    | directory =>
      exact ⟨fun _ => congrArg Run.result (inBatches_eq_inOrder hserves nofun), nofun, nofun⟩
    | file bytes =>
      have hagrees := agrees_replyInBatches desk machine settings (RequestLines.ofBytes bytes)
      have hfile : inBatches = replyInBatches desk machine settings.size (.ofBytes bytes) :=
        inBatches_of_file hserves.threads desk path bytes
      rw [← hfile] at hagrees
      refine ⟨fun hnone => ?_, ?_, ?_⟩
      · rcases hagrees with ⟨hsame, -⟩ | ⟨requests, fault, behind, hall, -⟩ | ⟨hrefused, -⟩
        · exact congrArg Run.result hsame
        · exact absurd (RequestLines.firstFault_of_allFrom hall) (hnone bytes fault rfl)
        · exact absurd hserves hrefused
      · rintro bytes' fault ⟨⟩ hfirst
        exact hagrees.results_of_firstFault hserves hfirst
      · rintro bytes' texts ⟨⟩ htexts
        have hinOrder : inOrder =
            done.after ((texts.filter fun text => !RequestLines.isBlank text).map desk.reply) :=
          replyInOrder_of_texts htexts desk
        have hok : inOrder.result = .ok () := by
          rw [hinOrder]
          rfl
        have hsame : inBatches = inOrder := hagrees.eq_of_ok hserves hok
        refine ⟨hok, hsame ▸ hok, by rw [hsame], ?_⟩
        rw [hinOrder]
        simp [output, after, done, Envelope.lines, List.flatMap_map]
  · rintro bytes rfl hthreads run
    have hinBatches : inBatches = (Pipeline.start bytes).run desk machine settings := by
      simp only [inBatches, Run.inBatches, hthreads]
    rw [hinBatches]
    exact Pipeline.canEnd_iff

/-- Two requests with a blank line between them, in batches of one line of which two are worked on at
the same time: however the work on them is scheduled, both are replied to in their order. -/
theorem inBatches_agrees_on_two_requests :
    let desk := Desk.ofSettings Currency.defaults .reserveDebit
      ⟨2030, 6, 15, by decide, by decide, by decide⟩ .acceptAll
    let settings : BatchSettings := ⟨1, 2, by decide, by decide⟩
    let bytes : List UInt8 := [0x78, 0x0A, 0x20, 0x0A, 0x79]
    Machine.ample.Serves settings ∧
      ∀ run, (Pipeline.start bytes).CanEnd desk .ample settings run →
        run.result = .ok () ∧ run.output = (desk.reply ['x']).line ++ (desk.reply ['y']).line := by
  intro desk settings bytes
  have hserves : Machine.ample.Serves settings := Machine.serves_ample (by decide)
  have htexts : (RequestLines.split bytes).map RequestLines.text =
      [['x'], [' '], ['y']].map .ok := by decide +kernel
  obtain ⟨-, -, hserved, hschedules⟩ :=
    inBatches_agrees desk .ample settings "in.jsonl" (.file bytes)
  obtain ⟨-, -, hread⟩ := hserved hserves
  obtain ⟨-, hresult, hsame, houtput⟩ := hread bytes _ rfl htexts
  refine ⟨hserves, fun run hrun => ?_⟩
  rw [(hschedules bytes rfl rfl run).mp hrun]
  refine ⟨hresult, ?_⟩
  have hrequests : ([['x'], [' '], ['y']].filter fun text => !RequestLines.isBlank text) =
      [['x'], ['y']] := by decide
  rw [hsame, houtput, hrequests]
  simp

/-- A line that is one byte and no text ends the two ways with different errors. -/
theorem inBatches_result_ne_inOrder :
    let desk := Desk.ofSettings Currency.defaults .reserveDebit
      ⟨2030, 6, 15, by decide, by decide, by decide⟩ .acceptAll
    let settings : BatchSettings := ⟨1, 1, by decide, by decide⟩
    let inOrder := Run.inOrder desk "in.jsonl" (.file [0xFF])
    let inBatches := Run.inBatches desk .ample settings "in.jsonl" (.file [0xFF])
    inBatches.result ≠ inOrder.result ∧
      inOrder.result.mapError RunFault.message =
        .error "I/O error: stream did not contain valid UTF-8" ∧
      inBatches.result.mapError RunFault.message =
        .error "I/O error: invalid utf-8 sequence of 1 bytes from index 0" := by
  intro desk settings inOrder inBatches
  have hall : (RequestLines.ofBytes [0xFF]).all = [.error ⟨0, some 1⟩] := by decide +kernel
  have hinOrder : inOrder.result = .error (.reported (.file .notText)) := by
    show (replyInOrder desk (RequestLines.ofBytes [0xFF]).all).result = _
    rw [hall]
    rfl
  have hbatch : (RequestLines.ofBytes [0xFF]).batch Machine.ample.room 1 =
      (.error (.undecodable ⟨0, some 1⟩), ⟨0, []⟩) := by
    decide +kernel
  have hinBatches : inBatches.result = .error (.reported (.file (.undecodable ⟨0, some 1⟩))) := by
    show (Run.inBatches desk .ample settings "in.jsonl" (.file [0xFF])).result = _
    rw [inBatches_of_file rfl, replyInBatches_eq, hbatch]
    rfl
  rw [hinOrder, hinBatches]
  exact ⟨by simp, rfl, by decide +kernel⟩

end Remittance.Run
