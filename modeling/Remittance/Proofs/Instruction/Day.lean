import Remittance.Proofs.Date.Spelling
import Remittance.Proofs.Instruction.Reading
import Remittance.Proofs.Instruction.WrittenWords
/-!
# The day of settlement

A word in the place of the day is read as a date if it has ten characters and spells one
(`readDate_eq_ok_iff`): in the form `YYYY-MM-DD`, or with a sign and seven digits. The rest of the
instruction is then read with this day, and for any other word the instruction is refused
(`read_of_dayWord`).
-/

namespace Remittance.Instruction

variable {text : List Char} {w on : Word} {words : List Word} {date : Date}

/-- The word spells the date in ten characters: four digits of the year, two of the month and two of
the day, or a sign and seven digits. -/
def SpellsDay (w : Word) (date : Date) : Prop :=
  ∃ s : Date.Spelling, s.chars = w ∧ s.date? = some date ∧ (s.IsPlain ∨ s.IsSigned)

/-- The reading of the text comes to the word in the place of the day. With a date for it, this is
what the text is read as. -/
inductive DayWord : List Char → Word → (Date → Except Fault TransferOrder) → Prop where
  /-- The word stands in the clause of the day, and the clauses in front of it can be read. -/
  | clause {text : List Char} {before after : List (List Word)} {on w : Word} {legs : Legs}
      (htext : ';' ∈ text ∨ isSentence (Text.words text) = false)
      (hclauses : clauses text = before ++ [on, w] :: after) (hon : on.isKeyword "ON" = true)
      (hlegs : Legs.none.addAll before = .ok legs) (hday : legs.day = none) :
      DayWord text w fun date => { legs with day := some date }.addAll after >>= Legs.order
  /-- The word stands at the end of a sentence, and the other words can be read. -/
  | sentence {text : List Char} {words : List Word} {on w : Word} {s : Sentence}
      {order : TransferOrder}
      (hwords : ';' ∉ text ∧ Text.words text = words ∨ clauses text = [words])
      (hsentence : Sentence.ofWords? words = some s) (hrest : s.rest = [on, w])
      (hon : on.isKeyword "ON" = true) (horder : { s with rest := [] }.read = .ok order) :
      DayWord text w fun date => .ok { order with executeBy := some date }

/-! ## Words for a day -/

/-- Words are read as the days that they spell. -/
theorem readDate_eq_ok_iff (hfree : ∀ c ∈ w, Text.isBlank c = false) :
    readDate w = .ok date ↔ SpellsDay w date := by
  have hread : readDate w = .ok date ↔
      (String.ofList w).utf8ByteSize = 10 ∧ Date.read? w = some date := by
    unfold readDate
    split <;> simp_all
  have hsize : ∀ s : Date.Spelling, s.chars = w →
      ((String.ofList w).utf8ByteSize = 10 ↔ s.IsPlain ∨ s.IsSigned) := by
    rintro s rfl
    rw [utf8ByteSize_of_isWordChar fun c hc => isWordChar_of_dateChar (s.mem_chars c hc),
      s.length_chars_eq_ten_iff]
  rw [hread, Date.read?_eq_some_iff hfree]
  constructor
  · rintro ⟨hten, s, hchars, hdate⟩
    exact ⟨s, hchars, hdate, (hsize s hchars).mp hten⟩
  · rintro ⟨s, hchars, hdate, hform⟩
    exact ⟨(hsize s hchars).mpr hform, s, hchars, hdate⟩

/-- A word that is not read as a date is what the fault tells. -/
lemma readDate_eq_error (h : ∀ date, readDate w ≠ .ok date) :
    readDate w = .error (.invalidDate (String.ofList w)) := by
  unfold readDate at h ⊢
  split
  · next date hdate => exact absurd (by rw [hdate]) (h date)
  · rfl

/-- There is no blank in a word. -/
lemma isBlank_of_mem_words (hwords : words = Text.words text ∨ words ∈ clauses text)
    (hmem : w ∈ words) : ∀ c ∈ w, Text.isBlank c = false := by
  rcases hwords with rfl | hwords
  · exact (Text.forall_mem_runs text w hmem).2
  · obtain ⟨piece, -, rfl⟩ := List.mem_map.mp (List.mem_filter.mp hwords).1
    exact (Text.forall_mem_runs piece w hmem).2

/-! ## Sentences -/

/-- The day of a sentence is read behind its other words. -/
lemma Sentence.read_of_day {s : Sentence} {order : TransferOrder} (hrest : s.rest = [on, w])
    (hon : on.isKeyword "ON" = true) (horder : { s with rest := [] }.read = .ok order) :
    s.read = readDate w >>= fun date => .ok { order with executeBy := some date } := by
  obtain ⟨amount, hamount, h₁⟩ := bind_eq_ok_iff.mp horder
  obtain ⟨currency, hcurrency, h₂⟩ := bind_eq_ok_iff.mp h₁
  obtain ⟨debit, hdebit, h₃⟩ := bind_eq_ok_iff.mp h₂
  obtain ⟨credit, hcredit, h₄⟩ := bind_eq_ok_iff.mp h₃
  obtain ⟨day, -, h₅⟩ := bind_eq_ok_iff.mp h₄
  cases h₅
  change readAmount s.amount = _ at hamount
  change readCurrency s.currency = _ at hcurrency
  change readAccountId s.debitAccount = _ at hdebit
  change readAccountId s.creditAccount = _ at hcredit
  rw [Sentence.read, hamount, hcurrency, hdebit, hcredit, hrest, readDay, if_pos hon]
  cases readDate w <;> rfl

/-! ## Behind the day -/

/-- What is read has the property, and a fault is not one of a date. -/
def Yields {α : Type} (P : α → Prop) (result : Except Fault α) : Prop :=
  (∀ a, result = .ok a → P a) ∧ ∀ word, result ≠ .error (.invalidDate word)

section

variable {α β : Type} {P : α → Prop} {Q : β → Prop} {legs : Legs}

lemma Yields.bind {result : Except Fault α} {next : α → Except Fault β} (h : Yields P result)
    (hnext : ∀ a, P a → Yields Q (next a)) : Yields Q (result >>= next) := by
  cases result with
  | ok a => exact hnext a (h.1 a rfl)
  | error fault => exact ⟨nofun, fun word heq => h.2 word (by cases heq; rfl)⟩

lemma yields_ok {a : α} (h : P a) : Yields P (.ok a) := ⟨fun _ heq => by cases heq; exact h, nofun⟩

/-- No word of a leg is read as a date. -/
lemma Leg.yields_read (side : Side) (words : List Word) :
    Yields (fun _ => True) (Leg.read side words) := by
  have hid (w : Word) : Yields (fun _ => True) (readAccountId w) := by
    unfold readAccountId
    split <;> simp [Yields]
  have hamount (w : Word) : Yields (fun _ => True) (readAmount w) := by
    unfold readAmount
    split <;> simp [Yields]
  have hcurrency (w : Word) : Yields (fun _ => True) (readCurrency w) := by
    unfold readCurrency
    split <;> simp [Yields]
  unfold Leg.read
  split
  · exact (hid _).bind fun _ _ => (hamount _).bind fun _ _ => yields_ok trivial
  · exact (hid _).bind fun _ _ => (hamount _).bind fun _ _ => (hcurrency _).bind fun _ _ =>
      yields_ok trivial
  · simp [Yields]

/-- Once there is a day, no other clause changes it or is read as one. -/
lemma Legs.yields_add (hday : legs.day = some date) (words : List Word) :
    Yields (fun next => next.day = some date) (legs.add words) := by
  unfold Legs.add
  split
  · exact yields_ok hday
  · split
    · next side _ =>
      split
      · simp [Yields]
      · refine (Leg.yields_read side _).bind fun leg _ => yields_ok ?_
        cases side <;> exact hday
    · split
      · simp [Yields, hday]
      · simp [Yields]

lemma Legs.yields_addAll (hday : legs.day = some date) (clauses : List (List Word)) :
    Yields (fun next => next.day = some date) (legs.addAll clauses) := by
  induction clauses generalizing legs with
  | nil => exact yields_ok hday
  | cons words clauses ih => exact (Legs.yields_add hday words).bind fun next hnext => ih hnext

lemma Legs.yields_order (hday : legs.day = some date) :
    Yields (fun order => order.executeBy = some date) legs.order := by
  unfold Legs.order
  split
  · simp [Yields]
  · simp [Yields]
  · refine ⟨fun order h => ?_, fun word h => ?_⟩
    · exact (Legs.join_eq_ok_iff.mp h).2.2.trans hday
    · rcases Legs.mismatch_of_join_eq_error h with hfault | ⟨d, c, hfault⟩ <;> cases hfault

end

/-! ## Whole instructions -/

/-- The clause of the day is no sentence. -/
lemma readCut_of_day {clauses : List (List Word)} (hmem : [on, w] ∈ clauses)
    (hon : on.isKeyword "ON" = true) : readCut clauses = readClauses clauses := by
  have hfor : on.isKeyword "FOR" = false := not_isKeyword_of_isKeyword hon (by decide)
  unfold readCut
  split
  · obtain rfl := List.mem_singleton.mp hmem
    simp [isSentence, hfor]
  · rfl

/-- The clause of the day is taken in with the date that its word is read as. -/
lemma Legs.add_day {legs : Legs} (hon : on.isKeyword "ON" = true) (hday : legs.day = .none) :
    legs.add [on, w] = readDate w >>= fun date => .ok { legs with day := some date } := by
  simp only [Legs.add, side?_of_isKeyword_on hon, hon, hday, readDayClause, if_true,
    Option.isSome_none, Bool.false_eq_true, if_false]
  rfl

/-- The word in the place of the day has no blank, and the instruction is read with the date that it
is read as. -/
lemma read_eq_of_dayWord {next : Date → Except Fault TransferOrder} (h : DayWord text w next) :
    (∀ c ∈ w, Text.isBlank c = false) ∧ read text = readDate w >>= next := by
  cases h with
  | @clause before after on w legs htext hclauses hon hlegs hday =>
    have hmem : [on, w] ∈ clauses text := by simp [hclauses]
    refine ⟨isBlank_of_mem_words (.inr hmem) (by simp), ?_⟩
    have happend : Legs.none.addAll (before ++ [on, w] :: after) =
        legs.add [on, w] >>= fun next => next.addAll after := by
      rw [Legs.addAll, List.foldlM_append]
      change Legs.none.addAll before >>= _ = _
      rw [hlegs]
      rfl
    rw [read_of_clauses (List.ne_nil_of_mem hmem) htext, readCut_of_day hmem hon, hclauses,
      readClauses, happend, Legs.add_day hon hday]
    cases readDate w <;> rfl
  | @sentence words on w s order hwords hsentence hrest hon horder =>
    obtain ⟨hjoint, hmem⟩ := isSentence_of_ofWords? hsentence
    have hpiece : words = Text.words text ∨ words ∈ clauses text := by
      rcases hwords with ⟨-, hwords⟩ | hclauses
      · exact .inl hwords.symm
      · exact .inr (by simp [hclauses])
    refine ⟨isBlank_of_mem_words hpiece (hmem w (by simp [hrest])), ?_⟩
    rw [read_of_isSentence hjoint hwords, readSentence, hsentence]
    exact Sentence.read_of_day hrest hon horder

/-- Once its day is read, an instruction has no fault of a date, and its order has this day. -/
lemma yields_of_dayWord {next : Date → Except Fault TransferOrder} (h : DayWord text w next)
    (date : Date) : Yields (fun order => order.executeBy = some date) (next date) := by
  cases h with
  | clause => exact (Legs.yields_addAll rfl _).bind fun legs hday => Legs.yields_order hday
  | sentence => exact yields_ok rfl

/-- Where a word stands in the place of the day, in a clause or in a sentence, it is accepted if and
only if it spells a date of the calendar in ten characters: in the form `YYYY-MM-DD`, or with a sign
and seven digits. Then the instruction has no other fault of a date, and an order has this one; any
other word is what the fault tells. -/
theorem read_of_dayWord {next : Date → Except Fault TransferOrder} (h : DayWord text w next) :
    (∀ date, SpellsDay w date → read text = next date ∧
      (∀ order, next date = .ok order → order.executeBy = some date) ∧
      ∀ word, next date ≠ .error (.invalidDate word)) ∧
    ((∀ date, ¬ SpellsDay w date) → read text = .error (.invalidDate (String.ofList w))) := by
  obtain ⟨hfree, hread⟩ := read_eq_of_dayWord h
  refine ⟨fun date hspells => ?_, fun hnone => ?_⟩
  · obtain ⟨horder, hfault⟩ := yields_of_dayWord h date
    rw [hread, (readDate_eq_ok_iff hfree).mpr hspells]
    exact ⟨rfl, horder, hfault⟩
  · have hdate : ∀ date, readDate w ≠ .ok date :=
      fun date hdate => hnone date ((readDate_eq_ok_iff hfree).mp hdate)
    rw [hread, readDate_eq_error hdate]
    rfl

/-- A leap day at the end of a sentence. -/
theorem read_of_dayWord_leap_day :
    let text := "DEBIT 5 NGN FROM ACCOUNT A FOR CREDIT TO ACCOUNT B ON 2028-02-29".toList
    ∃ order, read text = .ok order ∧
      order.executeBy = some ⟨2028, 2, 29, by decide, by decide, by decide⟩ := by
  intro text
  let words := Text.words text
  let order : TransferOrder := ⟨.debit, ⟨"A", by decide, by decide⟩, ⟨"B", by decide, by decide⟩,
    ⟨false, 5, 0, by decide, by decide⟩, some .ngn, none⟩
  let s : Sentence := ⟨.debit, "5".toList, "NGN".toList, "A".toList, "B".toList,
    ["ON".toList, "2028-02-29".toList]⟩
  have hday : DayWord text "2028-02-29".toList fun date =>
      .ok { order with executeBy := some date } :=
    .sentence (s := s) (.inl ⟨by decide, rfl⟩) rfl rfl (by decide) (by decide +kernel)
  have hspells : SpellsDay "2028-02-29".toList ⟨2028, 2, 29, by decide, by decide, by decide⟩ := by
    let spelling : Date.Spelling := ⟨none, "2028".toList, "02".toList, "29".toList, nofun,
      ⟨by decide, List.all_eq_true.mp (by decide)⟩, ⟨by decide, List.all_eq_true.mp (by decide)⟩,
      ⟨by decide, List.all_eq_true.mp (by decide)⟩, by decide, by decide, by decide⟩
    exact ⟨spelling, by decide, by decide +kernel, .inl ⟨rfl, rfl, rfl, rfl⟩⟩
  obtain ⟨hread, horder, -⟩ := (read_of_dayWord hday).1 _ hspells
  exact ⟨_, hread, horder _ rfl⟩

/-- A sign in front of the year and one digit of the day are accepted, since the word has ten
characters. -/
theorem read_signed_year :
    read "DEBIT A 1; CREDIT B 1; ON +2030-01-1".toList =
      .ok ⟨.debit, ⟨"A", by decide, by decide⟩, ⟨"B", by decide, by decide⟩,
        ⟨false, 1, 0, by decide, by decide⟩, none,
        some ⟨2030, 1, 1, by decide, by decide, by decide⟩⟩ := by
  decide +kernel

end Remittance.Instruction
