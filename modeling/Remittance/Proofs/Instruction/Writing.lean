import Remittance.Proofs.Instruction.Reading
import Remittance.Proofs.Instruction.WrittenWords
/-!
# Writing instructions

An order can be written as a sentence from either of its sides, or as clauses in any order, with any
blanks between the words and with keywords and currencies in whatever case (`Written`). Every way to
write it is read as the order (`read_written`): only the side that the text names first is left of
the way it was written. An amount is written with its own text, and one with a minus sign is
refused, even if it is zero.
-/

namespace Remittance.Instruction

variable {words : List Word} {order : TransferOrder} {text : List Char}

/-! ## Sentences -/

lemma regular_of_mem_daySlots {date : Date} (h : 0 ≤ date.year ∧ date.year ≤ 9999) :
    ∀ slot ∈ daySlots date, slot.Regular := by
  intro slot hslot
  simp only [daySlots, List.mem_cons, List.not_mem_nil, or_false] at hslot
  rcases hslot with rfl | rfl
  · exact ⟨by decide, by decide⟩
  · exact h

lemma regular_of_mem_sentenceSlots {currency : Currency}
    (hday : ∀ date, order.executeBy = some date → 0 ≤ date.year ∧ date.year ≤ 9999) :
    ∀ slot ∈ sentenceSlots order currency, slot.Regular := by
  obtain ⟨hown, hprep⟩ := regular_keyword order.side
  obtain ⟨hother, hprep'⟩ := regular_keyword order.side.opposite
  have haccount : (Slot.keyword "ACCOUNT").Regular := ⟨by decide, by decide⟩
  have htail : ∀ slot ∈ order.executeBy.elim [] daySlots, slot.Regular := by
    cases hdate : order.executeBy with
    | none => simp
    | some date => exact regular_of_mem_daySlots (hday date hdate)
  intro slot hslot
  rw [sentenceSlots, List.mem_append] at hslot
  rcases hslot with hslot | hslot
  · simp only [List.mem_cons, List.not_mem_nil, or_false] at hslot
    rcases hslot with rfl | rfl | rfl | rfl | rfl | rfl | rfl | rfl | rfl | rfl | rfl
    all_goals first | assumption | exact regular_for | exact trivial
  · exact htail slot hslot

lemma amount_of_mem_sentenceSlots {currency : Currency} {a : Decimal}
    (h : .amount a ∈ sentenceSlots order currency) : a = order.amount := by
  cases hdate : order.executeBy <;> simpa [sentenceSlots, daySlots, hdate] using h

/-- The words of a sentence are found where they are written. -/
lemma exists_sentence_of_writtenAs {currency : Currency}
    (h : WrittenAs (sentenceSlots order currency) words) :
    isSentence words = true ∧ ∃ s : Sentence, Sentence.ofWords? words = some s ∧
      s.amount = order.amount.toChars := by
  obtain ⟨hown, hprep⟩ := regular_keyword order.side
  obtain ⟨hother, hprep'⟩ := regular_keyword order.side.opposite
  have haccount : (Slot.keyword "ACCOUNT").Regular := ⟨by decide, by decide⟩
  simp only [WrittenAs, sentenceSlots, List.cons_append, List.nil_append,
    List.forall₂_cons_left_iff] at h
  obtain ⟨w₁, _, h₁, ⟨w₂, _, h₂, ⟨w₃, _, h₃, ⟨w₄, _, h₄, ⟨w₅, _, h₅, ⟨w₆, _, h₆, ⟨w₇, _, h₇,
    ⟨w₈, _, h₈, ⟨w₉, _, h₉, ⟨w₁₀, _, h₁₀, ⟨w₁₁, rest, h₁₁, -, rfl⟩, rfl⟩, rfl⟩, rfl⟩, rfl⟩, rfl⟩,
    rfl⟩, rfl⟩, rfl⟩, rfl⟩, rfl⟩ := h
  have hframe : Sentence.hasFrame order.side w₄ w₅ w₇ w₈ w₉ w₁₀ = true :=
    Sentence.hasFrame_iff.mpr ⟨isKeyword_of_writtenAs hprep h₄, isKeyword_of_writtenAs haccount h₅,
      isKeyword_of_writtenAs regular_for h₇, isKeyword_of_writtenAs hother h₈,
      isKeyword_of_writtenAs hprep' h₉, isKeyword_of_writtenAs haccount h₁₀⟩
  have hside : w₁.side? = some order.side :=
    side?_eq_some_iff.mpr (isKeyword_of_writtenAs hown h₁)
  have hfound : Sentence.ofWords? (w₁ :: w₂ :: w₃ :: w₄ :: w₅ :: w₆ :: w₇ :: w₈ :: w₉ :: w₁₀ ::
      w₁₁ :: rest) = some ⟨order.side, w₂, w₃, w₆, w₁₁, rest⟩ := by
    simp [Sentence.ofWords?, hside, hframe]
  exact ⟨(isSentence_of_ofWords? hfound).1, _, hfound, h₂⟩

/-- A sentence of an order is read as the order, unless its amount has a sign. -/
lemma readSentence_of_writtenAs {currency : Currency} (hcurrency : order.currency = some currency)
    (hday : ∀ date, order.executeBy = some date → 0 ≤ date.year ∧ date.year ≤ 9999)
    (h : WrittenAs (sentenceSlots order currency) words) : readSentence words =
      if order.amount.negative then .error (.invalidAmount (String.ofList order.amount.toChars))
      else .ok order := by
  cases hsign : order.amount.negative with
  | true =>
    obtain ⟨-, s, hs, hamount⟩ := exists_sentence_of_writtenAs h
    simp [readSentence, hs, Sentence.read, hamount, readAmount_toChars, hsign, bind, Except.bind]
  | false =>
    have hfills : Fills (sentenceSlots order currency) words :=
      fills_of_writtenAs (regular_of_mem_sentenceSlots hday)
        (fun a ha => amount_of_mem_sentenceSlots ha ▸ hsign) h
    rw [readSentence_eq_ok_iff.mpr ⟨currency, hcurrency, hfills⟩]
    rfl

/-- The words of a sentence are what is read of a text in which they stand between blanks. -/
lemma read_of_sentence {currency : Currency} {body : List Char}
    (hday : ∀ date, order.executeBy = some date → 0 ≤ date.year ∧ date.year ≤ 9999)
    (h : WrittenAs (sentenceSlots order currency) words)
    (hspaced : Text.Spaced Text.isBlank words body) (hpadded : Text.Padded body text) :
    read text = readSentence words := by
  have hchars := isWordChar_of_writtenAs (regular_of_mem_sentenceSlots hday) h
  have hwords : Text.words text = words :=
    Text.words_of_spaced (fun w hw => ⟨(hchars w hw).1, fun c hc => ((hchars w hw).2 c hc).isBlank⟩)
      (fun _ hc => hc) hspaced hpadded
  have hsentence := (exists_sentence_of_writtenAs h).1
  have hsemicolon : ';' ∉ text := by
    have hblank : Text.isBlank ';' ≠ true := by decide
    obtain ⟨front, back, hfront, hback, rfl⟩ := hpadded
    simp only [List.mem_append, not_or]
    refine ⟨fun hmem => hblank (hfront _ hmem), fun hmem => ?_, fun hmem => hblank (hback _ hmem)⟩
    rcases Text.mem_of_spaced hspaced _ hmem with ⟨w, hw, hc⟩ | hc
    · exact ((hchars w hw).2 _ hc).2 rfl
    · exact hblank hc
  exact read_of_isSentence hsentence (.inl ⟨hsemicolon, hwords⟩)

/-! ## Clauses -/

/-- The blanks between the words of a clause. -/
def isClauseBlank (c : Char) : Bool := Text.isBlank c && !endsClause c

/-- The clauses are ways to write two legs, and perhaps a day, in any order. -/
def LegsWrittenAs (debit credit : Leg) (day : Option Date) (clauses : List (List Word)) : Prop :=
  Multiset.Rel WrittenAs
    (debit.slots .debit :: credit.slots .credit :: day.toList.map daySlots : List (List Slot))
    clauses

/-- A piece of a text that is written word by word is one clause. -/
lemma clauses_of_spaced {body : List Char} (hne : words ≠ [])
    (hchars : ∀ w ∈ words, w ≠ [] ∧ ∀ c ∈ w, IsWordChar c)
    (hspaced : Text.Spaced isClauseBlank words body) (hpadded : Text.Padded body text) :
    clauses text = [words] := by
  have hbody : clauses text = clauses body :=
    hpadded.invariant (fun _ cs hc => clauses_cons_blank hc cs)
      (fun cs _ hc => clauses_concat_blank hc cs)
  have hfree : ∀ c ∈ body, endsClause c = false := by
    intro c hc
    rcases Text.mem_of_spaced hspaced c hc with ⟨w, hw, hc⟩ | hc
    · exact ((hchars w hw).2 c hc).endsClause
    · simpa using (Bool.and_eq_true_iff.mp hc).2
  have hwords : Text.words body = words :=
    Text.runs_of_spaced
      (fun w hw => ⟨(hchars w hw).1, fun c hc => ((hchars w hw).2 c hc).isBlank⟩)
      (fun c hc => (Bool.and_eq_true_iff.mp hc).1) hspaced
  rw [hbody, clauses_of_free hfree, hwords]
  simp [hne]

/-- Semicolons between pieces make each of them its own clause. -/
lemma clauses_intercalate {pieces : List (List Char)} {cut : List (List Word)}
    (h : List.Forall₂ (fun words piece => clauses piece = [words]) cut pieces) :
    clauses ([';'].intercalate pieces) = cut :=
  clauses_pieces (by decide) (by simp [endsClause]) h

section

variable {debit credit leg : Leg} {day : Option Date} {cut : List (List Word)} {side : Side}

lemma regular_of_mem_legSlots : ∀ slot ∈ leg.slots side, slot.Regular := by
  obtain ⟨hkeyword, -⟩ := regular_keyword side
  intro slot hslot
  simp only [Leg.slots, List.mem_cons, List.mem_map] at hslot
  rcases hslot with rfl | rfl | rfl | ⟨currency, -, rfl⟩
  · exact hkeyword
  all_goals exact trivial

lemma amount_of_mem_legSlots {a : Decimal} (h : .amount a ∈ leg.slots side) : a = leg.amount := by
  simpa [Leg.slots] using h

/-- The form of every clause is one of the two legs, or of the day. -/
lemma LegsWrittenAs.forms {words : List Word} (h : LegsWrittenAs debit credit day cut)
    (hmem : words ∈ cut) : WrittenAs (debit.slots .debit) words ∨
      WrittenAs (credit.slots .credit) words ∨ ∃ date ∈ day, WrittenAs (daySlots date) words :=
  form_of_rel h hmem

/-- The words of clauses are not empty, and no clause is. -/
lemma LegsWrittenAs.isWordChar (hday : ∀ date ∈ day, 0 ≤ date.year ∧ date.year ≤ 9999)
    (h : LegsWrittenAs debit credit day cut) :
    ∀ words ∈ cut, words ≠ [] ∧ ∀ w ∈ words, w ≠ [] ∧ ∀ c ∈ w, IsWordChar c := by
  intro words hmem
  rcases h.forms hmem with hwritten | hwritten | ⟨date, hdate, hwritten⟩
  · exact ⟨fun hnil => by simp [hnil, WrittenAs, Leg.slots] at hwritten,
      isWordChar_of_writtenAs regular_of_mem_legSlots hwritten⟩
  · exact ⟨fun hnil => by simp [hnil, WrittenAs, Leg.slots] at hwritten,
      isWordChar_of_writtenAs regular_of_mem_legSlots hwritten⟩
  · exact ⟨fun hnil => by simp [hnil, WrittenAs, daySlots] at hwritten,
      isWordChar_of_writtenAs (regular_of_mem_daySlots (hday date hdate)) hwritten⟩

/-- Two legs are at least two clauses. -/
lemma LegsWrittenAs.exists_cons (h : LegsWrittenAs debit credit day cut) :
    ∃ words words' rest, cut = words :: words' :: rest := by
  have hcard := Multiset.card_eq_card_of_rel h
  rcases cut with _ | ⟨words, _ | ⟨words', rest⟩⟩
  · cases hcard
  · simp at hcard
  · exact ⟨words, words', rest, rfl⟩

/-- Clauses that are written for two legs and a day are these legs and this day, unless an amount
has a sign. -/
lemma LegsWrittenAs.legForm (hday : ∀ date ∈ day, 0 ≤ date.year ∧ date.year ≤ 9999)
    (hdebit : debit.amount.negative = false) (hcredit : credit.amount.negative = false)
    (h : LegsWrittenAs debit credit day cut) : LegForm debit credit day cut := by
  refine Multiset.Rel.mono h fun form hform words _ hwritten => ?_
  rcases List.mem_cons.mp hform with rfl | hform
  · exact fills_of_writtenAs regular_of_mem_legSlots
      (fun a ha => amount_of_mem_legSlots ha ▸ hdebit) hwritten
  rcases List.mem_cons.mp hform with rfl | hform
  · exact fills_of_writtenAs regular_of_mem_legSlots
      (fun a ha => amount_of_mem_legSlots ha ▸ hcredit) hwritten
  · obtain ⟨date, hdate, rfl⟩ := List.mem_map.mp hform
    exact fills_of_writtenAs (regular_of_mem_daySlots (hday date (by simpa using hdate)))
      (fun a ha => by simp [daySlots] at ha) hwritten

/-- A leg whose amount has a sign is refused for its amount. -/
lemma add_of_signed {legs : Legs} (hfree : legs.leg? side = none) (hsign : leg.amount.negative = true)
    (h : WrittenAs (leg.slots side) words) :
    legs.add words = .error (.invalidAmount (String.ofList leg.amount.toChars)) := by
  obtain ⟨account, amount, currency⟩ := leg
  simp only [WrittenAs, Leg.slots, List.forall₂_cons_left_iff] at h
  obtain ⟨w₁, _, h₁, ⟨w₂, _, h₂, ⟨w₃, rest, rfl, hrest, rfl⟩, rfl⟩, rfl⟩ := h
  have hside : w₁.side? = some side :=
    side?_eq_some_iff.mpr (isKeyword_of_writtenAs (regular_keyword side).1 h₁)
  have haccount : readAccountId w₂ = .ok account := readAccountId_eq_ok_iff.mpr h₂
  have hamount : readAmount amount.toChars =
      .error (.invalidAmount (String.ofList amount.toChars)) := by
    rw [readAmount_toChars, hsign]
    rfl
  have hread : Leg.read side (w₁ :: w₂ :: amount.toChars :: rest) =
      .error (.invalidAmount (String.ofList amount.toChars)) := by
    cases currency with
    | none =>
      obtain rfl : rest = [] := by simpa using hrest
      simp [Leg.read, haccount, hamount, bind, Except.bind]
    | some currency =>
      obtain ⟨w₄, _, -, hnil, rfl⟩ := List.forall₂_cons_left_iff.mp hrest
      obtain rfl := List.forall₂_nil_left_iff.mp hnil
      simp [Leg.read, haccount, hamount, bind, Except.bind]
  simp [Legs.add, hside, hfree, hread, bind, Except.bind]

/-- The first clause fills one of the forms, and the clauses behind it fill the others. -/
lemma exists_of_rel_cons {form' : List Slot} {forms' : List (List Slot)}
    (h : Multiset.Rel WrittenAs (form' :: forms' : List _) (cut : Multiset _)) :
    ∃ words rest form forms, cut = words :: rest ∧ (form' :: forms').Perm (form :: forms) ∧
      WrittenAs form words ∧ Multiset.Rel WrittenAs (forms : List _) rest := by
  obtain ⟨words, rest, rfl⟩ : ∃ words rest, cut = words :: rest := by
    refine List.exists_cons_of_ne_nil ?_
    rintro rfl
    cases Multiset.card_eq_card_of_rel h
  rw [← Multiset.cons_coe words, Multiset.rel_cons_right] at h
  obtain ⟨form, others, hwritten, hrel, hforms⟩ := h
  obtain ⟨forms, rfl⟩ := Quot.exists_rep others
  exact ⟨words, rest, form, forms, rfl, Multiset.coe_eq_coe.mp hforms, hwritten, hrel⟩

/-- The first of two legs with signed amounts is refused, in front of a day and behind it. -/
lemma addAll_of_signed (hday : ∀ date ∈ day, 0 ≤ date.year ∧ date.year ≤ 9999)
    (hsign : debit.amount.negative = true) (hsame : credit.amount = debit.amount)
    (h : LegsWrittenAs debit credit day cut) :
    Legs.none.addAll cut = .error (.invalidAmount (String.ofList debit.amount.toChars)) := by
  have hleg {legs : Legs} {form : List Slot} {words : List Word}
      (hfree : ∀ side, legs.leg? side = none)
      (hform : form ∈ [debit.slots .debit, credit.slots .credit]) (hwritten : WrittenAs form words) :
      legs.add words = .error (.invalidAmount (String.ofList debit.amount.toChars)) := by
    simp only [List.mem_cons, List.not_mem_nil, or_false] at hform
    rcases hform with rfl | rfl
    · exact add_of_signed (hfree .debit) hsign hwritten
    · rw [← hsame] at hsign ⊢
      exact add_of_signed (hfree .credit) hsign hwritten
  have hnone : ∀ side, Legs.none.leg? side = none := by
    intro side
    cases side <;> rfl
  obtain ⟨words, cut, form, forms, rfl, hperm, hwritten, hrest⟩ := exists_of_rel_cons h
  have hmem := hperm.mem_iff.mpr List.mem_cons_self
  have hforms : (debit.slots .debit :: credit.slots .credit :: day.toList.map daySlots) =
      [debit.slots .debit, credit.slots .credit] ++ day.toList.map daySlots := rfl
  rw [hforms] at hmem hperm
  rcases List.mem_append.mp hmem with hform | hform
  · simp [Legs.addAll, hleg hnone hform hwritten, bind, Except.bind]
  · -- the day is taken in first, and a leg follows it
    obtain ⟨date, hdate, rfl⟩ := List.mem_map.mp hform
    obtain rfl : day = some date := by simpa using hdate
    have hadd : Legs.none.add words = .ok { Legs.none with day := some date } := by
      have hfills := fills_of_writtenAs (regular_of_mem_daySlots (hday date rfl))
        (fun a ha => by simp [daySlots] at ha) hwritten
      have hne : words ≠ [] := fun hnil => by simp [hnil, WrittenAs, daySlots] at hwritten
      exact (Legs.add_eq_ok_iff hne).mpr (.inr ⟨date, rfl, hfills, rfl⟩)
    have hlegs : [debit.slots .debit, credit.slots .credit].Perm forms :=
      ((List.perm_append_singleton _ _).symm.trans hperm).cons_inv
    rw [← Multiset.coe_eq_coe.mpr hlegs] at hrest
    obtain ⟨words', cut, form, others, rfl, hperm', hwritten', -⟩ := exists_of_rel_cons hrest
    have hfree : ∀ side, ({ Legs.none with day := some date } : Legs).leg? side = none := by
      intro side
      cases side <;> rfl
    have hmem' := hperm'.mem_iff.mpr List.mem_cons_self
    simp [Legs.addAll, hadd, hleg hfree hmem' hwritten', bind, Except.bind]

end

/-! ## All ways to write an order -/

/-- The text is a way to write the order. It is the sentence that starts with the side of the order,
or it is clauses with semicolons between them, of which the first leg has the side of the order. -/
inductive Written (order : TransferOrder) : List Char → Prop where
  | sentence {currency : Currency} {words : List Word} {body text : List Char}
    (hcurrency : order.currency = some currency)
    (hwords : WrittenAs (sentenceSlots order currency) words)
    (hspaced : Text.Spaced Text.isBlank words body) (hpadded : Text.Padded body text) :
    Written order text
  | legs {debit credit : Leg} {cut : List (List Word)} {pieces : List (List Char)}
    (hjoined : debit.Joined credit order) (hsame : credit.amount = order.amount)
    (hwords : LegsWrittenAs debit credit order.executeBy cut)
    (hside : firstSide? cut = some order.side)
    (hpieces : List.Forall₂ (fun words piece => ∃ body,
      Text.Spaced isClauseBlank words body ∧ Text.Padded body piece) cut pieces) :
    Written order ([';'].intercalate pieces)

/-- Every way to write an order is read as the order, with its amount, its currency and its day as
they are; an amount with a minus sign is refused in all of them. -/
theorem read_written (hday : ∀ date, order.executeBy = some date → 0 ≤ date.year ∧ date.year ≤ 9999)
    (h : Written order text) : read text =
      if order.amount.negative then .error (.invalidAmount (String.ofList order.amount.toChars))
      else .ok order := by
  cases h with
  | sentence hcurrency hwords hspaced hpadded =>
    rw [read_of_sentence hday hwords hspaced hpadded, readSentence_of_writtenAs hcurrency hday hwords]
  | @legs debit credit cut pieces hjoined hsame hwords hside hpieces =>
    have hchars := hwords.isWordChar hday
    have hcut : clauses ([';'].intercalate pieces) = cut := by
      refine clauses_intercalate (((List.forall₂_and_left cut pieces).mpr ⟨hchars, hpieces⟩).imp ?_)
      rintro words piece ⟨⟨hne, hchars⟩, body, hspaced, hpadded⟩
      exact clauses_of_spaced hne hchars hspaced hpadded
    have hsemicolon : ';' ∈ [';'].intercalate pieces := by
      obtain ⟨words, words', rest, rfl⟩ := hwords.exists_cons
      obtain ⟨piece, _, -, hrest, rfl⟩ := List.forall₂_cons_left_iff.mp hpieces
      obtain ⟨piece', pieces, -, -, rfl⟩ := List.forall₂_cons_left_iff.mp hrest
      simp [List.intercalate_cons_cons]
    have hread : readCut cut = readClauses cut := by
      obtain ⟨words, words', rest, rfl⟩ := hwords.exists_cons
      rfl
    rw [read_of_semicolon hsemicolon, hcut, hread]
    cases hsign : order.amount.negative with
    | true =>
      rw [readClauses, addAll_of_signed hday (by rw [← hjoined.amount, hsign])
        (by rw [hsame, hjoined.amount]) hwords, hjoined.amount]
      rfl
    | false =>
      have hform : LegForm debit credit order.executeBy cut :=
        hwords.legForm hday (by rw [← hjoined.amount, hsign]) (by rw [hsame, hsign])
      rw [(readClauses_eq_ok_iff fun words hmem => (hchars words hmem).1).mpr
        ⟨debit, credit, hform, hjoined, hside⟩]
      rfl

/-- The credit first, in small letters, then a line break, the debit and the day. -/
theorem read_written_on_two_lines :
    read "credit B 10.50; \nDebit A 10.50 ngn;on 2026-05-01".toList =
      .ok ⟨.credit, ⟨"A", by decide, by decide⟩, ⟨"B", by decide, by decide⟩,
        ⟨false, 1050, 2, by decide, by decide⟩, some .ngn,
        some ⟨2026, 5, 1, by decide, by decide, by decide⟩⟩ := by
  let order : TransferOrder := ⟨.credit, ⟨"A", by decide, by decide⟩, ⟨"B", by decide, by decide⟩,
    ⟨false, 1050, 2, by decide, by decide⟩, some .ngn,
    some ⟨2026, 5, 1, by decide, by decide, by decide⟩⟩
  let credit : List Word := ["credit".toList, "B".toList, "10.50".toList]
  let debit : List Word := ["Debit".toList, "A".toList, "10.50".toList, "ngn".toList]
  let day : List Word := ["on".toList, "2026-05-01".toList]
  have hforms : LegsWrittenAs ⟨order.debitAccount, order.amount, some .ngn⟩
      ⟨order.creditAccount, order.amount, none⟩ order.executeBy [credit, debit, day] := by
    have hswap : (([credit, debit, day] : List _) : Multiset (List Word)) = [debit, credit, day] :=
      Multiset.coe_eq_coe.mpr (List.Perm.swap ..)
    rw [LegsWrittenAs, hswap]
    exact .cons (by decide +kernel) (.cons (by decide +kernel) (.cons (by decide +kernel) .zero))
  have hspaced {words : List Word} (hne : words ≠ []) :
      Text.Spaced isClauseBlank words ([' '].intercalate words) :=
    Text.spaced_intercalate (by decide) hne
  have hpieces : List.Forall₂ (fun words piece => ∃ body,
      Text.Spaced isClauseBlank words body ∧ Text.Padded body piece) [credit, debit, day]
      ["credit B 10.50".toList, " \nDebit A 10.50 ngn".toList, "on 2026-05-01".toList] :=
    .cons ⟨_, hspaced (by decide), [], [], by simp, by simp, rfl⟩
      (.cons ⟨_, hspaced (by decide), [' ', '\n'], [], by simp [Text.isBlank], by simp, rfl⟩
        (.cons ⟨_, hspaced (by decide), [], [], by simp, by simp, rfl⟩ .nil))
  have hjoined : Leg.Joined ⟨order.debitAccount, order.amount, some .ngn⟩
      ⟨order.creditAccount, order.amount, none⟩ order :=
    ⟨rfl, fun _ _ _ hcredit => (by cases hcredit), rfl, rfl, rfl, rfl⟩
  have hday : ∀ date, order.executeBy = some date → 0 ≤ date.year ∧ date.year ≤ 9999 := by
    rintro date hdate
    cases hdate
    decide
  exact read_written hday (.legs hjoined rfl hforms (by decide +kernel) hpieces)

/-- A zero with a minus sign is not negative, but its text is not read as an amount. -/
theorem read_written_refuses_signed_zero :
    ∃ order : TransferOrder, order.amount.NonNegative ∧
      Written order "DEBIT -0 NGN FROM ACCOUNT A FOR CREDIT TO ACCOUNT B".toList ∧
      read "DEBIT -0 NGN FROM ACCOUNT A FOR CREDIT TO ACCOUNT B".toList =
        .error (.invalidAmount "-0") := by
  let words : List Word := ["DEBIT".toList, "-0".toList, "NGN".toList, "FROM".toList,
    "ACCOUNT".toList, "A".toList, "FOR".toList, "CREDIT".toList, "TO".toList, "ACCOUNT".toList,
    "B".toList]
  have hspaced : Text.Spaced Text.isBlank words ([' '].intercalate words) :=
    Text.spaced_intercalate (by decide) (by decide)
  refine ⟨⟨.debit, ⟨"A", by decide, by decide⟩, ⟨"B", by decide, by decide⟩,
    ⟨true, 0, 0, by decide, by decide⟩, some .ngn, none⟩, by decide, ?_, by decide +kernel⟩
  exact .sentence rfl (by decide +kernel) hspaced (Text.padded_self _)

end Remittance.Instruction
