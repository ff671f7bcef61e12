import Remittance.Instruction
import Remittance.Proofs.Instruction.Legs
/-!
# Reading instructions

What an instruction with a semicolon asks for in clauses is what its two legs make
(`read_legForm`), and an instruction that is read is a sentence or two legs with all its words, and
nothing else stands in it (`read_sound`).
-/

namespace Remittance.Instruction

variable {text : List Char}

/-- The words of the text are the sentence of the order. The text has no semicolon, so that its
words are what stands between blanks, or the sentence is its only clause. -/
def IsSentenceOf (order : TransferOrder) (text : List Char) : Prop :=
  ∃ currency, order.currency = some currency ∧
    Fills (sentenceSlots order currency) (tokens text) ∧
    (';' ∉ text ∧ Text.words text = tokens text ∨ clauses text = [tokens text])

/-- The clauses of the text, which hold all its words, are two legs that join into the order, in the
order of its sides, and its day. -/
def IsLegsOf (order : TransferOrder) (text : List Char) : Prop :=
  (clauses text).flatten = tokens text ∧
    ∃ debit credit, LegForm debit credit order.executeBy (clauses text) ∧
      debit.Joined credit order ∧ firstSide? (clauses text) = some order.side

/-! ## The ways to read a text -/

lemma ne_nil_of_mem_clauses {words : List Word} (h : words ∈ clauses text) : words ≠ [] := by
  simpa using (List.mem_filter.mp h).2

/-- The blanks at both ends of a text do not matter for how it is read. -/
lemma read_eq (text : List Char) : read text =
    if Text.trim text = [] then .error .empty
    else if ';' ∉ text ∧ isSentence (Text.words text) = true then readSentence (Text.words text)
    else readCut (clauses text) := by
  have hsemicolon := Text.mem_trim_iff (by decide : Text.isBlank ';' = false) text
  unfold read
  simp only [Text.words_trim, clauses_trim, List.isEmpty_iff, Bool.and_eq_true, Bool.not_eq_true',
    List.contains_eq_mem, decide_eq_false_iff_not, hsemicolon]

/-- A text is read in the same way when its blanks have been trimmed before. -/
lemma read_trim (text : List Char) : read (Text.trim text) = read text := by
  have hsemicolon := Text.mem_trim_iff (by decide : Text.isBlank ';' = false) text
  rw [read_eq, read_eq, Text.trim_trim, Text.words_trim, clauses_trim]
  simp only [hsemicolon]

/-- A semicolon is left when a text is trimmed, so there is something to read. -/
lemma read_of_semicolon (h : ';' ∈ text) : read text = readCut (clauses text) := by
  have hmem := (Text.mem_trim_iff (by decide : Text.isBlank ';' = false) text).mpr h
  rw [read_eq, if_neg (List.ne_nil_of_mem hmem), if_neg fun hnot => hnot.1 h]

/-- A text whose words are a sentence is read as one, if it has no semicolon or only one clause. -/
lemma read_of_isSentence {words : List Word} (hsentence : isSentence words = true)
    (hwords : ';' ∉ text ∧ Text.words text = words ∨ clauses text = [words]) :
    read text = readSentence words := by
  by_cases hsemicolon : ';' ∈ text
  · have hclauses := hwords.resolve_left fun h => h.1 hsemicolon
    rw [read_of_semicolon hsemicolon, hclauses, readCut, if_pos hsentence]
  · obtain rfl : Text.words text = words := by
      rcases hwords with ⟨-, hwords⟩ | hclauses
      · exact hwords
      · rw [words_eq_flatten_clauses hsemicolon, hclauses, List.flatten_singleton]
    have hne : Text.trim text ≠ [] := by
      intro hempty
      rw [← Text.words_trim, hempty] at hsentence
      cases hsentence
    rw [read_eq, if_neg hne, if_pos ⟨hsemicolon, hsentence⟩]

/-- Any other text is read clause by clause. -/
lemma read_of_clauses (hne : clauses text ≠ [])
    (hsentence : ';' ∈ text ∨ isSentence (Text.words text) = false) :
    read text = readCut (clauses text) := by
  have htrim : Text.trim text ≠ [] := by
    intro hempty
    rw [← clauses_trim, hempty] at hne
    exact hne rfl
  have hnot : ¬ (';' ∉ text ∧ isSentence (Text.words text) = true) := by
    rintro ⟨hsemicolon, hwords⟩
    rcases hsentence with h | h
    · exact hsemicolon h
    · exact Bool.false_ne_true (h.symm.trans hwords)
  rw [read_eq, if_neg htrim, if_neg hnot]

/-- Two legs are two clauses, and so no sentence. -/
lemma readCut_of_legForm {debit credit : Leg} {day : Option Date} {clauses : List (List Word)}
    (h : LegForm debit credit day clauses) : readCut clauses = readClauses clauses := by
  have hcard := Multiset.card_eq_card_of_rel h
  rcases clauses with _ | ⟨words, _ | ⟨words', clauses⟩⟩
  · rfl
  · simp at hcard
  · rfl

/-! ## Legs -/

/-- An instruction with a semicolon whose clauses are two legs, and perhaps a day, in any order, is
refused for its amounts if they are different numbers, else for its currencies if they are
different, and is otherwise the order that the legs join into, from the side of the first one. -/
theorem read_legForm {debit credit : Leg} {day : Option Date} (hcut : ';' ∈ text)
    (hform : LegForm debit credit day (clauses text)) :
    (debit.amount.toRat ≠ credit.amount.toRat →
      read text = .error (.amountMismatch debit.amount credit.amount)) ∧
    (debit.amount.toRat = credit.amount.toRat →
      (∀ d c, debit.currency = some d → credit.currency = some c → d ≠ c →
        read text = .error (.currencyMismatch d c)) ∧
      (debit.Compatible credit → ∃ side, firstSide? (clauses text) = some side ∧
        read text = .ok ⟨side, debit.account, credit.account, debit.amount,
          debit.currency.or credit.currency, day⟩)) := by
  -- with a semicolon and two clauses, neither test for a sentence applies
  obtain ⟨side, hside, hread⟩ := readClauses_of_legForm (fun _ => ne_nil_of_mem_clauses) hform
  rw [read_of_semicolon hcut, readCut_of_legForm hform, hread]
  refine ⟨Legs.join_of_amounts_ne, fun hsame => ⟨fun d c hd hc hne => ?_, fun hcompatible => ?_⟩⟩
  · exact Legs.join_of_currencies_ne hsame hd hc hne
  · exact ⟨side, hside, Legs.join_eq_ok_iff.mpr
      ⟨⟨hsame, hcompatible, rfl, rfl, rfl, rfl⟩, rfl, rfl⟩⟩

/-- Keywords in whatever case, ids that look like keywords, an empty clause, the day in front. -/
theorem read_legForm_mixed_case :
    let text := "on 2030-06-20;\n\tCredit DEBIT 5.00 ngn ;; debit credit 5\n".toList
    let debit : Leg :=
      ⟨⟨"credit", by decide, by decide⟩, ⟨false, 5, 0, by decide, by decide⟩, none⟩
    let credit : Leg :=
      ⟨⟨"DEBIT", by decide, by decide⟩, ⟨false, 500, 2, by decide, by decide⟩, some .ngn⟩
    let day : Date := ⟨2030, 6, 20, by decide, by decide, by decide⟩
    ';' ∈ text ∧ LegForm debit credit (some day) (clauses text) ∧
      ∃ side, firstSide? (clauses text) = some side ∧
        read text = .ok ⟨side, debit.account, credit.account, debit.amount, some .ngn, some day⟩ := by
  intro text debit credit day
  have hcut : ';' ∈ text := by decide +kernel
  have hclauses : clauses text = [Text.words "on 2030-06-20".toList,
      Text.words "Credit DEBIT 5.00 ngn".toList, Text.words "debit credit 5".toList] := by
    decide +kernel
  have hform : LegForm debit credit (some day) (clauses text) := by
    rw [LegForm, hclauses, ← Multiset.coe_reverse]
    exact .cons (by decide +kernel) (.cons (by decide +kernel) (.cons (by decide +kernel) .zero))
  have hsame : debit.amount.toRat = credit.amount.toRat :=
    Decimal.sameValue_iff_toRat_eq.mp (by decide +kernel)
  have hcompatible : debit.Compatible credit := fun d c hd => by cases hd
  exact ⟨hcut, hform, ((read_legForm hcut hform).2 hsame).2 hcompatible⟩

/-! ## All words are accounted for -/

/-- A sentence that is read from the words of a text is the sentence of the order. -/
lemma isSentenceOf_of_readSentence {order : TransferOrder} {words : List Word}
    (hread : readSentence words = .ok order) (hwords : words = tokens text)
    (hwhole : ';' ∉ text ∧ Text.words text = words ∨ clauses text = [words]) :
    IsSentenceOf order text := by
  obtain ⟨currency, hcurrency, hfills⟩ := readSentence_eq_ok_iff.mp hread
  subst hwords
  exact ⟨currency, hcurrency, hfills, hwhole⟩

lemma isLegsOf_of_readClauses {order : TransferOrder}
    (hread : readClauses (clauses text) = .ok order) : IsLegsOf order text :=
  ⟨flatten_clauses text, (readClauses_eq_ok_iff fun _ => ne_nil_of_mem_clauses).mp hread⟩

lemma stated_of_readCut {order : TransferOrder} (hread : readCut (clauses text) = .ok order) :
    IsSentenceOf order text ∨ IsLegsOf order text := by
  unfold readCut at hread
  split at hread
  · next words hclauses =>
    split at hread
    · have hwords : words = tokens text := by
        rw [← flatten_clauses, hclauses, List.flatten_singleton]
      exact .inl (isSentenceOf_of_readSentence hread hwords (.inr hclauses))
    · rw [← hclauses] at hread
      exact .inr (isLegsOf_of_readClauses hread)
  · exact .inr (isLegsOf_of_readClauses hread)

/-- The amount of an order that a text states is not negative. -/
lemma nonNegative_of_stated {order : TransferOrder}
    (h : IsSentenceOf order text ∨ IsLegsOf order text) : order.amount.NonNegative := by
  rcases h with ⟨currency, -, hfills, -⟩ | ⟨-, debit, credit, hform, hjoined, -⟩
  · exact nonNegative_of_fills (by simp [sentenceSlots]) hfills
  · obtain ⟨words, -, hfills⟩ := Multiset.exists_mem_of_rel_of_mem hform (List.mem_cons_self ..)
    rw [hjoined.amount]
    exact nonNegative_of_fills (by simp [Leg.slots]) hfills

/-- An instruction that is read is the sentence of the order or the legs of the order, with no word
beside them. -/
theorem read_sound {order : TransferOrder} (h : read text = .ok order) :
    0 ≤ order.amount.toRat ∧ (IsSentenceOf order text ∨ IsLegsOf order text) := by
  have hstated : IsSentenceOf order text ∨ IsLegsOf order text := by
    rw [read_eq] at h
    split at h
    · cases h
    · split at h
      · next hsentence =>
        have hwords := (tokens_of_no_semicolon hsentence.1).symm
        exact .inl (isSentenceOf_of_readSentence h hwords (.inl ⟨hsentence.1, rfl⟩))
      · exact stated_of_readCut h
  exact ⟨Decimal.nonNegative_iff.mp (nonNegative_of_stated hstated), hstated⟩

/-- A sentence over two lines, with a keyword for an id. -/
theorem read_sound_two_lines :
    let text := "Debit 5.00 ngn from account FOR\nfor credit to account debit on 2030-06-20".toList
    let order : TransferOrder :=
      ⟨.debit, ⟨"FOR", by decide, by decide⟩, ⟨"debit", by decide, by decide⟩,
        ⟨false, 500, 2, by decide, by decide⟩, some .ngn,
        some ⟨2030, 6, 20, by decide, by decide, by decide⟩⟩
    read text = .ok order ∧
      0 ≤ order.amount.toRat ∧ (IsSentenceOf order text ∨ IsLegsOf order text) := by
  intro text order
  have hread : read text = .ok order := by decide +kernel
  exact ⟨hread, read_sound hread⟩

end Remittance.Instruction
