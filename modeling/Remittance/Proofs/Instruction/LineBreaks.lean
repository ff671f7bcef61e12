import Mathlib.Algebra.BigOperators.Group.Multiset.Basic
import Mathlib.Data.List.Chain
import Remittance.Proofs.Instruction.Reading
import Remittance.Proofs.Instruction.WrittenWords
/-!
# Line breaks between clauses

Two legs, and perhaps a day, can stand on lines of their own instead of between semicolons. A line
break is also a blank, and without a semicolon all the words are first taken together, so a word at
the end of one line can join the first word of the next. Among the words of legs this happens only
where a leg in the currency `FOR` stands in front of the other leg (`isSentence_flatten_iff`). There
the lines are refused as a sentence; everywhere else line breaks and semicolons are read alike
(`read_lines`).
-/

namespace Remittance.Instruction

variable {debit credit leg : Leg} {day : Option Date} {side : Side} {date : Date}
  {words next : List Word} {w a b : Word} {cut : List (List Word)} {lines : List (List Char)}
  {gap : List Char} {keyword : String}

/-- The two words are a joint of a sentence. -/
def Joint (a b : Word) : Prop := a.isKeyword "FOR" = true ∧ b.side?.isSome = true

/-- A leg in the currency `FOR` stands directly in front of a leg. -/
def RunsOn (cut : List (List Word)) : Prop :=
  ∃ before words next after, cut = before ++ words :: next :: after ∧
    (∃ side leg, Fills (Leg.slots side leg) words ∧
      leg.currency = some ⟨"FOR", by decide, by decide⟩) ∧
    ∃ side leg, Fills (Leg.slots side leg) next

/-- The line holds the words, and no end of a clause. -/
def LineOf (words : List Word) (line : List Char) : Prop :=
  Text.words line = words ∧ ∀ c ∈ line, endsClause c = false

/-! ## Joints -/

/-- Words are recognised as a sentence if there is a joint among them. -/
lemma isSentence_eq_false_iff :
    isSentence words = false ↔ words.IsChain fun a b => ¬ Joint a b := by
  fun_induction isSentence words with
  | case1 a b rest ih =>
    rw [List.isChain_cons_cons, ← ih, Joint, Bool.or_eq_false_iff, ← Bool.and_eq_true,
      Bool.not_eq_true]
  | case2 words hne =>
    rcases words with _ | ⟨a, _ | ⟨b, rest⟩⟩
    · simp
    · simp
    · exact absurd rfl (hne a b rest)

/-- The words of clauses that are no joint by themselves have one only where one clause ends and the
next begins. -/
lemma isSentence_flatten_eq_false_iff (hne : ∀ words ∈ cut, words ≠ [])
    (hinside : ∀ words ∈ cut, words.IsChain fun a b => ¬ Joint a b) :
    isSentence cut.flatten = false ↔
      cut.IsChain fun words next => ∀ a ∈ words.getLast?, ∀ b ∈ next.head?, ¬ Joint a b := by
  rw [isSentence_eq_false_iff, List.isChain_flatten fun hmem => hne [] hmem rfl]
  exact and_iff_right hinside

/-! ## Words that are no keyword -/

/-- A keyword has only letters. -/
lemma isAlpha_of_isKeyword (hslot : (Slot.keyword keyword).Regular)
    (h : w.isKeyword keyword = true) : ∀ c ∈ w, c.isAlpha = true :=
  isAlpha_of_map_toUpper hslot.2 ((isKeyword_iff_writtenAs hslot).mp h)

lemma length_of_isKeyword (h : w.isKeyword keyword = true) : w.length = keyword.toList.length := by
  have hlength := congrArg List.length (isKeyword_iff.mp h)
  rwa [List.length_map, List.length_map] at hlength

/-- No amount is a keyword. -/
lemma not_isKeyword_of_readAmount {amount : Decimal} (hslot : (Slot.keyword keyword).Regular)
    (h : readAmount w = .ok amount) : w.isKeyword keyword = false := by
  rw [Bool.eq_false_iff]
  intro hkeyword
  have hamount : w.isAmount = true := by
    unfold readAmount at h
    split at h <;> simp_all
  have hne : w ≠ [] := by
    rw [← List.length_pos_iff, length_of_isKeyword hkeyword, List.length_pos_iff]
    exact hslot.1
  obtain ⟨c, hc⟩ := List.exists_mem_of_ne_nil w hne
  have halpha : (c.isUpper || c.isLower) = true := isAlpha_of_isKeyword hslot hkeyword c hc
  rw [Bool.or_eq_true, isUpper_iff, isLower_iff] at halpha
  rcases isDigit_or_point_of_isAmount hamount c hc with hdigit | rfl
  · obtain ⟨hlow, hhigh⟩ := Char.isDigit_iff_toNat.mp hdigit
    change 48 ≤ c.toNat at hlow
    change c.toNat ≤ 57 at hhigh
    omega
  · exact absurd halpha (by decide)

/-- No date is a keyword, unless that has ten letters. -/
lemma not_isKeyword_of_readDate (hslot : (Slot.keyword keyword).Regular)
    (hlength : keyword.toList.length ≠ 10) (h : readDate w = .ok date) :
    w.isKeyword keyword = false := by
  rw [Bool.eq_false_iff]
  intro hkeyword
  have hsize : (String.ofList w).utf8ByteSize = 10 := by
    unfold readDate at h
    split at h <;> simp_all
  have hchars : ∀ c ∈ w, IsWordChar c := fun c hc =>
    isWordChar_of_isAlpha (isAlpha_of_isKeyword hslot hkeyword c hc)
  rw [utf8ByteSize_of_isWordChar hchars, length_of_isKeyword hkeyword] at hsize
  exact hlength hsize

/-! ## Joints between clauses -/

/-- The words of a leg. -/
lemma exists_words_of_fills_leg (h : Fills (leg.slots side) words) :
    ∃ head id amount rest, words = head :: id :: amount :: rest ∧
      head.isKeyword side.keyword = true ∧ readAmount amount = .ok leg.amount ∧
      Fills (leg.currency.toList.map .currency) rest := by
  obtain ⟨head, _, hhead, h₁, rfl⟩ := List.forall₂_cons_left_iff.mp h
  obtain ⟨id, _, -, h₂, rfl⟩ := List.forall₂_cons_left_iff.mp h₁
  obtain ⟨amount, rest, hamount, hrest, rfl⟩ := List.forall₂_cons_left_iff.mp h₂
  exact ⟨head, id, amount, rest, rfl, hhead, hamount, hrest⟩

/-- The words of the clause of the day. -/
lemma exists_words_of_fills_day (h : Fills (daySlots date) words) :
    ∃ on word, words = [on, word] ∧ on.isKeyword "ON" = true ∧ readDate word = .ok date := by
  obtain ⟨on, _, hon, h₁, rfl⟩ := List.forall₂_cons_left_iff.mp h
  obtain ⟨word, rest, hword, hrest, rfl⟩ := List.forall₂_cons_left_iff.mp h₁
  obtain rfl := fills_nil_left.mp hrest
  exact ⟨on, word, rfl, hon, hword⟩

/-- What stands behind the amount of a leg is its currency, if it has one. -/
lemma exists_code_of_fills {currency : Option Currency}
    (h : Fills (currency.toList.map .currency) words) :
    currency = none ∧ words = [] ∨ ∃ stated code, currency = some stated ∧ words = [code] ∧
      code.map Char.toUpper = stated.code.toList := by
  cases currency with
  | none => exact .inl ⟨rfl, fills_nil_left.mp h⟩
  | some stated =>
    obtain ⟨code, rest, hcode, hrest, rfl⟩ := List.forall₂_cons_left_iff.mp h
    obtain rfl := fills_nil_left.mp hrest
    exact .inr ⟨stated, code, rfl, rfl, hcode⟩

/-- No keyword of a side is an amount. -/
lemma side?_of_readAmount {amount : Decimal} (h : readAmount w = .ok amount) : w.side? = none := by
  rw [Option.eq_none_iff_forall_ne_some]
  intro side hside
  rw [side?_eq_some_iff, not_isKeyword_of_readAmount (regular_keyword side).1 h] at hside
  cases hside

/-- There is no joint in a leg. -/
lemma isChain_of_fills_leg (h : Fills (leg.slots side) words) :
    words.IsChain fun a b => ¬ Joint a b := by
  obtain ⟨head, id, amount, rest, rfl, hhead, hamount, hrest⟩ := exists_words_of_fills_leg h
  have hfirst : ¬ Joint head id := fun hjoint => by
    have hfor : head.isKeyword "FOR" = false :=
      not_isKeyword_of_isKeyword hhead (by cases side <;> decide)
    rw [Joint, hfor] at hjoint
    cases hjoint.1
  have hsecond : ¬ Joint id amount := fun hjoint => by
    rw [Joint, side?_of_readAmount hamount] at hjoint
    cases hjoint.2
  have hthird : ∀ code, ¬ Joint amount code := fun code hjoint => by
    rw [Joint, not_isKeyword_of_readAmount regular_for hamount] at hjoint
    cases hjoint.1
  rcases exists_code_of_fills hrest with ⟨-, rfl⟩ | ⟨_, code, -, rfl, -⟩
  · simp [hfirst, hsecond]
  · simp [hfirst, hsecond, hthird]

/-- There is no joint in the clause of the day. -/
lemma isChain_of_fills_day (h : Fills (daySlots date) words) :
    words.IsChain fun a b => ¬ Joint a b := by
  obtain ⟨on, word, rfl, hon, -⟩ := exists_words_of_fills_day h
  have hfor : on.isKeyword "FOR" = false := not_isKeyword_of_isKeyword hon (by decide)
  simp [Joint, hfor]

/-- A leg that ends with `FOR` is in this currency. -/
lemma currency_of_last_for (h : Fills (leg.slots side) words) (hlast : a ∈ words.getLast?)
    (hfor : a.isKeyword "FOR" = true) : leg.currency = some ⟨"FOR", by decide, by decide⟩ := by
  obtain ⟨head, id, amount, rest, rfl, -, hamount, hrest⟩ := exists_words_of_fills_leg h
  rcases exists_code_of_fills hrest with ⟨-, rfl⟩ | ⟨currency, code, hcurrency, rfl, hcode⟩
  · obtain rfl : amount = a := by simpa using hlast
    rw [not_isKeyword_of_readAmount regular_for hamount] at hfor
    cases hfor
  · obtain rfl : code = a := by simpa using hlast
    have hsame : currency.code.toList = "FOR".toList :=
      hcode.symm.trans ((isKeyword_iff_writtenAs regular_for).mp hfor)
    obtain ⟨text, hlength, hcapitals⟩ := currency
    obtain rfl : text = "FOR" := String.toList_injective hsame
    exact hcurrency

/-- A leg in the currency `FOR` ends with the keyword. -/
lemma isKeyword_of_currency_for (h : Fills (leg.slots side) words)
    (hcurrency : leg.currency = some ⟨"FOR", by decide, by decide⟩) :
    ∃ a ∈ words.getLast?, a.isKeyword "FOR" = true := by
  obtain ⟨head, id, amount, rest, rfl, -, -, hrest⟩ := exists_words_of_fills_leg h
  rcases exists_code_of_fills hrest with ⟨hnone, -⟩ | ⟨currency, code, hsome, rfl, hcode⟩
  · cases hcurrency.symm.trans hnone
  · cases hcurrency.symm.trans hsome
    exact ⟨code, by simp, (isKeyword_iff_writtenAs regular_for).mpr hcode⟩

/-! ## Joints among all the words -/

/-- Every clause is a leg or that of the day. -/
lemma LegForm.leg_or_day (h : LegForm debit credit day cut) (hmem : words ∈ cut) :
    (∃ side leg, Fills (Leg.slots side leg) words) ∨ ∃ date, Fills (daySlots date) words := by
  rcases form_of_rel h hmem with hfills | hfills | ⟨date, -, hfills⟩
  · exact .inl ⟨.debit, debit, hfills⟩
  · exact .inl ⟨.credit, credit, hfills⟩
  · exact .inr ⟨date, hfills⟩

lemma LegForm.ne_nil (h : LegForm debit credit day cut) : ∀ words ∈ cut, words ≠ [] := by
  rintro words hmem rfl
  rcases h.leg_or_day hmem with ⟨side, leg, hfills⟩ | ⟨date, hfills⟩
  · simp [Leg.slots] at hfills
  · simp [daySlots] at hfills

/-- The words of two legs and a day are recognised as a sentence exactly where a leg in the currency
`FOR` stands in front of the other leg. -/
theorem isSentence_flatten_iff (h : LegForm debit credit day cut) :
    isSentence cut.flatten = true ↔ RunsOn cut := by
  have hinside : ∀ words ∈ cut, words.IsChain fun a b => ¬ Joint a b := by
    intro words hmem
    rcases h.leg_or_day hmem with ⟨side, leg, hfills⟩ | ⟨date, hfills⟩
    · exact isChain_of_fills_leg hfills
    · exact isChain_of_fills_day hfills
  rw [← not_iff_not, Bool.not_eq_true, isSentence_flatten_eq_false_iff h.ne_nil hinside,
    List.isChain_iff_forall_rel_of_append_cons_cons]
  constructor
  · rintro hchain ⟨before, words, next, after, hcut, ⟨side, leg, hfills, hcurrency⟩,
      side', leg', hnext⟩
    obtain ⟨a, hlast, hfor⟩ := isKeyword_of_currency_for hfills hcurrency
    obtain ⟨b, hhead, hside⟩ := Option.bind_eq_some_iff.mp (Leg.side?_of_fills hnext)
    exact hchain hcut a hlast b hhead ⟨hfor, by rw [hside, Option.isSome_some]⟩
  · rintro hnot words next before after hcut a hlast b hhead ⟨hfor, hside⟩
    refine hnot ⟨before, words, next, after, hcut, ?_, ?_⟩
    · have hmem : words ∈ cut := by simp [hcut]
      rcases h.leg_or_day hmem with ⟨side, leg, hfills⟩ | ⟨date, hfills⟩
      · exact ⟨side, leg, hfills, currency_of_last_for hfills hlast hfor⟩
      · obtain ⟨on, word, rfl, -, hword⟩ := exists_words_of_fills_day hfills
        obtain rfl : word = a := by simpa using hlast
        rw [not_isKeyword_of_readDate regular_for (by decide) hword] at hfor
        cases hfor
    · have hmem : next ∈ cut := by simp [hcut]
      rcases h.leg_or_day hmem with hleg | ⟨date, hfills⟩
      · exact hleg
      · have hnone := side?_of_fills_day hfills
        rw [Option.mem_def.mp hhead, Option.bind_some] at hnone
        simp [hnone] at hside

lemma Leg.length_slots_le (side : Side) (leg : Leg) : (leg.slots side).length ≤ 4 := by
  cases hcurrency : leg.currency <;> simp [Leg.slots, hcurrency]

/-- Two legs and a day have ten words at most. -/
lemma LegForm.length_flatten_le (h : LegForm debit credit day cut) : cut.flatten.length ≤ 10 := by
  have hlengths : Multiset.Rel (fun (form : List Slot) (words : List Word) =>
        form.length = words.length)
      (debit.slots .debit :: credit.slots .credit :: day.toList.map daySlots : List (List Slot))
      cut :=
    h.mono fun _ _ _ _ hfills => hfills.length_eq
  have hsum := congrArg Multiset.sum (Multiset.rel_eq.mp (Multiset.rel_map.mpr hlengths))
  simp only [Multiset.map_coe, Multiset.sum_coe, List.map_cons, List.sum_cons] at hsum
  have hdebit := Leg.length_slots_le .debit debit
  have hcredit := Leg.length_slots_le .credit credit
  have hday : ((day.toList.map daySlots).map List.length).sum ≤ 2 := by
    cases day <;> simp [daySlots]
  rw [List.length_flatten]
  omega

/-- No sentence has ten words or fewer. -/
lemma readSentence_of_length_le (h : words.length ≤ 10) :
    readSentence words = .error (.malformed .sentence) := by
  have hnone : Sentence.ofWords? words = none := by
    unfold Sentence.ofWords?
    split
    · simp only [List.length_cons] at h
      omega
    · rfl
  rw [readSentence, hnone]

/-! ## Lines -/

lemma clauses_lines (hne : gap ≠ []) (hgap : ∀ c ∈ gap, endsClause c = true)
    (hwords : ∀ words ∈ cut, words ≠ []) (h : List.Forall₂ LineOf cut lines) :
    clauses (gap.intercalate lines) = cut := by
  refine clauses_pieces hne hgap (((List.forall₂_and_left cut lines).mpr ⟨hwords, h⟩).imp ?_)
  rintro words line ⟨hwords, hline, hfree⟩
  rw [clauses_of_free hfree, hline]
  simp [hwords]

lemma words_lines (hne : gap ≠ []) (hgap : ∀ c ∈ gap, Text.isBlank c = true)
    (h : List.Forall₂ LineOf cut lines) : Text.words (gap.intercalate lines) = cut.flatten := by
  rw [Text.words, Text.runs_intercalate hne hgap]
  induction h with
  | nil => rfl
  | cons hline _ ih => rw [List.flatMap_cons, ih, List.flatten_cons, ← hline.1]; rfl

lemma free_of_lines (h : List.Forall₂ LineOf cut lines) :
    ∀ line ∈ lines, ∀ c ∈ line, endsClause c = false := by
  induction h with
  | nil => simp
  | cons hline _ ih => exact List.forall_mem_cons.mpr ⟨hline.2, ih⟩

/-- No semicolon stands in lines, nor between them if it is not put there. -/
lemma not_mem_lines (hgap : ';' ∉ gap) (h : List.Forall₂ LineOf cut lines) :
    ';' ∉ gap.intercalate lines := by
  intro hmem
  rcases Text.mem_intercalate hmem with hmem | ⟨line, hline, hmem⟩
  · exact hgap hmem
  · cases free_of_lines h line hline ';' hmem

/-- The lines of two legs with semicolons between them are read as what the legs join into. -/
lemma read_lines_of_semicolons (hform : LegForm debit credit day cut)
    (h : List.Forall₂ LineOf cut lines) : ∃ side, firstSide? cut = some side ∧
      read ([';'].intercalate lines) = Legs.join side debit credit day := by
  obtain ⟨side, hside, hread⟩ := readClauses_of_legForm hform.ne_nil hform
  have hsemicolon : ';' ∈ [';'].intercalate lines := by
    have hcard := Multiset.card_eq_card_of_rel hform
    rcases h with _ | ⟨_, _ | ⟨_, _⟩⟩
    · simp at hcard
    · simp at hcard
    · simp [List.intercalate_cons_cons]
  refine ⟨side, hside, ?_⟩
  rw [read_of_semicolon hsemicolon, clauses_lines (by decide) (by simp [endsClause]) hform.ne_nil h,
    readCut_of_legForm hform, hread]

/-- Lines of two legs are read as a sentence if their words are recognised as one, else as the
clauses that they are. -/
lemma read_lines_of_breaks (hne : gap ≠ [])
    (hgap : ∀ c ∈ gap, endsClause c = true ∧ Text.isBlank c = true)
    (hform : LegForm debit credit day cut) (h : List.Forall₂ LineOf cut lines) :
    read (gap.intercalate lines) =
      if isSentence cut.flatten = true then readSentence cut.flatten else readClauses cut := by
  have hends : ∀ c ∈ gap, endsClause c = true := fun c hc => (hgap c hc).1
  have hblank : ∀ c ∈ gap, Text.isBlank c = true := fun c hc => (hgap c hc).2
  have hsemicolon : ';' ∉ gap.intercalate lines :=
    not_mem_lines (fun hmem => absurd (hblank ';' hmem) (by decide)) h
  have hwords := words_lines hne hblank h
  have hclauses := clauses_lines hne hends hform.ne_nil h
  split
  · next hsentence => exact read_of_isSentence hsentence (.inl ⟨hsemicolon, hwords⟩)
  · next hsentence =>
    have hcut : cut ≠ [] := by
      rintro rfl
      cases Multiset.card_eq_card_of_rel hform
    rw [read_of_clauses (by rwa [hclauses]) (.inr (by simpa [hwords] using hsentence)), hclauses,
      readCut_of_legForm hform]

/-- What legs join into is never refused as a sentence. -/
lemma join_ne_malformed_sentence :
    Legs.join side debit credit day ≠ .error (.malformed .sentence) := by
  intro h
  rcases Legs.mismatch_of_join_eq_error h with hfault | ⟨d, c, hfault⟩ <;> cases hfault

/-- Two legs, and perhaps a day, each on a line of its own, are read alike for either kind of line
break. They are read as they are between semicolons, unless a leg in the currency `FOR` stands in
front of the other leg: then the words are taken for a sentence, and refused as one. -/
theorem read_lines (hform : LegForm debit credit day cut) (h : List.Forall₂ LineOf cut lines) :
    (∃ side, firstSide? cut = some side ∧
      read ([';'].intercalate lines) = Legs.join side debit credit day) ∧
    read (['\r', '\n'].intercalate lines) = read (['\n'].intercalate lines) ∧
    (RunsOn cut → read (['\n'].intercalate lines) = .error (.malformed .sentence)) ∧
    (read (['\n'].intercalate lines) = read ([';'].intercalate lines) ↔ ¬ RunsOn cut) := by
  obtain ⟨side, hside, hread⟩ := readClauses_of_legForm hform.ne_nil hform
  obtain ⟨side', hside', hsemicolons⟩ := read_lines_of_semicolons hform h
  obtain rfl : side = side' := Option.some.inj (hside.symm.trans hside')
  have hcrlf : read (['\r', '\n'].intercalate lines) = _ :=
    read_lines_of_breaks (by decide) (by simp [endsClause, Text.isBlank]) hform h
  have hlf : read (['\n'].intercalate lines) = _ :=
    read_lines_of_breaks (by decide) (by simp [endsClause, Text.isBlank]) hform h
  have hrefused : RunsOn cut → read (['\n'].intercalate lines) = .error (.malformed .sentence) := by
    intro hruns
    rw [hlf, if_pos ((isSentence_flatten_iff hform).mpr hruns),
      readSentence_of_length_le hform.length_flatten_le]
  refine ⟨⟨side, hside, hsemicolons⟩, hcrlf.trans hlf.symm, hrefused, fun hsame hruns => ?_,
    fun hruns => ?_⟩
  · exact join_ne_malformed_sentence
      (hsemicolons.symm.trans (hsame.symm.trans (hrefused hruns)))
  · rw [hlf, if_neg fun hsentence => hruns ((isSentence_flatten_iff hform).mp hsentence), hread,
      hsemicolons]

/-- `FOR` as an account and as the currency of the last leg, and a day between the legs. -/
theorem read_lines_ending_with_for :
    let lines := ["CREDIT FOR 10".toList, "on 2030-06-20".toList, "Debit A 10 for".toList]
    read (['\r', '\n'].intercalate lines) = read (['\n'].intercalate lines) ∧
      read (['\n'].intercalate lines) = read ([';'].intercalate lines) := by
  intro lines
  let amount : Decimal := ⟨false, 10, 0, by decide, by decide⟩
  let debit : Leg := ⟨⟨"A", by decide, by decide⟩, amount, some ⟨"FOR", by decide, by decide⟩⟩
  let credit : Leg := ⟨⟨"FOR", by decide, by decide⟩, amount, none⟩
  let day : Date := ⟨2030, 6, 20, by decide, by decide, by decide⟩
  let first : List Word := ["CREDIT".toList, "FOR".toList, "10".toList]
  let second : List Word := ["on".toList, "2030-06-20".toList]
  let third : List Word := ["Debit".toList, "A".toList, "10".toList, "for".toList]
  have hform : LegForm debit credit (some day) [first, second, third] := by
    have hcut : (([first, second, third] : List _) : Multiset (List Word)) =
        [third, first, second] :=
      Multiset.coe_eq_coe.mpr (List.perm_append_singleton third [first, second])
    rw [LegForm, hcut]
    exact .cons (by decide +kernel) (.cons (by decide +kernel) (.cons (by decide +kernel) .zero))
  have hfree {line : List Char} (h : line.all (!endsClause ·) = true) :
      ∀ c ∈ line, endsClause c = false := by simpa using h
  have hlines : List.Forall₂ LineOf [first, second, third] lines :=
    .cons ⟨rfl, hfree (by decide)⟩
      (.cons ⟨rfl, hfree (by decide)⟩ (.cons ⟨rfl, hfree (by decide)⟩ .nil))
  have hruns : ¬ RunsOn [first, second, third] :=
    (isSentence_flatten_iff hform).not.mp (by decide +kernel)
  obtain ⟨-, hcrlf, -, hlf⟩ := read_lines hform hlines
  exact ⟨hcrlf, hlf.mpr hruns⟩

/-- `FOR` at the end of a line and `DEBIT` at the start of the next are taken for the joint of a
sentence. -/
theorem read_break_behind_for :
    read "CREDIT B 10 FOR\nDEBIT A 10".toList = .error (.malformed .sentence) ∧
      read "CREDIT B 10 FOR;DEBIT A 10".toList = .ok ⟨.credit, ⟨"A", by decide, by decide⟩,
        ⟨"B", by decide, by decide⟩, ⟨false, 10, 0, by decide, by decide⟩,
        some ⟨"FOR", by decide, by decide⟩, none⟩ := by
  constructor <;> decide +kernel

end Remittance.Instruction
