import Remittance.Instruction.Word
import Remittance.Proofs.Decimal.Reading
import Remittance.Proofs.Text.Spacing
/-!
# The words of an instruction

Which words the readers accept: an account id is spelled by its own text, a currency by its code in
whatever case (`readAccountId_eq_ok_iff`, `readCurrency_eq_ok_iff`), and an amount is never negative
(`nonNegative_of_readAmount`). How a text comes apart: it is cut at the end of each clause
(`clauses_append_end`), no blank at either end counts (`clauses_trim`), and the words of its clauses
are all that stands in it (`flatten_clauses`).
-/

namespace Remittance

/-! ## Account ids and currencies -/

lemma AccountId.ofString?_eq_some_iff {text : String} {id : AccountId} :
    AccountId.ofString? text = some id ↔ id.text = text := by
  unfold AccountId.ofString?
  constructor
  · intro h
    split at h <;> cases h
    rfl
  · rintro rfl
    rw [dif_pos ⟨id.nonempty, id.allowed⟩]

lemma Currency.ofString?_eq_some_iff {code : String} {currency : Currency} :
    Currency.ofString? code = some currency ↔ currency.code = code := by
  unfold Currency.ofString?
  constructor
  · intro h
    split at h <;> cases h
    rfl
  · rintro rfl
    rw [dif_pos ⟨currency.length_eq, currency.capitals⟩]

namespace Instruction

/-! ## Keywords -/

section

variable {w : Word} {side : Side}

lemma isKeyword_iff {keyword : String} :
    w.isKeyword keyword = true ↔ w.map Char.toUpper = keyword.toList.map Char.toUpper :=
  beq_iff_eq

/-- A word is one keyword at most. -/
lemma not_isKeyword_of_isKeyword {keyword other : String} (h : w.isKeyword keyword = true)
    (hne : keyword.toList.map Char.toUpper ≠ other.toList.map Char.toUpper) :
    w.isKeyword other = false := by
  rw [Bool.eq_false_iff]
  intro hother
  exact hne ((isKeyword_iff.mp h).symm.trans (isKeyword_iff.mp hother))

/-- A word is the keyword of one side at most. -/
lemma side?_eq_some_iff : w.side? = some side ↔ w.isKeyword side.keyword = true := by
  unfold Word.side?
  split
  next hdebit =>
    cases side with
    | debit => simpa using hdebit
    | credit =>
      rw [isKeyword_iff] at hdebit
      simp only [Option.some.injEq, reduceCtorEq, false_iff, isKeyword_iff, hdebit]
      decide
  next hdebit => cases side <;> simp [hdebit]

/-- The keyword of the day is that of no side. -/
lemma side?_of_isKeyword_on (h : w.isKeyword "ON" = true) : w.side? = none := by
  rw [Option.eq_none_iff_forall_ne_some]
  intro side hside
  rw [side?_eq_some_iff, not_isKeyword_of_isKeyword h (by cases side <;> decide)] at hside
  cases hside

/-! ## Readers -/

/-- The words that are read as an account id are the texts of account ids. -/
lemma readAccountId_eq_ok_iff {id : AccountId} :
    readAccountId w = .ok id ↔ w = id.text.toList := by
  have hread : readAccountId w = .ok id ↔ AccountId.ofString? (String.ofList w) = some id := by
    unfold readAccountId
    split <;> simp_all
  rw [hread, AccountId.ofString?_eq_some_iff, String.ext_iff, String.toList_ofList, eq_comm]

/-- The words that are read as a currency are its code, in whatever case. -/
lemma readCurrency_eq_ok_iff {currency : Currency} :
    readCurrency w = .ok currency ↔ w.map Char.toUpper = currency.code.toList := by
  have hread : readCurrency w = .ok currency ↔
      Currency.ofString? (String.ofList (w.map Char.toUpper)) = some currency := by
    unfold readCurrency
    split <;> simp_all
  rw [hread, Currency.ofString?_eq_some_iff, String.ext_iff, String.toList_ofList, eq_comm]

/-- The characters of an amount are digits and a point. -/
lemma isDigit_or_point_of_isAmount (h : w.isAmount = true) :
    ∀ c ∈ w, c.isDigit = true ∨ c = '.' := by
  obtain ⟨hwhole, hfraction⟩ := Bool.and_eq_true_iff.mp h
  intro c hc
  rw [← List.takeWhile_append_dropWhile (p := (· != '.')) (l := w), List.mem_append] at hc
  rcases hc with hc | hc
  · exact .inl (List.all_eq_true.mp (Bool.and_eq_true_iff.mp hwhole).2 c hc)
  · cases hdrop : w.dropWhile (· != '.') with
    | nil => simp [hdrop] at hc
    | cons point fraction =>
      have hpoint : point = '.' := by
        have hhead := List.head_dropWhile_not (· != '.') (l := w) (by simp [hdrop])
        simpa [hdrop] using hhead
      rw [hdrop] at hc hfraction
      rcases List.mem_cons.mp hc with rfl | hc
      · exact .inr hpoint
      · exact .inl (List.all_eq_true.mp (Bool.and_eq_true_iff.mp hfraction).2 c hc)

/-- An amount has no sign and no exponent, so it is not negative. -/
lemma nonNegative_of_readAmount {a : Decimal} (h : readAmount w = .ok a) : a.NonNegative := by
  have hread : w.isAmount = true ∧ Decimal.read? w = some a := by
    unfold readAmount at h
    split at h <;> simp_all
  obtain ⟨hamount, hread⟩ := hread
  have hchars := isDigit_or_point_of_isAmount hamount
  have hsign : '-' ∉ w := fun hmem => absurd (hchars '-' hmem) (by decide)
  have hmark : ∀ c ∈ w, Decimal.isExponentMark c = false := fun c hc =>
    Decimal.not_isExponentMark ((hchars c hc).imp_right .inl)
  rw [Decimal.read?_eq_readPlain hmark] at hread
  cases hplain : Decimal.readPlain w with
  | error fault => simp [hplain, Except.toOption] at hread
  | ok b =>
    obtain rfl : b = a := by simpa [hplain, Except.toOption] using hread
    exact Decimal.nonNegative_of_readPlain hsign hplain

end

/-! ## Clauses -/

/-- The words of a text, where the end of a clause also ends a word. -/
def tokens (cs : List Char) : List Word := Text.runs (fun c => endsClause c || Text.isBlank c) cs

/-- A text is cut at each end of a clause. -/
lemma clauses_append_end {c : Char} (hc : endsClause c = true) (xs ys : List Char) :
    clauses (xs ++ c :: ys) = clauses xs ++ clauses ys := by
  rw [clauses, Text.runs_append_break hc, List.map_append, List.filter_append]
  rfl

/-- Ends of clauses between pieces of a text make each piece its own clause. -/
lemma clauses_pieces {gap : List Char} {pieces : List (List Char)} {cut : List (List Word)}
    (hne : gap ≠ []) (hgap : ∀ c ∈ gap, endsClause c = true)
    (h : List.Forall₂ (fun words piece => clauses piece = [words]) cut pieces) :
    clauses (gap.intercalate pieces) = cut := by
  have hcut : pieces.flatMap clauses = cut := by
    induction h with
    | nil => rfl
    | cons hpiece _ ih =>
      rw [List.flatMap_cons, hpiece, ih]
      rfl
  rw [← hcut, clauses, Text.runs_intercalate hne hgap, List.map_flatMap, List.filter_flatMap]
  rfl

/-- A text without an end of a clause is one clause, if it has a word. -/
lemma clauses_of_free {cs : List Char} (h : ∀ c ∈ cs, endsClause c = false) :
    clauses cs = [Text.words cs].filter (!·.isEmpty) := by
  rw [clauses, Text.runs_of_free h]
  cases cs <;> rfl

lemma clauses_cons_blank {c : Char} (hc : Text.isBlank c = true) (cs : List Char) :
    clauses (c :: cs) = clauses cs := by
  by_cases hend : endsClause c = true
  · exact clauses_append_end hend [] cs
  rw [Bool.not_eq_true] at hend
  -- the blank stands in the first clause, but in none of its words
  induction cs using Text.cutInduction endsClause with
  | free cs h =>
    rw [clauses_of_free h, clauses_of_free (List.forall_mem_cons.mpr ⟨hend, h⟩), Text.words,
      Text.runs_cons_break hc]
    rfl
  | cut xs b ys hb ihx _ =>
    rw [← List.cons_append, clauses_append_end hb, clauses_append_end hb, ihx]

lemma clauses_concat_blank {c : Char} (hc : Text.isBlank c = true) (cs : List Char) :
    clauses (cs ++ [c]) = clauses cs := by
  by_cases hend : endsClause c = true
  · exact (clauses_append_end hend cs []).trans (List.append_nil _)
  rw [Bool.not_eq_true] at hend
  -- the blank stands in the last clause, but in none of its words
  induction cs using Text.cutInduction endsClause with
  | free cs h =>
    have hfree : ∀ b ∈ cs ++ [c], endsClause b = false := by
      simpa [or_imp, forall_and] using ⟨h, hend⟩
    rw [clauses_of_free h, clauses_of_free hfree, Text.words, Text.runs_append_break hc,
      Text.runs_nil, List.append_nil]
    rfl
  | cut xs b ys hb _ ihy =>
    rw [List.append_assoc, List.cons_append, clauses_append_end hb, clauses_append_end hb, ihy]

/-- The blanks at both ends of a text are in none of its clauses. -/
lemma clauses_trim (cs : List Char) : clauses (Text.trim cs) = clauses cs :=
  Text.trim_invariant (fun _ cs hc => clauses_cons_blank hc cs)
    (fun cs _ hc => clauses_concat_blank hc cs) cs

/-- Nothing of a text is lost by cutting it into clauses first. -/
theorem flatten_clauses (cs : List Char) : (clauses cs).flatten = tokens cs := by
  rw [clauses, List.flatten_filter_not_isEmpty, tokens, Text.runs_or, List.flatMap_def]
  rfl

/-- Without a semicolon, every end of a clause is a blank. -/
lemma tokens_of_no_semicolon {cs : List Char} (h : ';' ∉ cs) : tokens cs = Text.words cs := by
  refine Text.runs_congr fun c hc => ?_
  have hblank : endsClause c = true → Text.isBlank c = true := by
    simp only [endsClause, Bool.or_eq_true, beq_iff_eq]
    rintro ((rfl | rfl) | rfl)
    · exact absurd hc h
    · rfl
    · rfl
  cases hend : endsClause c
  · rfl
  · rw [hblank hend, Bool.true_or]

/-- Without a semicolon, the words of a text are those of its clauses. -/
lemma words_eq_flatten_clauses {cs : List Char} (h : ';' ∉ cs) :
    Text.words cs = (clauses cs).flatten := by
  rw [flatten_clauses, tokens_of_no_semicolon h]

end Instruction

end Remittance
