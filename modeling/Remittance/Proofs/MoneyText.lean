import Remittance.AccountRecord
import Remittance.Decimal.Encoding
import Remittance.Proofs.Decimal.Accuracy
import Remittance.Proofs.Instruction.Reading
import Remittance.Proofs.Json.Reading
/-!
# Money as it is written

Money is read from three kinds of texts: the amounts of instructions, the balances of records, and
the balances of requests, which are numbers or strings (`ReadAsMoney`). All of them go through
`Decimal.read`, so digits in front of the point are never lost, and digits behind it are rounded
where there are too many of them.

* `moneyText_reading` says how much of a text that can alter, and what follows for the legs of an
  instruction and for the balances that must not be negative.
* `moneyText_altered` has texts where it shows.
-/

namespace Remittance

open Decimal Instruction

/-- The text of the number or the string at the front of a JSON text. -/
def Json.scalarText? (cs : List Char) : Option (List Char) :=
  match skipBlanks cs with
  | [] => none
  | c :: rest =>
    match readScalar? c rest with
    | some (.ok ⟨.number text, _, _⟩) => some text
    | some (.ok ⟨.string text, _, _⟩) => some text.toList
    | _ => none

/-- The text is read as this amount or as this balance. -/
inductive ReadAsMoney : List Char → Decimal → Prop where
  /-- The amount of an instruction. -/
  | amount {w : Word} {a : Decimal} (h : readAmount w = .ok a) : ReadAsMoney w a
  /-- The balance of a record that is read as an account. -/
  | record (record : AccountRecord) (account : Account) (h : record.account = .ok account) :
    ReadAsMoney record.balance.toList account.balance
  /-- The balance of a request, as a number or as a string. -/
  | json {cs text rest : List Char} {a : Decimal} (htext : Json.scalarText? cs = some text)
    (h : Json.Gives (Decimal.reader cs) a rest) : ReadAsMoney text a

variable {cs : List Char} {a : Decimal}

/-! ## One reader for all money -/

lemma read?_eq_some_iff : read? cs = some a ↔ Decimal.read cs = .ok a := by
  unfold read?
  cases Decimal.read cs <;> simp [Except.toOption]

lemma readAmount_eq_ok_iff {w : Word} :
    readAmount w = .ok a ↔ w.isAmount = true ∧ Decimal.read w = .ok a := by
  rw [readAmount, ← read?_eq_some_iff]
  cases w.isAmount
  · simp
  · cases read? w <;> simp

/-- The balance of a record that is an account is read from its text, and it is not negative. -/
lemma AccountRecord.read_balance {record : AccountRecord} {account : Account}
    (h : record.account = .ok account) :
    Decimal.read record.balance.toList = .ok account.balance ∧ account.balance.NonNegative := by
  obtain ⟨id, -, h⟩ := bind_eq_ok_iff.mp h
  obtain ⟨balance, hbalance, h⟩ := bind_eq_ok_iff.mp h
  obtain ⟨currency, -, h⟩ := bind_eq_ok_iff.mp h
  cases h
  unfold AccountRecord.readBalance at hbalance
  split at hbalance
  · cases hbalance
  · next read hread =>
    split_ifs at hbalance with hsign
    cases hbalance
    exact ⟨read?_eq_some_iff.mp hread, hsign⟩

/-- A scalar does not begin with a bracket. -/
lemma Json.ne_bracket_of_readScalar? {c : Char} {step : Except Failure (Parsed Scalar (c :: cs))}
    (h : readScalar? c cs = some step) : c ≠ '[' ∧ c ≠ '{' := by
  constructor <;> rintro rfl <;> simp [readScalar?, startsNumber, readWord?] at h

lemma read_of_ofText {text rest : List Char} {p : Json.Parsed Unit cs}
    (h : Json.Gives (ofText text p) a rest) : Decimal.read text = .ok a := by
  obtain ⟨_, h⟩ := h
  unfold ofText at h
  split at h <;> cases h
  assumption

/-- A number or a string in front of a JSON text is read by its text. -/
lemma read_scalarText {text rest : List Char} (htext : Json.scalarText? cs = some text)
    (h : Json.Gives (Decimal.reader cs) a rest) : Decimal.read text = .ok a := by
  rw [Decimal.reader, Json.gives_afterBlanks] at h
  unfold Json.scalarText? at htext
  split at htext
  · cases htext
  · next c behind hblanks =>
    rw [hblanks] at h
    split at htext
    · next number left hleft hscalar =>
      obtain ⟨harray, hobject⟩ := Json.ne_bracket_of_readScalar? hscalar
      cases htext
      simp only [if_neg harray, if_neg hobject, hscalar, ofScalar] at h
      exact read_of_ofText h
    · next string left hleft hscalar =>
      obtain ⟨harray, hobject⟩ := Json.ne_bracket_of_readScalar? hscalar
      cases htext
      simp only [if_neg harray, if_neg hobject, hscalar, ofScalar] at h
      obtain ⟨_, h⟩ := h
      split at h <;> cases h
      exact read?_eq_some_iff.mp ‹_›
    · cases htext

lemma ReadAsMoney.read (h : ReadAsMoney cs a) : Decimal.read cs = .ok a := by
  cases h with
  | amount h => exact (readAmount_eq_ok_iff.mp h).2
  | record _ _ h => exact (AccountRecord.read_balance h).1
  | json htext h => exact read_scalarText htext h

/-! ## What is altered -/

/-- An amount is rounded to its last place. -/
lemma rounds_of_readAmount {w : Word} (h : readAmount w = .ok a) : a.Rounds (spelledNumber w) := by
  obtain ⟨hform, hread⟩ := readAmount_eq_ok_iff.mp h
  apply (approximates_of_read hread).rounds
  intro c hc
  have hchar := isDigit_or_point_of_isAmount hform c hc
  refine ⟨?_, not_isExponentMark (hchar.imp_right .inl)⟩
  rintro rfl
  rcases hchar with hchar | hchar <;> cases hchar

/-- A negative number that is read as zero or more lies within the last place of zero. -/
lemma Decimal.Near.of_neg {q : ℚ} (hnear : a.Near q) (ha : a.NonNegative) (hq : q < 0) :
    a.toRat = 0 ∧ -1 < q * 10 ^ a.scale := by
  have hpos : (0 : ℚ) < 10 ^ a.scale := by positivity
  have hsmall : (a.coeff : ℚ) - q * 10 ^ a.scale < 1 := by
    rw [coeff_eq, ← sub_mul]
    exact lt_of_le_of_lt (mul_le_mul_of_nonneg_right (le_abs_self _) hpos.le) hnear
  have hshift : q * 10 ^ a.scale < 0 := mul_neg_of_neg_of_pos hq hpos
  have hcoeff : (a.coeff : ℚ) < 1 := by linarith
  have hzero : a.coeff = 0 := by
    have hlt : a.coeff < 1 := by exact_mod_cast hcoeff
    unfold NonNegative at ha
    omega
  refine ⟨coeff_eq_zero_iff.mp hzero, ?_⟩
  rw [hzero, Int.cast_zero] at hsmall
  linarith

/-- Two amounts of the same value are spelled alike up to the rounding of both. -/
lemma abs_sub_le_of_rounds {b : Decimal} {q r : ℚ} (ha : a.Rounds q) (hb : b.Rounds r)
    (hsame : a.toRat = b.toRat) : |q - r| ≤ (1 / 10 ^ a.scale + 1 / 10 ^ b.scale) / 2 := by
  have hq : |a.toRat - q| ≤ 1 / 10 ^ a.scale / 2 := by
    rw [div_div, mul_comm, ← div_div, le_div_iff₀ (by positivity)]
    exact ha
  have hr : |b.toRat - r| ≤ 1 / 10 ^ b.scale / 2 := by
    rw [div_div, mul_comm, ← div_div, le_div_iff₀ (by positivity)]
    exact hb
  rw [hsame] at hq
  calc |q - r| ≤ |q - b.toRat| + |b.toRat - r| := abs_sub_le ..
    _ ≤ 1 / 10 ^ a.scale / 2 + 1 / 10 ^ b.scale / 2 := by
        rw [abs_sub_comm]
        exact add_le_add hq hr
    _ = (1 / 10 ^ a.scale + 1 / 10 ^ b.scale) / 2 := by ring

/-! ## The amounts of two legs -/

namespace Instruction

/-- The words are a clause of this side that states the amount with the word `w`. -/
def StatesAmount (side : Side) (w : Word) (words : List Word) : Prop :=
  words.head?.bind Word.side? = some side ∧ words[2]? = some w

instance (side : Side) (w : Word) (words : List Word) : Decidable (StatesAmount side w words) :=
  inferInstanceAs (Decidable (_ ∧ _))

variable {debit credit leg : Leg} {day : Option Date} {clauses : List (List Word)}
  {words : List Word} {side : Side} {w : Word}

lemma readAmount_of_fills (hfills : Fills (leg.slots side) words) (hw : words[2]? = some w) :
    readAmount w = .ok leg.amount := by
  rcases words with _ | ⟨head, _ | ⟨account, _ | ⟨amount, rest⟩⟩⟩
  · cases hw
  · cases hw
  · cases hw
  · cases hw
    simp only [Leg.slots, fills_cons, Slot.Accepts] at hfills
    exact hfills.2.2.1

/-- The clause of a side states the amount of the leg of that side. -/
lemma LegForm.readAmount_eq (hform : LegForm debit credit day clauses) (hmem : words ∈ clauses)
    (hw : StatesAmount side w words) :
    readAmount w = .ok (match side with | .debit => debit.amount | .credit => credit.amount) := by
  obtain ⟨hside, hword⟩ := hw
  obtain ⟨form, hforms, hfills⟩ :=
    Multiset.exists_mem_of_rel_of_mem (Multiset.rel_flip.mpr hform) hmem
  rcases List.mem_cons.mp hforms with rfl | hforms
  · obtain rfl := Option.some.inj (hside.symm.trans (Leg.side?_of_fills hfills))
    exact readAmount_of_fills hfills hword
  rcases List.mem_cons.mp hforms with rfl | hforms
  · obtain rfl := Option.some.inj (hside.symm.trans (Leg.side?_of_fills hfills))
    exact readAmount_of_fills hfills hword
  · obtain ⟨date, -, rfl⟩ := List.mem_map.mp hforms
    cases hside.symm.trans (side?_of_fills_day hfills)

/-- Two legs are accepted only if their amounts are read as the same number. -/
lemma exists_amount_of_readClauses {order : TransferOrder} {debitWords creditWords : List Word}
    {w w' : Word} (hne : ∀ words ∈ clauses, words ≠ []) (h : readClauses clauses = .ok order)
    (hdebit : debitWords ∈ clauses) (hw : StatesAmount .debit w debitWords)
    (hcredit : creditWords ∈ clauses) (hw' : StatesAmount .credit w' creditWords) :
    ∃ a b, readAmount w = .ok a ∧ readAmount w' = .ok b ∧ a.toRat = b.toRat := by
  obtain ⟨debit, credit, hform, hjoined, -⟩ := (readClauses_eq_ok_iff hne).mp h
  exact ⟨debit.amount, credit.amount, hform.readAmount_eq hdebit hw,
    hform.readAmount_eq hcredit hw', hjoined.sameAmount⟩

end Instruction

/-! ## All money -/

/-- What becomes of a text, as money or as an instruction. Reading money refuses a text or stays
within the last place of its number. Where decimals stand for the number in front of the exponent,
the text is read exactly if and only if they stand for the number itself. So two legs that are
accepted spell numbers that are at most half a unit of the last place of each apart, and where a
negative number passes for zero or more, it is read as zero and lies within the last place of it. -/
theorem moneyText_reading (cs : List Char) :
    (∀ a, ReadAsMoney cs a → a.Approximates cs ∧ (Representable (plainNumber (mantissa cs)) →
      (a.toRat = spelledNumber cs ↔ Representable (spelledNumber cs)))) ∧
    (∀ order debitWords creditWords w w',
      readClauses (clauses cs) = .ok order →
      debitWords ∈ clauses cs → StatesAmount .debit w debitWords →
      creditWords ∈ clauses cs → StatesAmount .credit w' creditWords →
      ∃ a b, readAmount w = .ok a ∧ readAmount w' = .ok b ∧ a.toRat = b.toRat ∧
        |spelledNumber w - spelledNumber w'| ≤ (1 / 10 ^ a.scale + 1 / 10 ^ b.scale) / 2) ∧
    (∀ a, ReadAsMoney cs a → a.NonNegative → spelledNumber cs < 0 →
      a.toRat = 0 ∧ -1 < spelledNumber cs * 10 ^ a.scale) := by
  refine ⟨fun a h => ?_, ?_, fun a h hsign hneg => ?_⟩
  · have happrox := approximates_of_read h.read
    exact ⟨happrox, fun hmantissa => ⟨fun heq => ⟨a, heq⟩, happrox.exact hmantissa⟩⟩
  · intro order debitWords creditWords w w' horder hdebit hw hcredit hw'
    have hne : ∀ words ∈ clauses cs, words ≠ [] := fun words hmem => ne_nil_of_mem_clauses hmem
    obtain ⟨a, b, ha, hb, hsame⟩ :=
      exists_amount_of_readClauses hne horder hdebit hw hcredit hw'
    exact ⟨a, b, ha, hb, hsame,
      abs_sub_le_of_rounds (rounds_of_readAmount ha) (rounds_of_readAmount hb) hsame⟩
  · exact (approximates_of_read h.read).near.of_neg hsign hneg

/-- The three parts at texts that need rounding or only look different. -/
theorem moneyText_reading_at_last_place :
    Approximates ⟨true, 0, 28, by decide, by decide⟩ "-0.4e-28".toList ∧
    (∃ a b, readAmount "1.50".toList = .ok a ∧ readAmount "1.5".toList = .ok b ∧
      a.toRat = b.toRat ∧ |spelledNumber "1.50".toList - spelledNumber "1.5".toList| ≤
        (1 / 10 ^ a.scale + 1 / 10 ^ b.scale) / 2) ∧
    Decimal.toRat ⟨true, 0, 28, by decide, by decide⟩ = 0 ∧
      -1 < spelledNumber "-0.4e-28".toList * 10 ^ 28 := by
  have hbalance : ReadAsMoney "-0.4e-28".toList ⟨true, 0, 28, by decide, by decide⟩ :=
    .record ⟨"A", "-0.4e-28", "NGN"⟩
      ⟨⟨"A", by decide, by decide⟩, ⟨true, 0, 28, by decide, by decide⟩, .ngn⟩ (by decide +kernel)
  refine ⟨((moneyText_reading _).1 _ hbalance).1, ?_, ?_⟩
  · exact (moneyText_reading "DEBIT A 1.50; CREDIT B 1.5".toList).2.1
      ⟨.debit, ⟨"A", by decide, by decide⟩, ⟨"B", by decide, by decide⟩,
        ⟨false, 150, 2, by decide, by decide⟩, none, none⟩
      ["DEBIT".toList, "A".toList, "1.50".toList] ["CREDIT".toList, "B".toList, "1.5".toList] _ _
      (by decide +kernel) (by decide +kernel) (by decide) (by decide +kernel) (by decide)
  · exact (moneyText_reading _).2.2 _ hbalance (by decide) (by decide +kernel)

/-- Digits that are too far behind the point are lost without a word: an amount changes, two legs
with different amounts are accepted, and a negative balance passes for zero. -/
theorem moneyText_altered :
    (∃ a, ReadAsMoney "1.00000000000000000000000000001".toList a ∧
      a.toRat ≠ spelledNumber "1.00000000000000000000000000001".toList) ∧
    (∃ order, readClauses (clauses
        ("DEBIT A 1.00000000000000000000000000001; " ++
          "CREDIT B 1.00000000000000000000000000002").toList) = .ok order ∧
      spelledNumber "1.00000000000000000000000000001".toList ≠
        spelledNumber "1.00000000000000000000000000002".toList) ∧
    (∃ a, ReadAsMoney "-0.4e-28".toList a ∧ a.NonNegative ∧
      spelledNumber "-0.4e-28".toList < 0) := by
  refine ⟨⟨⟨false, 10 ^ 28, 28, by decide, by decide⟩, .amount (by decide +kernel), ?_⟩,
    ⟨⟨.debit, ⟨"A", by decide, by decide⟩, ⟨"B", by decide, by decide⟩,
      ⟨false, 10 ^ 28, 28, by decide, by decide⟩, none, none⟩, by decide +kernel, ?_⟩,
    ⟨⟨true, 0, 28, by decide, by decide⟩,
      .record ⟨"A", "-0.4e-28", "NGN"⟩
        ⟨⟨"A", by decide, by decide⟩, ⟨true, 0, 28, by decide, by decide⟩, .ngn⟩
        (by decide +kernel), by decide, by decide +kernel⟩⟩
  · decide +kernel
  · decide +kernel

end Remittance
