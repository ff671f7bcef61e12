import Mathlib.Data.List.Forall2
import Remittance.Instruction.Legs
import Remittance.Instruction.Sentence
import Remittance.Proofs.Instruction.Words
/-!
# The grammar of instructions

A form is a list of slots, each for one word, and words fill it one by one (`Fills`). The readers of
a leg, of the day and of a sentence accept exactly the words that fill the form of what they read
(`Leg.read_eq_ok_iff`, `readDayClause_eq_ok_iff`, `readSentence_eq_ok_iff`), so each of them passes
over no word, and two readings of the same words are one.
-/

namespace Remittance

/-- The account on a side of an order. -/
def TransferOrder.account (order : TransferOrder) : Side → AccountId
  | .debit => order.debitAccount
  | .credit => order.creditAccount

namespace Instruction

/-! ## Forms -/

/-- What stands in one place of an instruction. -/
inductive Slot where
  /-- A fixed word. -/
  | keyword (text : String)
  | amount (value : Decimal)
  | currency (value : Currency)
  | account (id : AccountId)
  | day (date : Date)

/-- The word may stand in this place. Keywords and currencies are written in whatever case, and an
account id is written as it is, even if it looks like a keyword. -/
def Slot.Accepts : Slot → Word → Prop
  | .keyword text, w => w.isKeyword text = true
  | .amount value, w => readAmount w = .ok value
  | .currency value, w => w.map Char.toUpper = value.code.toList
  | .account id, w => w = id.text.toList
  | .day date, w => readDate w = .ok date

instance : (slot : Slot) → (w : Word) → Decidable (slot.Accepts w)
  | .keyword text, w => inferInstanceAs (Decidable (w.isKeyword text = true))
  | .amount value, w => inferInstanceAs (Decidable (readAmount w = .ok value))
  | .currency value, w => inferInstanceAs (Decidable (w.map Char.toUpper = value.code.toList))
  | .account id, w => inferInstanceAs (Decidable (w = id.text.toList))
  | .day date, w => inferInstanceAs (Decidable (readDate w = .ok date))

/-- The words fill the slots, each word its own. -/
def Fills (slots : List Slot) (words : List Word) : Prop := List.Forall₂ Slot.Accepts slots words

instance (slots : List Slot) (words : List Word) : Decidable (Fills slots words) :=
  inferInstanceAs (Decidable (List.Forall₂ Slot.Accepts slots words))

/-- The form of a leg. -/
def Leg.slots (side : Side) (leg : Leg) : List Slot :=
  .keyword side.keyword :: .account leg.account :: .amount leg.amount ::
    leg.currency.toList.map .currency

/-- The form of the day of settlement. -/
def daySlots (date : Date) : List Slot := [.keyword "ON", .day date]

/-- The form of a sentence that asks for this order in this currency. It starts with the side of the
order, and ends with the day exactly if the order has one. -/
def sentenceSlots (order : TransferOrder) (currency : Currency) : List Slot :=
  [.keyword order.side.keyword, .amount order.amount, .currency currency,
    .keyword (preposition order.side), .keyword "ACCOUNT", .account (order.account order.side),
    .keyword "FOR", .keyword order.side.opposite.keyword,
    .keyword (preposition order.side.opposite), .keyword "ACCOUNT",
    .account (order.account order.side.opposite)] ++ order.executeBy.elim [] daySlots

section

variable {slot : Slot} {slots : List Slot} {w head : Word} {words rest : List Word}

@[simp] lemma fills_nil_left : Fills [] words ↔ words = [] := List.forall₂_nil_left_iff

@[simp] lemma fills_nil_right : Fills slots [] ↔ slots = [] := List.forall₂_nil_right_iff

@[simp] lemma fills_cons :
    Fills (slot :: slots) (w :: words) ↔ slot.Accepts w ∧ Fills slots words :=
  List.forall₂_cons

/-- The amount of a form that is filled is read from a word, so it is not negative. -/
lemma nonNegative_of_fills {amount : Decimal} (hmem : .amount amount ∈ slots)
    (h : Fills slots words) : amount.NonNegative := by
  induction h with
  | nil => simp at hmem
  | cons haccepts _ ih =>
    rcases List.mem_cons.mp hmem with rfl | hmem
    · exact nonNegative_of_readAmount haccepts
    · exact ih hmem

/-! ## Legs and days -/

/-- A leg is read from the words of its form. -/
lemma Leg.read_eq_ok_iff {side : Side} {leg : Leg} (hhead : head.isKeyword side.keyword = true) :
    Leg.read side (head :: rest) = .ok leg ↔ Fills (leg.slots side) (head :: rest) := by
  obtain ⟨account, amount, currency⟩ := leg
  rcases rest with _ | ⟨w₁, _ | ⟨w₂, _ | ⟨w₃, _ | ⟨w₄, rest⟩⟩⟩⟩
  all_goals
    cases currency <;>
      simp [Leg.read, Leg.slots, Slot.Accepts, bind_eq_ok_iff, map_eq_ok_iff,
        readAccountId_eq_ok_iff, readCurrency_eq_ok_iff, hhead, and_comm, and_assoc]

/-- The day is read from the words of its form. -/
lemma readDayClause_eq_ok_iff {date : Date} (hhead : head.isKeyword "ON" = true) :
    readDayClause (head :: rest) = .ok date ↔ Fills (daySlots date) (head :: rest) := by
  rcases rest with _ | ⟨w₁, _ | ⟨w₂, rest⟩⟩ <;>
    simp [readDayClause, daySlots, Slot.Accepts, hhead]

/-! ## Sentences -/

namespace Sentence

/-- What follows the second account is nothing, or the form of the day. -/
lemma readDay_eq_ok_iff {day : Option Date} :
    readDay words = .ok day ↔ Fills (day.elim [] daySlots) words := by
  rcases words with _ | ⟨on, _ | ⟨date, _ | ⟨w, rest⟩⟩⟩
  · cases day <;> simp [readDay, daySlots]
  · cases day <;> simp [readDay, daySlots]
  · cases hon : on.isKeyword "ON" <;> cases day <;>
      simp [readDay, daySlots, Slot.Accepts, hon, map_eq_ok_iff]
  · cases day <;> simp [readDay, daySlots]

/-- The account of the side that a sentence starts with stands in front of the other one. -/
lemma accepts_accounts_iff {s : Sentence} {order : TransferOrder} (hside : s.side = order.side) :
    (Slot.account (order.account order.side)).Accepts s.ownAccount ∧
      (Slot.account (order.account order.side.opposite)).Accepts s.otherAccount ↔
    readAccountId s.debitAccount = .ok order.debitAccount ∧
      readAccountId s.creditAccount = .ok order.creditAccount := by
  rw [readAccountId_eq_ok_iff, readAccountId_eq_ok_iff, debitAccount, creditAccount, hside]
  cases order.side with
  | debit => exact Iff.rfl
  | credit => exact and_comm

/-- A sentence is read from the words that it leaves open. -/
lemma read_eq_ok_iff {s : Sentence} {order : TransferOrder} :
    s.read = .ok order ↔ s.side = order.side ∧ ∃ currency, order.currency = some currency ∧
      (Slot.amount order.amount).Accepts s.amount ∧ (Slot.currency currency).Accepts s.currency ∧
      ((Slot.account (order.account order.side)).Accepts s.ownAccount ∧
        (Slot.account (order.account order.side.opposite)).Accepts s.otherAccount) ∧
      Fills (order.executeBy.elim [] daySlots) s.rest := by
  constructor
  · intro h
    obtain ⟨amount, hamount, h⟩ := bind_eq_ok_iff.mp h
    obtain ⟨currency, hcurrency, h⟩ := bind_eq_ok_iff.mp h
    obtain ⟨debit, hdebit, h⟩ := bind_eq_ok_iff.mp h
    obtain ⟨credit, hcredit, h⟩ := bind_eq_ok_iff.mp h
    obtain ⟨day, hday, h⟩ := bind_eq_ok_iff.mp h
    cases h
    exact ⟨rfl, currency, rfl, hamount, readCurrency_eq_ok_iff.mp hcurrency,
      (accepts_accounts_iff rfl).mpr ⟨hdebit, hcredit⟩, readDay_eq_ok_iff.mp hday⟩
  · rintro ⟨hside, currency, hcurrency, hamount, hcode, haccounts, hday⟩
    obtain ⟨hdebit, hcredit⟩ := (accepts_accounts_iff hside).mp haccounts
    simp only [Slot.Accepts] at hamount hcode
    rw [Sentence.read, hamount, readCurrency_eq_ok_iff.mpr hcode, hdebit, hcredit,
      readDay_eq_ok_iff.mpr hday, hside]
    cases order
    cases hcurrency
    rfl

lemma hasFrame_iff {side : Side} {prep account join other prep' account' : Word} :
    hasFrame side prep account join other prep' account' = true ↔
      prep.isKeyword (preposition side) = true ∧ account.isKeyword "ACCOUNT" = true ∧
      join.isKeyword "FOR" = true ∧ other.isKeyword side.opposite.keyword = true ∧
      prep'.isKeyword (preposition side.opposite) = true ∧ account'.isKeyword "ACCOUNT" = true := by
  simp only [hasFrame, Bool.and_eq_true, and_assoc]

end Sentence

/-- Words that form a sentence are recognised as one, and what follows it is among them. -/
lemma isSentence_of_ofWords? {s : Sentence} (h : Sentence.ofWords? words = some s) :
    isSentence words = true ∧ ∀ w ∈ s.rest, w ∈ words := by
  unfold Sentence.ofWords? at h
  split at h
  · split at h
    · split at h
      · next hframe =>
        obtain ⟨-, -, hfor, hother, -⟩ := Sentence.hasFrame_iff.mp hframe
        cases h
        refine ⟨?_, fun w hw => ?_⟩
        · simp [isSentence, hfor, side?_eq_some_iff.mpr hother]
        · exact List.mem_append_right [_, _, _, _, _, _, _, _, _, _, _] hw
      · cases h
    · cases h
  · cases h

/-- Eleven words and more are read as a sentence from the side of its first word, if its fixed words
are those of that side. -/
lemma readSentence_cons_eq_ok_iff {order : TransferOrder}
    {amount code prep account own join other prep' account' counter : Word} :
    readSentence (head :: amount :: code :: prep :: account :: own :: join :: other :: prep' ::
        account' :: counter :: rest) = .ok order ↔
      head.isKeyword order.side.keyword = true ∧
        Sentence.hasFrame order.side prep account join other prep' account' = true ∧
        (⟨order.side, amount, code, own, counter, rest⟩ : Sentence).read = .ok order := by
  rw [← side?_eq_some_iff]
  simp only [readSentence, Sentence.ofWords?]
  cases hhead : head.side? with
  | none => simp
  | some side =>
    by_cases hframe : Sentence.hasFrame side prep account join other prep' account' = true
    · simp only [hframe, if_true, Option.some.injEq]
      constructor
      · intro h
        obtain rfl : side = order.side := (Sentence.read_eq_ok_iff.mp h).1
        exact ⟨rfl, hframe, h⟩
      · rintro ⟨rfl, -, h⟩
        exact h
    · simp only [hframe, Bool.false_eq_true, if_false, Option.some.injEq, reduceCtorEq, false_iff]
      rintro ⟨rfl, h, -⟩
      exact hframe h

/-- A sentence is read from the words of its form. -/
theorem readSentence_eq_ok_iff {order : TransferOrder} :
    readSentence words = .ok order ↔
      ∃ currency, order.currency = some currency ∧ Fills (sentenceSlots order currency) words := by
  -- fewer than eleven words are no sentence, nor do they fill its form
  rcases words with _ | ⟨head, _ | ⟨amount, _ | ⟨code, _ | ⟨prep, _ | ⟨account, _ | ⟨own, _ | ⟨join,
    _ | ⟨other, _ | ⟨prep', _ | ⟨account', _ | ⟨counter, rest⟩⟩⟩⟩⟩⟩⟩⟩⟩⟩⟩
  iterate 11 simp [readSentence, Sentence.ofWords?, sentenceSlots]
  rw [readSentence_cons_eq_ok_iff, Sentence.hasFrame_iff, Sentence.read_eq_ok_iff]
  simp only [sentenceSlots, List.cons_append, List.nil_append, fills_cons, Slot.Accepts]
  tauto

end

end Instruction

end Remittance
