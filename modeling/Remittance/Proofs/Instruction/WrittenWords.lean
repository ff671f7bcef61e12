import Remittance.Proofs.Date
import Remittance.Proofs.Instruction.Grammar
import Remittance.Proofs.Text.Spacing
/-!
# Writing the words of an instruction

Every slot of a form can be written as a word: an amount and a day with their own text, an account
by its id, and keywords and currencies in whatever case (`Slot.WrittenAs`). Such words are neither
empty nor cut anywhere (`isWordChar_of_writtenAs`), and they fill the slots they are written for
(`fills_of_writtenAs`), save for an amount with a minus sign, which no word stands for
(`readAmount_toChars`).
-/

namespace Remittance.Instruction

variable {slot : Slot} {slots : List Slot} {w : Word} {words : List Word} {c : Char}

/-! ## Words -/

/-- The word is a way to write what stands in this place. -/
def Slot.WrittenAs : Slot → Word → Prop
  | .keyword text, w => w.map Char.toUpper = text.toList
  | .amount value, w => w = value.toChars
  | .currency value, w => w.map Char.toUpper = value.code.toList
  | .account id, w => w = id.text.toList
  | .day date, w => w = date.toChars

instance : (slot : Slot) → (w : Word) → Decidable (slot.WrittenAs w)
  | .keyword text, w => inferInstanceAs (Decidable (w.map Char.toUpper = text.toList))
  | .amount value, w => inferInstanceAs (Decidable (w = value.toChars))
  | .currency value, w => inferInstanceAs (Decidable (w.map Char.toUpper = value.code.toList))
  | .account id, w => inferInstanceAs (Decidable (w = id.text.toList))
  | .day date, w => inferInstanceAs (Decidable (w = date.toChars))

/-- The words are a way to write the slots, each word its own. -/
def WrittenAs (slots : List Slot) (words : List Word) : Prop :=
  List.Forall₂ Slot.WrittenAs slots words

instance (slots : List Slot) (words : List Word) : Decidable (WrittenAs slots words) :=
  inferInstanceAs (Decidable (List.Forall₂ Slot.WrittenAs slots words))

/-- What the words of instructions are made of. -/
def IsWordChar (c : Char) : Prop := (0x21 ≤ c.toNat ∧ c.toNat ≤ 0x7E) ∧ c ≠ ';'

instance : Decidable (IsWordChar c) := inferInstanceAs (Decidable (_ ∧ _))

/-- A keyword has only capitals, and the year of a day has no sign. -/
def Slot.Regular : Slot → Prop
  | .keyword text => text.toList ≠ [] ∧ text.toList.all Char.isUpper = true
  | .day date => 0 ≤ date.year ∧ date.year ≤ 9999
  | _ => True

lemma regular_keyword (side : Side) :
    (Slot.keyword side.keyword).Regular ∧ (Slot.keyword (preposition side)).Regular := by
  cases side <;> exact ⟨⟨by decide, by decide⟩, ⟨by decide, by decide⟩⟩

lemma regular_for : (Slot.keyword "FOR").Regular := ⟨by decide, by decide⟩

/-! ## Characters -/

lemma isUpper_iff : c.isUpper = true ↔ 65 ≤ c.toNat ∧ c.toNat ≤ 90 := decide_eq_true_iff

lemma isLower_iff : c.isLower = true ↔ 97 ≤ c.toNat ∧ c.toNat ≤ 122 := by
  have h : c.isLower = (decide (97 ≤ c.toNat) && decide (c.toNat ≤ 122)) := rfl
  rw [h, Bool.and_eq_true, decide_eq_true_eq, decide_eq_true_eq]

lemma isAllowed_of_isAlpha (h : c.isAlpha = true) : AccountId.isAllowed c = true := by
  simp [AccountId.isAllowed, Char.isAlphanum, h]

lemma isAllowed_of_isUpper (h : c.isUpper = true) : AccountId.isAllowed c = true :=
  isAllowed_of_isAlpha (Bool.or_eq_true_iff.mpr (.inl h))

lemma isAllowed_of_isDigit (h : c.isDigit = true) : AccountId.isAllowed c = true := by
  simp [AccountId.isAllowed, Char.isAlphanum, h]

lemma isWordChar_of_isAllowed (h : AccountId.isAllowed c = true) : IsWordChar c := by
  have halpha : c.isAlpha = (c.isUpper || c.isLower) := rfl
  simp only [AccountId.isAllowed, Char.isAlphanum, halpha, Bool.or_eq_true, beq_iff_eq,
    isUpper_iff, isLower_iff, Char.isDigit_iff_toNat] at h
  have hsemicolon : c = ';' → c.toNat = 59 := fun hc => hc ▸ rfl
  have hsmall : (0x21 ≤ c.toNat ∧ c.toNat ≤ 0x7E) ∧ c.toNat ≠ 59 := by
    rcases h with ((((h | h) | h) | rfl) | rfl) | rfl
    · omega
    · omega
    · change 48 ≤ c.toNat ∧ c.toNat ≤ 57 at h
      omega
    · decide
    · decide
    · decide
  exact ⟨hsmall.1, fun hc => hsmall.2 (hsemicolon hc)⟩

/-- Letters whose capitals are given are letters. -/
lemma isAlpha_of_isUpper_toUpper (h : c.toUpper.isUpper = true) : c.isAlpha = true := by
  refine Bool.or_eq_true_iff.mpr ?_
  unfold Char.toUpper at h
  split at h
  · next hsmall => exact .inr (isLower_iff.mpr hsmall)
  · exact .inl h

lemma isWordChar_of_isAlpha (h : c.isAlpha = true) : IsWordChar c :=
  isWordChar_of_isAllowed (isAllowed_of_isAlpha h)

/-! ## Characters of words -/

lemma isAlpha_of_map_toUpper {cs : List Char} (hcapitals : cs.all Char.isUpper = true)
    (h : w.map Char.toUpper = cs) : ∀ c ∈ w, c.isAlpha = true := by
  intro c hc
  have hmem : c.toUpper ∈ cs := h ▸ List.mem_map_of_mem hc
  exact isAlpha_of_isUpper_toUpper (List.all_eq_true.mp hcapitals _ hmem)

lemma isWordChar_of_map_toUpper {cs : List Char} (hcapitals : cs.all Char.isUpper = true)
    (h : w.map Char.toUpper = cs) : ∀ c ∈ w, IsWordChar c :=
  fun c hc => isWordChar_of_isAlpha (isAlpha_of_map_toUpper hcapitals h c hc)

lemma isWordChar_of_mem_toChars {a : Decimal} : ∀ c ∈ a.toChars, IsWordChar c := by
  intro c hc
  rcases Decimal.mem_toChars c hc with hdigit | rfl | rfl
  · exact isWordChar_of_isAllowed (isAllowed_of_isDigit hdigit)
  · decide
  · decide

lemma isWordChar_of_dateChar (h : c.isDigit = true ∨ c = '-' ∨ c = '+') : IsWordChar c := by
  rcases h with hdigit | rfl | rfl
  · exact isWordChar_of_isAllowed (isAllowed_of_isDigit hdigit)
  · decide
  · decide

lemma isWordChar_of_mem_dateChars {date : Date} : ∀ c ∈ date.toChars, IsWordChar c :=
  fun c hc => isWordChar_of_dateChar (Date.mem_toChars c hc)

/-- The words of instructions are not empty, and no character of theirs stands between words. -/
lemma Slot.isWordChar_of_writtenAs (hslot : slot.Regular) (h : slot.WrittenAs w) :
    w ≠ [] ∧ ∀ c ∈ w, IsWordChar c := by
  cases slot with
  | keyword text =>
    refine ⟨?_, isWordChar_of_map_toUpper hslot.2 h⟩
    rintro rfl
    exact hslot.1 h.symm
  | amount value =>
    cases h
    exact ⟨Decimal.toChars_ne_nil value, isWordChar_of_mem_toChars⟩
  | currency value =>
    refine ⟨?_, isWordChar_of_map_toUpper value.capitals h⟩
    rintro rfl
    have hlength := value.length_eq
    rw [← h] at hlength
    cases hlength
  | account id =>
    cases h
    exact ⟨id.nonempty, fun c hc => isWordChar_of_isAllowed (List.all_eq_true.mp id.allowed c hc)⟩
  | day date =>
    cases h
    refine ⟨?_, isWordChar_of_mem_dateChars⟩
    rw [← List.length_pos_iff, Date.length_toChars hslot]
    norm_num

/-! ## Reading single words back -/

lemma toUpper_of_isUpper (h : c.isUpper = true) : c.toUpper = c := by
  unfold Char.toUpper
  split
  · next hsmall =>
    -- no letter is both capital and small
    have hlower : 97 ≤ c.toNat ∧ c.toNat ≤ 122 := hsmall
    have hupper := isUpper_iff.mp h
    omega
  · rfl

/-- A keyword is recognised in whatever case it is written. -/
lemma isKeyword_iff_writtenAs {keyword : String} (hslot : (Slot.keyword keyword).Regular) :
    w.isKeyword keyword = true ↔ (Slot.keyword keyword).WrittenAs w := by
  have hcapitals : keyword.toList.map Char.toUpper = keyword.toList := by
    conv_rhs => rw [← List.map_id keyword.toList]
    exact List.map_congr_left fun c hc => toUpper_of_isUpper (List.all_eq_true.mp hslot.2 c hc)
  rw [isKeyword_iff, hcapitals]
  rfl

lemma isKeyword_of_writtenAs {keyword : String} (hslot : (Slot.keyword keyword).Regular)
    (h : (Slot.keyword keyword).WrittenAs w) : w.isKeyword keyword = true :=
  (isKeyword_iff_writtenAs hslot).mpr h

lemma isNumeral_of_digits {cs : List Char} (hne : cs ≠ []) (h : ∀ c ∈ cs, c.isDigit = true) :
    isNumeral cs = true := by
  simpa [isNumeral, hne] using h

/-- The text of a decimal is an amount exactly if it has no sign. -/
lemma isAmount_toChars (a : Decimal) : Word.isAmount a.toChars = !a.negative := by
  rw [Decimal.toChars_eq]
  cases a.negative with
  | true => simp [Word.isAmount, isNumeral]
  | false =>
    have hwhole : ∀ c ∈ a.wholeChars, (c != '.') = true := by
      intro c hc
      have hdigit := Decimal.isDigit_of_mem_wholeChars c hc
      rw [bne_iff_ne]
      rintro rfl
      cases hdigit
    have hnumeral : isNumeral a.wholeChars = true :=
      isNumeral_of_digits Nat.toDigits_ne_nil Decimal.isDigit_of_mem_wholeChars
    simp only [Bool.false_eq_true, if_false, List.nil_append, Word.isAmount,
      List.takeWhile_append_of_pos hwhole, List.dropWhile_append_of_pos hwhole,
      Decimal.fractionChars]
    split
    · simp [hnumeral]
    · next hscale =>
      have hfraction : isNumeral (Decimal.fixedDigits a.scale (a.magnitude % 10 ^ a.scale)) = true :=
        isNumeral_of_digits (by simpa [← List.length_pos_iff] using Nat.pos_of_ne_zero hscale)
          Decimal.isDigit_of_mem_fixedDigits
      simp [hnumeral, hfraction]

/-- An amount is read from its own text, unless it has a sign. -/
lemma readAmount_toChars (a : Decimal) : readAmount a.toChars =
    if a.negative then .error (.invalidAmount (String.ofList a.toChars)) else .ok a := by
  rw [readAmount, isAmount_toChars]
  cases hsign : a.negative with
  | true => rfl
  | false =>
    have hread : Decimal.read? a.toChars = some a := by
      rw [Decimal.read?_toChars, Decimal.unsignZero_eq_self (by simp [hsign])]
    simp [hread]

lemma utf8ByteSize_of_isWordChar {cs : List Char} (h : ∀ c ∈ cs, IsWordChar c) :
    (String.ofList cs).utf8ByteSize = cs.length := by
  induction cs with
  | nil => rfl
  | cons c cs ih =>
    obtain ⟨hc, hcs⟩ := List.forall_mem_cons.mp h
    have hsmall : c.val ≤ 127 := by
      rw [UInt32.le_iff_toNat_le]
      exact le_trans hc.1.2 (by decide)
    rw [String.ofList_cons, String.utf8ByteSize_append, ih hcs, List.length_cons]
    simp [Char.utf8Size_eq_one_iff.mpr hsmall, Nat.add_comm]

/-- A day is read from its own text. -/
lemma readDate_toChars {date : Date} (h : 0 ≤ date.year ∧ date.year ≤ 9999) :
    readDate date.toChars = .ok date := by
  have hsize : (String.ofList date.toChars).utf8ByteSize = 10 := by
    rw [utf8ByteSize_of_isWordChar isWordChar_of_mem_dateChars, Date.length_toChars h]
  rw [readDate, if_pos hsize, Date.read?_toChars]

/-- Every word is accepted in the place it is written for, save for amounts with a sign. -/
lemma Slot.accepts_of_writtenAs (hslot : slot.Regular)
    (hsign : ∀ a, slot = .amount a → a.negative = false) (h : slot.WrittenAs w) :
    slot.Accepts w := by
  cases slot with
  | keyword text => exact isKeyword_of_writtenAs hslot h
  | amount value =>
    cases h
    simp [Slot.Accepts, readAmount_toChars, hsign value rfl]
  | currency value => exact h
  | account id => exact h
  | day date =>
    cases h
    exact readDate_toChars hslot

/-! ## Reading all the words back -/

/-- Words that are written for slots fill them, save for amounts with a sign. -/
lemma fills_of_writtenAs (hslots : ∀ slot ∈ slots, slot.Regular)
    (hsign : ∀ a, .amount a ∈ slots → a.negative = false) (h : WrittenAs slots words) :
    Fills slots words := by
  induction h with
  | nil => exact .nil
  | cons hw _ ih =>
    obtain ⟨hslot, hslots⟩ := List.forall_mem_cons.mp hslots
    exact .cons (Slot.accepts_of_writtenAs hslot (fun a ha => hsign a (ha ▸ List.mem_cons_self)) hw)
      (ih hslots fun a ha => hsign a (List.mem_cons_of_mem _ ha))

lemma isWordChar_of_writtenAs (hslots : ∀ slot ∈ slots, slot.Regular) (h : WrittenAs slots words) :
    ∀ w ∈ words, w ≠ [] ∧ ∀ c ∈ w, IsWordChar c := by
  induction h with
  | nil => simp
  | cons hw _ ih =>
    obtain ⟨hslot, hslots⟩ := List.forall_mem_cons.mp hslots
    exact List.forall_mem_cons.mpr ⟨Slot.isWordChar_of_writtenAs hslot hw, ih hslots⟩

lemma IsWordChar.isBlank (h : IsWordChar c) : Text.isBlank c = false := Text.isBlank_of_printed h.1

lemma IsWordChar.endsClause (h : IsWordChar c) : endsClause c = false := by
  have hbreak : c ≠ '\n' ∧ c ≠ '\r' := by
    constructor <;> rintro rfl <;> exact absurd h (by decide)
  simp [Instruction.endsClause, h.2, hbreak]

end Remittance.Instruction
