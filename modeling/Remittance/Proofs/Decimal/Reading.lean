import Mathlib.Data.List.TakeWhile
import Remittance.Decimal.Reader
import Remittance.Proofs.Decimal.Value
/-!
# Reading plain numbers

A text without an exponent mark is read in the plain notation or not at all (`read?_eq_readPlain`),
and a plain number with no minus sign in front is not negative (`nonNegative_of_readPlain`).
-/

namespace Remittance

/-- What two steps read together, each of them reads. -/
lemma bind_eq_ok_iff {ε α β : Type} {first : Except ε α} {next : α → Except ε β} {b : β} :
    first >>= next = .ok b ↔ ∃ a, first = .ok a ∧ next a = .ok b := by
  cases first <;> simp [bind, Except.bind]

lemma map_eq_ok_iff {ε α β : Type} {step : Except ε α} {f : α → β} {b : β} :
    f <$> step = .ok b ↔ ∃ a, step = .ok a ∧ f a = b := by
  cases step <;> simp [Functor.map, Except.map]

namespace Decimal

variable {cs : List Char} {a : Decimal}

lemma Tally.decimal_eq_ok_iff {t : Tally} {negative : Bool} : t.decimal negative = .ok a ↔
    ofCoeff? (if negative then -(t.number : Int) else t.number) t.places = some a := by
  unfold Tally.decimal
  split <;> simp [*]

lemma Tally.nonNegative_decimal {t : Tally} (h : t.decimal false = .ok a) : a.NonNegative := by
  obtain ⟨hcoeff, -, -⟩ := ofCoeff?_eq_some_iff.mp (decimal_eq_ok_iff.mp h)
  rw [NonNegative, hcoeff]
  exact Int.natCast_nonneg _

/-- Digits behind no minus sign spell no negative number, however they are rounded. -/
lemma nonNegative_of_readDigits {t : Tally} (h : readDigits false t cs = .ok a) :
    a.NonNegative := by
  fun_induction readDigits false t cs with
  | case1 t hstarted => exact Tally.nonNegative_decimal h
  | case3 t c rest hdigit hfull hpointed =>
    obtain ⟨-, -, h⟩ := bind_eq_ok_iff.mp h
    obtain ⟨rounded, -, h⟩ := bind_eq_ok_iff.mp h
    exact Tally.nonNegative_decimal h
  | case5 t c rest hdigit hfull ih => exact ih h
  | case7 t c rest hdigit hpoint hpointed ih => exact ih h
  | case9 t c rest hdigit hpoint hunderscore hstarted hlast =>
    obtain ⟨-, -, h⟩ := bind_eq_ok_iff.mp h
    exact Tally.nonNegative_decimal h
  | case10 t c rest hdigit hpoint hunderscore hstarted hlast ih => exact ih h
  | _ => cases h

lemma nonNegative_of_readPlain (hsign : '-' ∉ cs) (h : readPlain cs = .ok a) : a.NonNegative := by
  unfold readPlain at h
  split at h
  · cases h
  · exact absurd (List.mem_cons_self ..) hsign
  · exact nonNegative_of_readDigits h
  · exact nonNegative_of_readDigits h

/-- The other characters of numbers are no exponent marks. -/
lemma not_isExponentMark {c : Char} (h : c.isDigit = true ∨ c = '.' ∨ c = '_' ∨ c = '-') :
    isExponentMark c = false := by
  rw [isExponentMark, Bool.or_eq_false_iff, beq_eq_false_iff_ne, beq_eq_false_iff_ne]
  rcases h with h | rfl | rfl | rfl
  · constructor <;> rintro rfl <;> cases h
  all_goals decide

/-- Without an exponent mark there is only the plain notation. -/
lemma read?_eq_readPlain (h : ∀ c ∈ cs, isExponentMark c = false) :
    read? cs = (readPlain cs).toOption := by
  have hmark : cs.dropWhile (!isExponentMark ·) = [] := by
    simpa [List.dropWhile_eq_nil_iff] using h
  unfold read? read
  cases hplain : readPlain cs with
  | ok a => rfl
  | error fault => simp [readScientific, hmark, Except.toOption]

end Decimal

end Remittance
