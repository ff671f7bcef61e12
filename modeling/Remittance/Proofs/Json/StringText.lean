import Remittance.Json.Text
import Remittance.Proofs.Decimal.Reading
/-!
# The texts of strings

`SpellsText` says which characters a text in quotes spells. No text spells two strings
(`SpellsText.unique`). A string is read as the characters that it spells
(`exists_spellsText_of_readText`), and what is passed over as a string is one
(`exists_spellsText_of_skipTextFrom`).

A string that is passed over may hold one half of a surrogate pair without the other. Such a half is no
character, and the replacement character stands for it.
-/

namespace Remittance.Json

variable {cs ds es rest text text' : List Char} {c d : Char} {n m : ℕ}

/-! ## Escapes -/

/-- An escape with this number stands in front of the rest. -/
def Escapes (n : ℕ) (cs rest : List Char) : Prop :=
  ∃ a b c d, cs = '\\' :: 'u' :: a :: b :: c :: d :: rest ∧ hexValue? a b c d = some n

lemma Escapes.unique (h : Escapes n cs ds) (h' : Escapes m cs es) : n = m ∧ ds = es := by
  obtain ⟨a, b, c, d, rfl, hn⟩ := h
  obtain ⟨a', b', c', d', heq, hm⟩ := h'
  cases heq
  exact ⟨Option.some.inj (hn.symm.trans hm), rfl⟩

lemma Escapes.length_lt (h : Escapes n cs ds) : ds.length < cs.length := by
  obtain ⟨a, b, c, d, rfl, -⟩ := h
  simp only [List.length_cons]
  omega

lemma not_escapes_cons (h : c ≠ '\\') : ¬Escapes n (c :: rest) ds := by
  rintro ⟨_, _, _, _, heq, -⟩
  exact h (List.cons.inj heq).1

lemma not_escapes_letter (h : simpleEscape? c = some d) : ¬Escapes n ('\\' :: c :: rest) ds := by
  rintro ⟨_, _, _, _, heq, -⟩
  cases heq
  cases h

/-! ## Characters -/

/-- The numbers are those of the two halves of a surrogate pair. -/
def IsPair (n m : ℕ) : Prop := isLeadingSurrogate n = true ∧ isTrailingSurrogate m = true

/-- The character with this number; the replacement character stands for half of a surrogate pair. -/
def singleChar (n : ℕ) : Char :=
  if isLeadingSurrogate n || isTrailingSurrogate n then '\uFFFD' else Char.ofNat n

/-- The first character of a string, in front of the others: as it is, as an escape with a letter, or
as one or two escapes with numbers. -/
inductive SpellsChar : Char → List Char → List Char → Prop
  | plain {c : Char} {rest : List Char} (hquote : c ≠ '"') (hslash : c ≠ '\\')
    (hcontrol : isControl c = false) : SpellsChar c (c :: rest) rest
  | letter {letter c : Char} {rest : List Char} (hletter : simpleEscape? letter = some c) :
    SpellsChar c ('\\' :: letter :: rest) rest
  | single {n : ℕ} {cs rest : List Char} (hn : Escapes n cs rest)
    (hsingle : ∀ m ds, Escapes m rest ds → ¬IsPair n m) : SpellsChar (singleChar n) cs rest
  | pair {n m : ℕ} {cs ds rest : List Char} (hn : Escapes n cs ds) (hm : Escapes m ds rest)
    (hpair : IsPair n m) : SpellsChar (pairChar n m) cs rest

/-- The characters of a string up to and with its closing quote. -/
inductive SpellsText : List Char → List Char → List Char → Prop
  | close {rest : List Char} : SpellsText [] ('"' :: rest) rest
  | cons {c : Char} {text cs ds rest : List Char} (hc : SpellsChar c cs ds)
    (htext : SpellsText text ds rest) : SpellsText (c :: text) cs rest

lemma SpellsChar.unique (h : SpellsChar c cs ds) (h' : SpellsChar d cs es) : c = d ∧ ds = es := by
  cases h with
  | plain _ hslash =>
    cases h' with
    | plain => exact ⟨rfl, rfl⟩
    | letter => exact absurd rfl hslash
    | single hn | pair hn => exact absurd hn (not_escapes_cons hslash)
  | letter hletter =>
    cases h' with
    | plain _ hslash => exact absurd rfl hslash
    | letter hletter' => exact ⟨Option.some.inj (hletter.symm.trans hletter'), rfl⟩
    | single hn | pair hn => exact absurd hn (not_escapes_letter hletter)
  | single hn hsingle =>
    cases h' with
    | plain _ hslash => exact absurd hn (not_escapes_cons hslash)
    | letter hletter => exact absurd hn (not_escapes_letter hletter)
    | single hn' =>
      obtain ⟨rfl, rfl⟩ := hn.unique hn'
      exact ⟨rfl, rfl⟩
    | pair hn' hm hpair =>
      obtain ⟨rfl, rfl⟩ := hn.unique hn'
      exact absurd hpair (hsingle _ _ hm)
  | pair hn hm hpair =>
    cases h' with
    | plain _ hslash => exact absurd hn (not_escapes_cons hslash)
    | letter hletter => exact absurd hn (not_escapes_letter hletter)
    -- what stands behind the first escape tells one half alone from a pair
    | single hn' hsingle =>
      obtain ⟨rfl, rfl⟩ := hn.unique hn'
      exact absurd hpair (hsingle _ _ hm)
    | pair hn' hm' =>
      obtain ⟨rfl, rfl⟩ := hn.unique hn'
      obtain ⟨rfl, rfl⟩ := hm.unique hm'
      exact ⟨rfl, rfl⟩

/-- No character of a string is spelled as its closing quote. -/
lemma not_spellsChar_quote : ¬SpellsChar c ('"' :: rest) ds := by
  intro h
  cases h with
  | plain hquote => exact hquote rfl
  | single hn | pair hn => exact not_escapes_cons (by decide) hn

lemma SpellsText.unique (h : SpellsText text cs ds) (h' : SpellsText text' cs es) :
    text = text' ∧ ds = es := by
  induction h generalizing text' with
  | close =>
    cases h' with
    | close => exact ⟨rfl, rfl⟩
    | cons hc => exact absurd hc not_spellsChar_quote
  | cons hc htext ih =>
    cases h' with
    | close => exact absurd hc not_spellsChar_quote
    | cons hc' htext' =>
      obtain ⟨rfl, rfl⟩ := hc.unique hc'
      obtain ⟨rfl, rfl⟩ := ih htext'
      exact ⟨rfl, rfl⟩

/-! ## Reading -/

lemma escapes_of_readHex {p : Parsed ℕ cs} (h : readHex cs = .ok p) :
    Escapes p.value ('\\' :: 'u' :: cs) p.rest := by
  unfold readHex at h
  split at h
  · next a b c d rest =>
    split at h
    · next n hn =>
      cases h
      exact ⟨a, b, c, d, rfl, hn⟩
    · cases h
  · split at h <;> cases h

lemma exists_escapes_of_readSecondHalf {p : Parsed Char cs} (h : readSecondHalf n cs = .ok p) :
    ∃ m, Escapes m cs p.rest ∧ isTrailingSurrogate m = true ∧ p.value = pairChar n m := by
  unfold readSecondHalf at h
  split at h
  · cases h
  · cases h
  · split at h
    · cases h
    next trailing htrailing =>
    split at h
    · next hm =>
      obtain rfl := Except.ok.inj h
      exact ⟨trailing.value, escapes_of_readHex htrailing, hm, by rw [Parsed.widen, Parsed.map]⟩
    · cases h
  · cases h
  · cases h

/-- An escape with a number is read as the character that it spells. -/
lemma spellsChar_of_readUnicodeEscape {p : Parsed Char cs} (h : readUnicodeEscape cs = .ok p) :
    SpellsChar p.value ('\\' :: 'u' :: cs) p.rest := by
  unfold readUnicodeEscape at h
  split at h
  · cases h
  next code hcode =>
  have hn := escapes_of_readHex hcode
  split at h
  · cases h
  next htrailing =>
  split at h
  · next hleading =>
    obtain ⟨second, hsecond, rfl⟩ := map_eq_ok_iff.mp h
    obtain ⟨m, hm, hpair, hvalue⟩ := exists_escapes_of_readSecondHalf hsecond
    show SpellsChar second.value _ second.rest
    rw [hvalue]
    exact .pair hn hm ⟨hleading, hpair⟩
  -- no half of a pair: whatever follows, the escape stands for itself
  · next hleading =>
    cases h
    have hchar : Char.ofNat code.value = singleChar code.value := by
      simp [singleChar, hleading, htrailing]
    show SpellsChar (Char.ofNat code.value) _ code.rest
    rw [hchar]
    exact .single hn fun _ _ _ hpair => hleading hpair.1

lemma spellsChar_of_readEscape {p : Parsed Char cs} (h : readEscape cs = .ok p) :
    SpellsChar p.value ('\\' :: cs) p.rest := by
  unfold readEscape at h
  split at h
  · cases h
  · next c rest =>
    split at h
    · next meant hletter =>
      cases h
      exact .letter hletter
    · split at h
      · next hu =>
        subst hu
        obtain ⟨escape, hescape, rfl⟩ := map_eq_ok_iff.mp h
        exact spellsChar_of_readUnicodeEscape hescape
      · cases h

/-- A string is read as the characters that it spells. -/
lemma exists_spellsText_of_readTextFrom {whole before : List Char} {hle : cs.length ≤ whole.length}
    {p : Parsed String whole} (h : readTextFrom whole before cs hle = .ok p) :
    ∃ text, SpellsText text cs p.rest ∧ p.value = String.ofList (before.reverse ++ text) := by
  fun_induction readTextFrom whole before cs hle with
  | case1 => cases h
  | case2 =>
    cases h
    exact ⟨[], .close, by rw [List.append_nil]⟩
  | case3 => cases h
  | case4 before rest escape hescape hle hquote _ ih =>
    obtain ⟨text, htext, hvalue⟩ := ih h
    exact ⟨escape.value :: text, .cons (spellsChar_of_readEscape hescape) htext, by simp [hvalue]⟩
  | case5 => cases h
  | case6 before c rest hle hquote hslash hcontrol _ ih =>
    obtain ⟨text, htext, hvalue⟩ := ih h
    have hc : SpellsChar c (c :: rest) rest :=
      .plain hquote hslash (Bool.eq_false_iff.mpr hcontrol)
    exact ⟨c :: text, .cons hc htext, by simp [hvalue]⟩

lemma exists_spellsText_of_readText {p : Parsed String cs} (h : readText cs = .ok p) :
    ∃ text, SpellsText text cs p.rest ∧ p.value = String.ofList text :=
  exists_spellsText_of_readTextFrom h

/-! ## Passing over -/

/-- What is passed over as an escape is one with a letter or with a number. -/
lemma escape_of_skipEscape {p : Parsed Unit cs} (h : skipEscape cs = .ok p) :
    (∃ letter c, cs = letter :: p.rest ∧ simpleEscape? letter = some c) ∨
      ∃ n, Escapes n ('\\' :: cs) p.rest := by
  unfold skipEscape at h
  split at h
  · cases h
  · next c rest =>
    split at h
    · next hletter =>
      cases h
      obtain ⟨meant, hmeant⟩ := Option.isSome_iff_exists.mp hletter
      exact .inl ⟨c, meant, rfl, hmeant⟩
    · split at h
      · next hu =>
        subst hu
        obtain ⟨code, hcode, rfl⟩ := map_eq_ok_iff.mp h
        exact .inr ⟨code.value, escapes_of_readHex hcode⟩
      · cases h

/-- An escape with a number is passed over, whichever number it is. -/
lemma skipTextFrom_of_escapes {whole : List Char} {hle : cs.length ≤ whole.length}
    (hn : Escapes n cs ds) :
    ∃ hle' : ds.length ≤ whole.length, skipTextFrom whole cs hle = skipTextFrom whole ds hle' := by
  obtain ⟨a, b, c, d, rfl, hvalue⟩ := hn
  refine ⟨by simp only [List.length_cons] at hle; omega, ?_⟩
  have hskip : skipEscape ('u' :: a :: b :: c :: d :: ds) =
      .ok ⟨(), ds, by simp only [List.length_cons]; omega⟩ := by
    simp [skipEscape, simpleEscape?, readHex, hvalue, Except.map, Parsed.map, Parsed.widen]
  rw [skipTextFrom]
  simp [hskip]

/-- What is passed over as a string is one. -/
lemma exists_spellsText_of_skipTextFrom {whole : List Char} {hle : cs.length ≤ whole.length}
    {p : Parsed Unit whole} (h : skipTextFrom whole cs hle = .ok p) :
    ∃ text, SpellsText text cs p.rest := by
  -- by the length and not by the cases of the function, which takes two steps for one pair
  induction hsize : cs.length using Nat.strong_induction_on generalizing cs with
  | _ size ih =>
    subst hsize
    cases cs with
    | nil =>
      rw [skipTextFrom] at h
      cases h
    | cons c rest =>
      rw [skipTextFrom] at h
      split at h
      · next hquote =>
        cases h
        subst hquote
        exact ⟨[], .close⟩
      next hquote =>
      split at h
      · next hslash =>
        subst hslash
        split at h
        · cases h
        next escape hescape =>
        have hshorter : escape.rest.length < ('\\' :: rest).length :=
          Nat.lt_succ_of_lt escape.shorter
        rcases escape_of_skipEscape hescape with ⟨letter, c, hrest, hletter⟩ | ⟨n, hn⟩
        · obtain ⟨text, htext⟩ := ih _ hshorter h rfl
          rw [hrest]
          exact ⟨c :: text, .cons (.letter hletter) htext⟩
        · by_cases hpair : ∃ m ds, Escapes m escape.rest ds ∧ IsPair n m
          · -- the second half of a pair is passed over by itself, but spells nothing of its own
            obtain ⟨m, ds, hm, hpair⟩ := hpair
            obtain ⟨hle', hskip⟩ := skipTextFrom_of_escapes hm
            rw [hskip] at h
            obtain ⟨text, htext⟩ := ih _ (hm.length_lt.trans hshorter) h rfl
            exact ⟨pairChar n m :: text, .cons (.pair hn hm hpair) htext⟩
          · obtain ⟨text, htext⟩ := ih _ hshorter h rfl
            refine ⟨singleChar n :: text, .cons (.single hn fun m ds hm hboth => ?_) htext⟩
            exact hpair ⟨m, ds, hm, hboth⟩
      next hslash =>
      split at h
      · cases h
      next hcontrol =>
      obtain ⟨text, htext⟩ := ih _ (length_lt_cons _ _) h rfl
      exact ⟨c :: text, .cons (.plain hquote hslash (Bool.eq_false_iff.mpr hcontrol)) htext⟩

end Remittance.Json
