import Mathlib.Data.List.Basic
import Remittance.Proofs.Text.Utf8
/-!
# Bytes that are read are the bytes of their text

What is read at the front of some bytes is a character whose bytes stand there
(`eq_append_of_readChar`), so bytes are read as a text exactly if they are the bytes of that text
(`decode_eq_ok_iff`).
-/

namespace Remittance.Text.Utf8

variable {b : UInt8} {bytes rest : List UInt8} {c : Char} {cs : List Char} {lead : Lead}
  {n read code low high tails v : ℕ}

/-! ## Leading bytes and tail bytes -/

/-- What a leading byte says, by the number of the tail bytes that follow. The bounds of the first
of them leave out the numbers that have a shorter form, the surrogates and what is above all
characters. -/
lemma lead?_cases (h : lead? v = some lead) :
    (lead.tails = 0 ∧ v = lead.part ∧ lead.part < 0x80) ∨
    (lead.tails = 1 ∧ v = lead.part + 0xC0 ∧ 2 ≤ lead.part ∧ lead.part < 0x20 ∧
      lead.low = 0x80 ∧ lead.high = 0xBF) ∨
    (lead.tails = 2 ∧ v = lead.part + 0xE0 ∧ lead.part < 0x10 ∧
      0x80 ≤ lead.low ∧ lead.high ≤ 0xBF ∧ (lead.part = 0 → lead.low = 0xA0) ∧
      (lead.part = 0xD → lead.high = 0x9F)) ∨
    (lead.tails = 3 ∧ v = lead.part + 0xF0 ∧ lead.part ≤ 4 ∧
      0x80 ≤ lead.low ∧ lead.high ≤ 0xBF ∧ (lead.part = 0 → lead.low = 0x90) ∧
      (lead.part = 4 → lead.high = 0x8F)) := by
  unfold lead? at h
  split_ifs at h
  all_goals
    obtain rfl := Option.some.inj h
    dsimp only
    omega

lemma readTails_zero_eq_ok_iff :
    readTails read code low high 0 bytes = .ok (n, rest) ↔ n = code ∧ bytes = rest := by
  simp [readTails, eq_comm]

/-- A tail byte that is read lies between the bounds, and its last six bits end the number. -/
lemma readTails_succ_eq_ok_iff :
    readTails read code low high (tails + 1) bytes = .ok (n, rest) ↔
      ∃ b behind, bytes = b :: behind ∧ low ≤ b.toNat ∧ b.toNat ≤ high ∧
        readTails (read + 1) (code * 64 + b.toNat % 64) 0x80 0xBF tails behind = .ok (n, rest) := by
  cases bytes with
  | nil => simp [readTails]
  | cons b behind =>
    rw [readTails]
    split
    · next hbounds => simp [hbounds]
    · next hbounds => simpa using fun hlow hhigh => absurd ⟨hlow, hhigh⟩ hbounds

/-! ## Characters -/

lemma exists_lead_of_readChar (h : readChar b bytes = .ok (c, rest)) :
    ∃ lead n, lead? b.toNat = some lead ∧
      readTails 1 lead.part lead.low lead.high lead.tails bytes = .ok (n, rest) ∧
      c = Char.ofNat n := by
  unfold readChar at h
  split at h
  · cases h
  · next lead hlead =>
    cases hread : readTails 1 lead.part lead.low lead.high lead.tails bytes with
    | error count =>
      rw [hread] at h
      cases h
    | ok number =>
      rw [hread] at h
      cases h
      exact ⟨lead, number.1, hlead, hread, rfl⟩

/-- The bytes of the character that has a number. -/
lemma utf8EncodeChar_ofNat (h : n.isValidChar) :
    String.utf8EncodeChar (Char.ofNat n) =
      if n ≤ 127 then [UInt8.ofNat n]
      else if n ≤ 2047 then [UInt8.ofNat (n / 64 % 32 + 192), UInt8.ofNat (n % 64 + 128)]
      else if n ≤ 65535 then
        [UInt8.ofNat (n / 4096 % 16 + 224), UInt8.ofNat (n / 64 % 64 + 128),
          UInt8.ofNat (n % 64 + 128)]
      else
        [UInt8.ofNat (n / 262144 % 8 + 240), UInt8.ofNat (n / 4096 % 64 + 128),
          UInt8.ofNat (n / 64 % 64 + 128), UInt8.ofNat (n % 64 + 128)] := by
  have hchar : (Char.ofNat n).val.toNat = n := by
    rw [Char.ofNat, dif_pos h]
    rfl
  rw [String.utf8EncodeChar.eq_1, hchar]

lemma ofNat_eq (h : n = b.toNat) : UInt8.ofNat n = b := by rw [h, UInt8.ofNat_toNat]

/-- A character that is read stands with its bytes at the front. -/
theorem eq_append_of_readChar (h : readChar b bytes = .ok (c, rest)) :
    b :: bytes = String.utf8EncodeChar c ++ rest := by
  obtain ⟨lead, n, hlead, hread, rfl⟩ := exists_lead_of_readChar h
  -- in each case the bounds put the number among those that are written with as many bytes
  rcases lead?_cases hlead with ⟨htails, hb, hpart⟩ | ⟨htails, hb, hpart, hpart', hlow, hhigh⟩ |
    ⟨htails, hb, hpart, hlow, hhigh, hfirst, hlast⟩ |
    ⟨htails, hb, hpart, hlow, hhigh, hfirst, hlast⟩
  · rw [htails] at hread
    obtain ⟨rfl, rfl⟩ := readTails_zero_eq_ok_iff.mp hread
    rw [utf8EncodeChar_ofNat (.inl (by omega)), if_pos (by omega), ofNat_eq hb.symm]
    rfl
  · rw [htails] at hread
    obtain ⟨b₁, behind, rfl, hlow₁, hhigh₁, hread⟩ := readTails_succ_eq_ok_iff.mp hread
    obtain ⟨rfl, rfl⟩ := readTails_zero_eq_ok_iff.mp hread
    rw [utf8EncodeChar_ofNat (.inl (by omega)), if_neg (by omega), if_pos (by omega),
      ofNat_eq (b := b) (by omega), ofNat_eq (b := b₁) (by omega)]
    rfl
  · rw [htails] at hread
    obtain ⟨b₁, _, rfl, hlow₁, hhigh₁, hread⟩ := readTails_succ_eq_ok_iff.mp hread
    obtain ⟨b₂, behind, rfl, hlow₂, hhigh₂, hread⟩ := readTails_succ_eq_ok_iff.mp hread
    obtain ⟨rfl, rfl⟩ := readTails_zero_eq_ok_iff.mp hread
    have hvalid : ((lead.part * 64 + b₁.toNat % 64) * 64 + b₂.toNat % 64).isValidChar := by
      unfold Nat.isValidChar
      omega
    rw [utf8EncodeChar_ofNat hvalid, if_neg (by omega), if_neg (by omega), if_pos (by omega),
      ofNat_eq (b := b) (by omega), ofNat_eq (b := b₁) (by omega), ofNat_eq (b := b₂) (by omega)]
    rfl
  · rw [htails] at hread
    obtain ⟨b₁, _, rfl, hlow₁, hhigh₁, hread⟩ := readTails_succ_eq_ok_iff.mp hread
    obtain ⟨b₂, _, rfl, hlow₂, hhigh₂, hread⟩ := readTails_succ_eq_ok_iff.mp hread
    obtain ⟨b₃, behind, rfl, hlow₃, hhigh₃, hread⟩ := readTails_succ_eq_ok_iff.mp hread
    obtain ⟨rfl, rfl⟩ := readTails_zero_eq_ok_iff.mp hread
    have hvalid : (((lead.part * 64 + b₁.toNat % 64) * 64 + b₂.toNat % 64) * 64 +
        b₃.toNat % 64).isValidChar := by
      unfold Nat.isValidChar
      omega
    rw [utf8EncodeChar_ofNat hvalid, if_neg (by omega), if_neg (by omega), if_neg (by omega),
      ofNat_eq (b := b) (by omega), ofNat_eq (b := b₁) (by omega), ofNat_eq (b := b₂) (by omega),
      ofNat_eq (b := b₃) (by omega)]
    rfl

/-! ## Texts -/

lemma eq_encode_of_decodeFrom (h : decodeFrom read bytes = .ok cs) : bytes = encode cs := by
  fun_induction decodeFrom read bytes generalizing cs with
  | case1 =>
    cases h
    rfl
  | case2 => cases h
  | case3 read b rest c behind hread _ ih =>
    rw [eq_append_of_readChar hread]
    cases hbehind : decodeFrom (read + ((b :: rest).length - behind.length)) behind with
    | error fault =>
      rw [hbehind] at h
      cases h
    | ok ds =>
      rw [hbehind] at h
      cases h
      rw [encode_cons, ih hbehind]

/-- Bytes are read as a text exactly if they are the bytes of this text. -/
theorem decode_eq_ok_iff : decode bytes = .ok cs ↔ bytes = encode cs := by
  constructor
  · exact eq_encode_of_decodeFrom
  · rintro rfl
    exact decode_encode cs

/-- A byte below `0x80` at the end of the bytes of a text is a character, in front of which there is
a text. -/
lemma exists_encode_of_concat (hb : b.toNat < 128) (h : encode cs = bytes ++ [b]) :
    ∃ ds, bytes = encode ds := by
  rcases List.eq_nil_or_concat' cs with rfl | ⟨ds, c, rfl⟩
  · simp at h
  · rw [encode_append] at h
    have hlast : encode [c] = String.utf8EncodeChar c := List.append_nil _
    rw [hlast] at h
    rcases utf8EncodeChar_cases c with ⟨-, hbytes⟩ | ⟨-, hlarge⟩
    · rw [hbytes] at h
      exact ⟨ds, (List.append_inj_left' h rfl).symm⟩
    · -- the last byte of any other character is too large
      obtain ⟨tails, last, hbytes⟩ :=
        (List.eq_nil_or_concat' (String.utf8EncodeChar c)).resolve_left (utf8EncodeChar_ne_nil c)
      have hmem : last ∈ String.utf8EncodeChar c := by simp [hbytes]
      rw [hbytes, ← List.append_assoc] at h
      obtain rfl : last = b := List.singleton_inj.mp (List.append_inj_right' h rfl)
      have := hlarge last hmem
      omega

end Remittance.Text.Utf8
