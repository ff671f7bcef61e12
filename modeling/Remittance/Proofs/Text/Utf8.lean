import Mathlib.Tactic.Common
import Mathlib.Tactic.SplitIfs
import Remittance.Text.Utf8
/-!
# The bytes of a text are read as the text

Every text is read back from its bytes (`decode_encode`). A byte below `0x80` stands for the character
with its number and is no part of another one (`ofNat_mem_of_mem_encode`), so the lines of a text are
the lines of its bytes (`line_break_mem_encode`).
-/

namespace Remittance.Text.Utf8

variable {b : UInt8} {bytes rest : List UInt8} {c : Char} {cs : List Char}
  {n low high part tails v : ℕ}

/-! ## Characters -/

lemma toNat_ofNat (h : n < 256) : (UInt8.ofNat n).toNat = n := UInt8.toNat_ofNat_of_lt' h

/-- The tail byte for the last six bits of a number. -/
lemma readTails_tail (read code tails n : ℕ) (bytes : List UInt8)
    (h : low ≤ n % 64 + 128 ∧ n % 64 + 128 ≤ high) :
    readTails read code low high (tails + 1) (UInt8.ofNat (n % 64 + 128) :: bytes) =
      readTails (read + 1) (code * 64 + n % 64) 0x80 0xBF tails bytes := by
  have hbyte : (UInt8.ofNat (n % 64 + 128)).toNat = n % 64 + 128 :=
    toNat_ofNat (by omega)
  have hlow : (n % 64 + 128) % 64 = n % 64 := by omega
  rw [readTails, hbyte, if_pos h, hlow]

lemma readChar_of_lead (hlead : lead? b.toNat = some ⟨part, tails, low, high⟩)
    (htails : readTails 1 part low high tails bytes = .ok (c.toNat, rest)) :
    readChar b bytes = .ok (c, rest) := by
  simp [readChar, hlead, htails, Except.map, Char.ofNat_toNat]

lemma lead?_one (h : v ≤ 127) : lead? v = some ⟨v, 0, 0x80, 0xBF⟩ := by
  rw [lead?, if_pos (by omega)]

lemma lead?_two (hlow : 127 < v) (hhigh : v ≤ 2047) :
    lead? (v / 64 % 32 + 192) = some ⟨v / 64, 1, 0x80, 0xBF⟩ := by
  have hpart : v / 64 % 32 + 192 - 0xC0 = v / 64 := by omega
  rw [lead?, if_neg (by omega), if_pos (by omega), hpart]

/-- The bounds of the first tail byte leave out overlong forms and surrogates. -/
lemma lead?_three (hlow : 2047 < v) (hhigh : v ≤ 65535) (hvalid : v < 0xD800 ∨ 0xDFFF < v) :
    ∃ low high, lead? (v / 4096 % 16 + 224) = some ⟨v / 4096, 2, low, high⟩ ∧
      low ≤ v / 64 % 64 + 128 ∧ v / 64 % 64 + 128 ≤ high := by
  have hlead : v / 4096 % 16 + 224 = v / 4096 + 0xE0 := by omega
  rw [lead?, hlead, if_neg (by omega), if_neg (by omega)]
  split_ifs with hlowest hsurrogates
  · have hpart : v / 4096 = 0 := by omega
    exact ⟨0xA0, 0xBF, by rw [hpart], by omega, by omega⟩
  · have hpart : v / 4096 = 0xD := by omega
    exact ⟨0x80, 0x9F, by rw [hpart], by omega, by omega⟩
  · exact ⟨0x80, 0xBF, by rw [Nat.add_sub_cancel], by omega, by omega⟩
  all_goals omega

/-- The bounds of the first tail byte leave out overlong forms and what is above all characters. -/
lemma lead?_four (hlow : 65535 < v) (hhigh : v < 0x110000) :
    ∃ low high, lead? (v / 262144 % 8 + 240) = some ⟨v / 262144, 3, low, high⟩ ∧
      low ≤ v / 4096 % 64 + 128 ∧ v / 4096 % 64 + 128 ≤ high := by
  have hlead : v / 262144 % 8 + 240 = v / 262144 + 0xF0 := by omega
  rw [lead?, hlead, if_neg (by omega), if_neg (by omega), if_neg (by omega), if_neg (by omega),
    if_neg (by omega)]
  split_ifs with hlowest hhighest
  · have hpart : v / 262144 = 0 := by omega
    exact ⟨0x90, 0xBF, by rw [hpart], by omega, by omega⟩
  · have hpart : v / 262144 = 4 := by omega
    exact ⟨0x80, 0x8F, by rw [hpart], by omega, by omega⟩
  · exact ⟨0x80, 0xBF, by rw [Nat.add_sub_cancel], by omega, by omega⟩
  · omega

/-- A character is read back from the front of its bytes. -/
lemma readChar_utf8EncodeChar (c : Char) (rest : List UInt8) :
    ∃ b tails, String.utf8EncodeChar c = b :: tails ∧ readChar b (tails ++ rest) = .ok (c, rest) := by
  have hvalid : c.toNat < 0xD800 ∨ 0xDFFF < c.toNat ∧ c.toNat < 0x110000 := c.valid
  have hchar : c.val.toNat = c.toNat := rfl
  rw [String.utf8EncodeChar.eq_1, hchar]
  generalize hv : c.toNat = v at hvalid
  split_ifs with hone htwo hthree
  · have hlead : lead? (UInt8.ofNat v).toNat = some ⟨v, 0, 0x80, 0xBF⟩ := by
      rw [toNat_ofNat (by omega), lead?_one hone]
    refine ⟨_, _, rfl, readChar_of_lead hlead ?_⟩
    rw [hv]
    rfl
  · have hlead : lead? (UInt8.ofNat (v / 64 % 32 + 192)).toNat = some ⟨v / 64, 1, 0x80, 0xBF⟩ := by
      rw [toNat_ofNat (by omega), lead?_two (by omega) htwo]
    refine ⟨_, _, rfl, readChar_of_lead hlead ?_⟩
    rw [List.cons_append, readTails_tail _ _ _ _ _ (by omega), hv]
    exact congrArg (fun n => Except.ok (n, rest)) (by omega)
  · obtain ⟨low, high, hlead, hbounds⟩ := lead?_three (by omega) hthree (by omega)
    rw [← toNat_ofNat (n := v / 4096 % 16 + 224) (by omega)] at hlead
    refine ⟨_, _, rfl, readChar_of_lead hlead ?_⟩
    rw [List.cons_append, readTails_tail _ _ _ _ _ hbounds, List.cons_append,
      readTails_tail _ _ _ _ _ (by omega), hv]
    exact congrArg (fun n => Except.ok (n, rest)) (by omega)
  · obtain ⟨low, high, hlead, hbounds⟩ := lead?_four (v := v) (by omega) (by omega)
    rw [← toNat_ofNat (n := v / 262144 % 8 + 240) (by omega)] at hlead
    refine ⟨_, _, rfl, readChar_of_lead hlead ?_⟩
    rw [List.cons_append, readTails_tail _ _ _ _ _ hbounds, List.cons_append,
      readTails_tail _ _ _ _ _ (by omega), List.cons_append,
      readTails_tail _ _ _ _ _ (by omega), hv]
    exact congrArg (fun n => Except.ok (n, rest)) (by omega)

lemma utf8EncodeChar_ne_nil (c : Char) : String.utf8EncodeChar c ≠ [] := by
  obtain ⟨b, tails, hbytes, -⟩ := readChar_utf8EncodeChar c []
  rw [hbytes]
  exact List.cons_ne_nil b tails

/-! ## Texts -/

@[simp] lemma encode_nil : encode [] = [] := rfl

@[simp] lemma encode_append (cs ds : List Char) : encode (cs ++ ds) = encode cs ++ encode ds :=
  List.flatMap_append

lemma encode_cons (c : Char) (cs : List Char) :
    encode (c :: cs) = String.utf8EncodeChar c ++ encode cs := List.flatMap_cons

lemma encode_ne_nil (h : cs ≠ []) : encode cs ≠ [] := by
  obtain ⟨c, cs, rfl⟩ := List.exists_cons_of_ne_nil h
  rw [encode_cons]
  exact List.append_ne_nil_of_left_ne_nil (utf8EncodeChar_ne_nil c) _

lemma decodeFrom_encode (read : ℕ) (cs : List Char) : decodeFrom read (encode cs) = .ok cs := by
  induction cs generalizing read with
  | nil => rw [encode_nil, decodeFrom]
  | cons c cs ih =>
    obtain ⟨b, tails, hbytes, hread⟩ := readChar_utf8EncodeChar c (encode cs)
    have hsplit : encode (c :: cs) = b :: (tails ++ encode cs) := by
      rw [encode_cons, hbytes, List.cons_append]
    rw [hsplit, decodeFrom]
    split
    · next heq => cases hread.symm.trans heq
    · next heq =>
      cases hread.symm.trans heq
      rw [ih]
      rfl

/-- Every text is read back from its bytes. -/
theorem decode_encode (cs : List Char) : decode (encode cs) = .ok cs := decodeFrom_encode 0 cs

/-! ## Bytes below `0x80` -/

/-- A character is the byte of its number, or bytes that are all at least `0x80`. -/
lemma utf8EncodeChar_cases (c : Char) :
    (c.toNat < 128 ∧ String.utf8EncodeChar c = [UInt8.ofNat c.toNat]) ∨
      (128 ≤ c.toNat ∧ ∀ b ∈ String.utf8EncodeChar c, 128 ≤ b.toNat) := by
  have hchar : c.val.toNat = c.toNat := rfl
  have hlarge {n : ℕ} (hlow : 128 ≤ n) (hn : n < 256) : 128 ≤ (UInt8.ofNat n).toNat := by
    rw [toNat_ofNat hn]
    exact hlow
  rw [String.utf8EncodeChar.eq_1, hchar]
  split_ifs with hone htwo hthree
  · exact .inl ⟨by omega, rfl⟩
  all_goals
    refine .inr ⟨by omega, ?_⟩
    simp only [List.forall_mem_cons]
  · exact ⟨hlarge (by omega) (by omega), hlarge (by omega) (by omega), by simp⟩
  · exact ⟨hlarge (by omega) (by omega), hlarge (by omega) (by omega),
      hlarge (by omega) (by omega), by simp⟩
  · exact ⟨hlarge (by omega) (by omega), hlarge (by omega) (by omega),
      hlarge (by omega) (by omega), hlarge (by omega) (by omega), by simp⟩

/-- A byte below `0x80` among the bytes of a text is the number of one of its characters. -/
theorem ofNat_mem_of_mem_encode (hb : b.toNat < 128) (h : b ∈ encode cs) :
    Char.ofNat b.toNat ∈ cs := by
  obtain ⟨c, hc, hbyte⟩ := List.mem_flatMap.mp h
  rcases utf8EncodeChar_cases c with ⟨hsmall, hbytes⟩ | ⟨-, hlarge⟩
  · rw [hbytes, List.mem_singleton] at hbyte
    rw [hbyte, toNat_ofNat (by omega), Char.ofNat_toNat]
    exact hc
  · have := hlarge b hbyte
    omega

/-- The bytes of a text hold the byte of a line break only where the text holds a line break. -/
theorem line_break_mem_encode (h : 10 ∈ encode cs) : '\n' ∈ cs :=
  ofNat_mem_of_mem_encode (by decide) h

end Remittance.Text.Utf8
