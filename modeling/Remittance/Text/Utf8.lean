/-!
# Text as bytes

The encoding UTF-8: a character is one byte below `0x80`, or a leading byte that says how many tail
bytes follow it. Overlong forms, surrogates and numbers above `0x10FFFF` are no characters.

* `Utf8.encode` writes characters as bytes.
* `Utf8.decode` reads them, or says where the bytes stop to be text, and how many bytes there are
  known to be none (`Utf8.Fault`).
-/

namespace Remittance.Text.Utf8

/-- Why bytes are no text. -/
structure Fault where
  /-- How many bytes in front of the fault are text. -/
  index : Nat
  /-- How many bytes behind them are no character; `none` where the bytes end inside one. -/
  count : Option Nat
deriving DecidableEq

/-- The bytes of characters. -/
def encode (cs : List Char) : List UInt8 := cs.flatMap String.utf8EncodeChar

/-- What a leading byte says: its own part of the number of the character, how many tail bytes
follow, and between which bounds the first of them lies. -/
structure Lead where
  part : Nat
  tails : Nat
  low : Nat
  high : Nat

/-- What a byte says as the first one of a character, if it can be that. -/
def lead? (b : Nat) : Option Lead :=
  if b < 0x80 then some ⟨b, 0, 0x80, 0xBF⟩
  else if 0xC2 ≤ b ∧ b ≤ 0xDF then some ⟨b - 0xC0, 1, 0x80, 0xBF⟩
  else if b = 0xE0 then some ⟨0, 2, 0xA0, 0xBF⟩
  else if b = 0xED then some ⟨0xD, 2, 0x80, 0x9F⟩
  else if 0xE1 ≤ b ∧ b ≤ 0xEF then some ⟨b - 0xE0, 2, 0x80, 0xBF⟩
  else if b = 0xF0 then some ⟨0, 3, 0x90, 0xBF⟩
  else if b = 0xF4 then some ⟨4, 3, 0x80, 0x8F⟩
  else if 0xF1 ≤ b ∧ b ≤ 0xF3 then some ⟨b - 0xF0, 3, 0x80, 0xBF⟩
  else none

/-- Reads tail bytes behind `read` bytes of a character whose number so far is `code`. The first
of them lies between `low` and `high`. A byte that is no tail leaves `read` bytes that are no
character. -/
def readTails (read code low high : Nat) :
    (tails : Nat) → List UInt8 → Except (Option Nat) (Nat × List UInt8)
  | 0, bytes => .ok (code, bytes)
  | _ + 1, [] => .error none
  | tails + 1, b :: bytes =>
    if low ≤ b.toNat ∧ b.toNat ≤ high then
      readTails (read + 1) (code * 64 + b.toNat % 64) 0x80 0xBF tails bytes
    else .error (some read)

theorem length_le_of_readTails {read code low high tails : Nat} {bytes rest : List UInt8} {n : Nat}
    (h : readTails read code low high tails bytes = .ok (n, rest)) :
    rest.length ≤ bytes.length := by
  induction tails generalizing read code low high bytes with
  | zero =>
    simp only [readTails, Except.ok.injEq, Prod.mk.injEq] at h
    exact Nat.le_of_eq (congrArg List.length h.2.symm)
  | succ tails ih =>
    match bytes with
    | [] => simp [readTails] at h
    | b :: bytes =>
      simp only [readTails] at h
      split at h
      · exact Nat.le_succ_of_le (ih h)
      · cases h

/-- Reads the character at the front of `b :: bytes`. -/
def readChar (b : UInt8) (bytes : List UInt8) : Except (Option Nat) (Char × List UInt8) :=
  match lead? b.toNat with
  | none => .error (some 1)
  | some lead =>
    (readTails 1 lead.part lead.low lead.high lead.tails bytes).map fun (n, rest) =>
      (Char.ofNat n, rest)

theorem length_le_of_readChar {b : UInt8} {bytes rest : List UInt8} {c : Char}
    (h : readChar b bytes = .ok (c, rest)) : rest.length ≤ bytes.length := by
  unfold readChar at h
  split at h
  · cases h
  · next lead _ =>
    cases ht : readTails 1 lead.part lead.low lead.high lead.tails bytes with
    | error e => rw [ht] at h; cases h
    | ok p =>
      rw [ht] at h
      cases h
      exact length_le_of_readTails ht

/-- Reads bytes behind `read` bytes that are text. -/
def decodeFrom (read : Nat) (bytes : List UInt8) : Except Fault (List Char) :=
  match bytes with
  | [] => .ok []
  | b :: rest =>
    match h : readChar b rest with
    | .error count => .error ⟨read, count⟩
    | .ok (c, behind) =>
      have := length_le_of_readChar h
      (decodeFrom (read + ((b :: rest).length - behind.length)) behind).map (c :: ·)
termination_by bytes.length
decreasing_by exact Nat.lt_succ_of_le this

/-- The characters of bytes. -/
def decode (bytes : List UInt8) : Except Fault (List Char) := decodeFrom 0 bytes

end Remittance.Text.Utf8
