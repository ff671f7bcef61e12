import Remittance.Json.Reading
/-!
# The strings of JSON

Characters between quotes. A backslash begins an escape: a letter that stands for a character, or
`u` and four digits of base sixteen. A character above U+FFFF is escaped as the two halves of a
surrogate pair, and neither half stands alone.

* `readText` reads a string behind its opening quote.
* `skipText` passes over one. It does not ask whether surrogates are paired.
-/

namespace Remittance.Json

/-- The value of a digit of base sixteen, in small or capital letters. -/
def hexDigitValue? (c : Char) : Option Nat :=
  if c.isDigit then some (c.toNat - '0'.toNat)
  else if 'a' ≤ c ∧ c ≤ 'f' then some (c.toNat - 'a'.toNat + 10)
  else if 'A' ≤ c ∧ c ≤ 'F' then some (c.toNat - 'A'.toNat + 10)
  else none

/-- The number that four digits of base sixteen spell. -/
def hexValue? (a b c d : Char) : Option Nat := do
  return (((← hexDigitValue? a) * 16 + (← hexDigitValue? b)) * 16 + (← hexDigitValue? c)) * 16 +
    (← hexDigitValue? d)

/-- Reads the four digits of an escape. -/
def readHex : Reader Nat
  | a :: b :: c :: d :: rest =>
    match hexValue? a b c d with
    | some n => .ok ⟨n, rest, by simp only [List.length_cons]; omega⟩
    | none => .error ⟨.invalidEscape, a :: b :: c :: d :: rest, some 4⟩
  | cs =>
    if byteCount cs < 4 then .error (.here .endInString [])
    else .error ⟨.invalidEscape, cs, some 4⟩

/-- The numbers that are the first half of a surrogate pair. -/
def isLeadingSurrogate (n : Nat) : Bool := 0xD800 ≤ n && n ≤ 0xDBFF

/-- The numbers that are the second half of a surrogate pair. -/
def isTrailingSurrogate (n : Nat) : Bool := 0xDC00 ≤ n && n ≤ 0xDFFF

/-- The character that a surrogate pair stands for. -/
def pairChar (leading trailing : Nat) : Char :=
  Char.ofNat ((leading - 0xD800) * 0x400 + (trailing - 0xDC00) + 0x10000)

/-- Reads the second half of a surrogate pair, behind the digits of the first half. -/
def readSecondHalf (leading : Nat) : Reader Char
  | [] => .error (.here .endInString [])
  | ['\\'] => .error (.here .endInString [])
  | '\\' :: 'u' :: rest =>
    match readHex rest with
    | .error failure => .error failure
    | .ok trailing =>
      if isTrailingSurrogate trailing.value then
        .ok ((trailing.map (pairChar leading)).widen (by simp only [List.length_cons]; omega))
      else .error (.here .loneSurrogate trailing.rest)
  | '\\' :: c :: rest => .error (.next .pairUnfinished (c :: rest))
  | c :: rest => .error (.next .pairUnfinished (c :: rest))

/-- Reads what stands behind the `u` of an escape. -/
def readUnicodeEscape : Reader Char := fun cs =>
  match readHex cs with
  | .error failure => .error failure
  | .ok code =>
    if isTrailingSurrogate code.value then .error (.here .loneSurrogate code.rest)
    else if isLeadingSurrogate code.value then
      (readSecondHalf code.value code.rest).map code.thenRead
    else .ok (code.map Char.ofNat)

/-- The character that an escape with this letter stands for. -/
def simpleEscape? : Char → Option Char
  | '"' => some '"'
  | '\\' => some '\\'
  | '/' => some '/'
  | 'b' => some '\x08'
  | 'f' => some '\x0c'
  | 'n' => some '\n'
  | 'r' => some '\r'
  | 't' => some '\t'
  | _ => none

/-- Reads an escape behind its backslash. -/
def readEscape : Reader Char
  | [] => .error (.here .endInString [])
  | c :: rest =>
    match simpleEscape? c with
    | some meant => .ok ⟨meant, rest, length_lt_cons _ _⟩
    | none =>
      if c = 'u' then (readUnicodeEscape rest).map (·.widen (length_le_cons _ _))
      else .error (.next .invalidEscape (c :: rest))

/-- The control characters, which stand in a string only escaped. -/
def isControl (c : Char) : Bool := c.toNat < 0x20

/-- Reads what is left of a string of the text `whole`, up to and with its closing quote; `before`
is what was read of it, from the right to the left. -/
def readTextFrom (whole before cs : List Char) (h : cs.length ≤ whole.length) :
    Except Failure (Parsed String whole) :=
  match cs with
  | [] => .error (.here .endInString [])
  | c :: rest =>
    if c = '"' then .ok ⟨String.ofList before.reverse, rest, h⟩
    else if c = '\\' then
      match readEscape rest with
      | .error failure => .error failure
      | .ok escape =>
        readTextFrom whole (escape.value :: before) escape.rest
          (Nat.le_of_lt (Nat.lt_trans escape.shorter h))
    else if isControl c then .error (.next .controlCharacter (c :: rest))
    else readTextFrom whole (c :: before) rest (Nat.le_of_succ_le h)
termination_by cs.length
decreasing_by
  · exact Nat.lt_succ_of_lt escape.shorter
  · exact Nat.lt_succ_self _

/-- Reads a string up to and with its closing quote. -/
def readText : Reader String := fun cs => readTextFrom cs [] cs (length_le_self _)

/-- Passes over an escape, behind its backslash. -/
def skipEscape : Reader Unit
  | [] => .error (.here .endInString [])
  | c :: rest =>
    if (simpleEscape? c).isSome then .ok ⟨(), rest, length_lt_cons _ _⟩
    else if c = 'u' then
      (readHex rest).map fun code => (code.map fun _ => ()).widen (length_le_cons _ _)
    else .error (.next .invalidEscape (c :: rest))

/-- Passes over what is left of a string of the text `whole`, up to and with its closing quote. -/
def skipTextFrom (whole cs : List Char) (h : cs.length ≤ whole.length) :
    Except Failure (Parsed Unit whole) :=
  match cs with
  | [] => .error (.here .endInString [])
  | c :: rest =>
    if c = '"' then .ok ⟨(), rest, h⟩
    else if c = '\\' then
      match skipEscape rest with
      | .error failure => .error failure
      | .ok escape =>
        skipTextFrom whole escape.rest (Nat.le_of_lt (Nat.lt_trans escape.shorter h))
    else if isControl c then .error (.here .controlCharacter (c :: rest))
    else skipTextFrom whole rest (Nat.le_of_succ_le h)
termination_by cs.length
decreasing_by
  · exact Nat.lt_succ_of_lt escape.shorter
  · exact Nat.lt_succ_self _

/-- Passes over a string up to and with its closing quote. -/
def skipText : Reader Unit := fun cs => skipTextFrom cs cs (length_le_self _)

end Remittance.Json
