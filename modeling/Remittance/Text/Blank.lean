/-!
# Blanks and words

Which characters are white space, and how a text is cut at them.

* `isBlank` is the Unicode property `White_Space`.
* `trim` removes the blanks at both ends of a text.
* `runs` cuts a text at the characters of a class and keeps what lies between, without empty
  pieces; `words` cuts at blanks.
-/

namespace Remittance.Text

/-- The characters that have the Unicode property `White_Space`. -/
def isBlank (c : Char) : Bool :=
  let n := c.toNat
  (9 ≤ n && n ≤ 13) || n == 0x20 || n == 0x85 || n == 0xA0 || n == 0x1680 ||
    (0x2000 ≤ n && n ≤ 0x200A) || n == 0x2028 || n == 0x2029 || n == 0x202F || n == 0x205F ||
    n == 0x3000

/-- A text without the blanks in front of it. -/
def trimStart (cs : List Char) : List Char := cs.dropWhile isBlank

/-- A text without the blanks behind it. -/
def trimEnd (cs : List Char) : List Char := (cs.reverse.dropWhile isBlank).reverse

/-- A text without the blanks at both of its ends. -/
def trim (cs : List Char) : List Char := trimEnd (trimStart cs)

/-- The longest pieces of a text that hold no character of the class `isBreak`, in order; an empty
piece is left out. -/
def runs (isBreak : Char → Bool) : List Char → List (List Char)
  | [] => []
  | [c] => if isBreak c then [] else [[c]]
  | c :: d :: rest =>
    if isBreak c then runs isBreak (d :: rest)
    else if isBreak d then [c] :: runs isBreak (d :: rest)
    else
      match runs isBreak (d :: rest) with
      | piece :: pieces => (c :: piece) :: pieces
      | [] => [[c]]

/-- The words of a text: its longest pieces without a blank. -/
def words (cs : List Char) : List (List Char) := runs isBlank cs

/-- Both texts are the same once small ASCII letters are made capital. -/
def sameIgnoringCase (a b : List Char) : Bool := a.map Char.toUpper == b.map Char.toUpper

end Remittance.Text
