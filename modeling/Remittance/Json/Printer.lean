import Remittance.Json.Basic
/-!
# Writing JSON

Values are written without blanks. In a string, quotes, backslashes and the control characters below
U+0020 are escaped, and nothing else is, so the text of a value is one line.
-/

namespace Remittance.Json

/-- A digit of base sixteen, in small letters. -/
def hexDigit (n : Nat) : Char := Nat.digitChar (n % 16)

/-- A character as it is written in a string. -/
def escapeChar (c : Char) : List Char :=
  if c = '"' then ['\\', '"']
  else if c = '\\' then ['\\', '\\']
  else if c = '\n' then ['\\', 'n']
  else if c = '\r' then ['\\', 'r']
  else if c = '\t' then ['\\', 't']
  else if c = '\x08' then ['\\', 'b']
  else if c = '\x0c' then ['\\', 'f']
  else if c.toNat < 0x20 then ['\\', 'u', '0', '0', hexDigit (c.toNat / 16), hexDigit c.toNat]
  else [c]

/-- The characters of a string as they are written, without the quotes around them. -/
def escape (cs : List Char) : List Char := cs.flatMap escapeChar

/-- A string with the quotes around it. -/
def quote (s : String) : List Char := '"' :: escape s.toList ++ ['"']

mutual

/-- The text of a value. -/
def render : Json → List Char
  | .null => ['n', 'u', 'l', 'l']
  | .bool true => ['t', 'r', 'u', 'e']
  | .bool false => ['f', 'a', 'l', 's', 'e']
  | .number text => text
  | .string text => quote text
  | .array [] => ['[', ']']
  | .array (item :: items) => '[' :: render item ++ renderItems items
  | .object [] => ['{', '}']
  | .object ((key, value) :: members) =>
    '{' :: quote key ++ ':' :: render value ++ renderMembers members

/-- The text of the items of an array behind the first one, with the closing bracket. -/
def renderItems : List Json → List Char
  | [] => [']']
  | item :: items => ',' :: render item ++ renderItems items

/-- The text of the members of an object behind the first one, with the closing bracket. -/
def renderMembers : List (String × Json) → List Char
  | [] => ['}']
  | (key, value) :: members => ',' :: quote key ++ ':' :: render value ++ renderMembers members

end

/-- The text of a value, as a string. -/
def text (value : Json) : String := String.ofList value.render

end Remittance.Json
