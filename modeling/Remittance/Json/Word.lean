import Remittance.Json.Reading
/-!
# The words of JSON

`null`, `true` and `false`. The first letter tells which word it has to be.
-/

namespace Remittance.Json

/-- Takes exactly these letters. -/
def takeLetters : (letters cs : List Char) → Except Failure (Taken cs)
  | [], cs => .ok (.nothing cs)
  | _ :: _, [] => .error (.here .endInValue [])
  | letter :: letters, c :: rest =>
    if c = letter then (takeLetters letters rest).map (·.cons c)
    else .error (.next .wordExpected (c :: rest))

/-- Reads a word behind its first letter, which stands for `value`. -/
def readWord {α : Type} (first : Char) (letters : List Char) (value : α) (rest : List Char) :
    Except Failure (Parsed α (first :: rest)) :=
  (takeLetters letters rest).map fun t => ⟨value, t.rest, Nat.lt_succ_of_le t.length_rest_le⟩

/-- Reads the word that begins with this letter; what the word stands for is given by `none` for
`null` and by the truth value for the others. There is no such word for another letter. -/
def readWord? (first : Char) (rest : List Char) :
    Option (Except Failure (Parsed (Option Bool) (first :: rest))) :=
  if first = 'n' then some (readWord first ['u', 'l', 'l'] none rest)
  else if first = 't' then some (readWord first ['r', 'u', 'e'] (some true) rest)
  else if first = 'f' then some (readWord first ['a', 'l', 's', 'e'] (some false) rest)
  else none

end Remittance.Json
