import Remittance.Json.Container
/-!
# Reading whole values

`readTree` reads any value into a `Json`. Arrays and objects may be nested only so deep.
-/

namespace Remittance.Json

/-- Reads one member of an object: its key, a colon and its value. -/
def readPair {α : Type} (value : Reader α) : Reader (String × α) := fun cs => do
  let key ← readString "field identifier" cs
  let colon ← readColon key.rest
  let p ← value colon.rest
  return key.thenRead (colon.thenRead (p.map (Prod.mk key.value)))

/-- Reads the members of an object up to its closing bracket; `before` are the members read so far,
from the last one to the first. -/
def readPairs {α : Type} (value : Reader α) (first : Bool) (before : List (String × α))
    (cs : List Char) : Except Failure (Reached (List (String × α)) cs) :=
  match nextMember first cs with
  | .error failure => .error failure
  | .ok ⟨false, rest, h⟩ => .ok ⟨before.reverse, rest, h⟩
  | .ok ⟨true, rest, h⟩ =>
    match readPair value rest with
    | .error failure => .error failure
    | .ok p =>
      have hp : p.rest.length < cs.length := Nat.lt_of_lt_of_le p.shorter h
      (readPairs value false (p.value :: before) p.rest).map (·.widen (Nat.le_of_lt hp))
termination_by cs.length

/-- Reads a value that holds no others, behind blanks, and refuses an array and an object. -/
def readLeaf (first : Char) (rest : List Char) : Except Failure (Parsed Json (first :: rest)) :=
  match readScalar? first rest with
  | none => .error (.next .valueExpected (first :: rest))
  | some (.error failure) => .error failure
  | some (.ok scalar) => .ok (scalar.map Scalar.json)

/-- Reads a value in which arrays and objects are nested at most `depth` deep. -/
def readTree : (depth : Nat) → Reader Json
  | 0 =>
    afterBlanks fun
      | [] => .error (.next .endInValue [])
      | c :: rest =>
        if c = '[' ∨ c = '{' then .error (.next .tooDeep (c :: rest)) else readLeaf c rest
  | depth + 1 =>
    afterBlanks fun
      | [] => .error (.next .endInValue [])
      | c :: rest =>
        if c = '[' then
          (enclosed closeArray (readItems (readTree depth) true [] rest)).map
            fun p => (p.map .array).widen (length_le_cons _ _)
        else if c = '{' then
          (enclosed closeObject (readPairs (readTree depth) true [] rest)).map
            fun p => (p.map .object).widen (length_le_cons _ _)
        else readLeaf c rest

end Remittance.Json
