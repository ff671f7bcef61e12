import Remittance.Json.Scalar
import Remittance.Json.Skip
/-!
# Arrays and objects

* `nextItem` and `nextMember` go to the next item of an array or the next member of an object.
* `closeArray` and `closeObject` close it.
* `readArray`, `readObject` and `readSequence` read what stands between the brackets.

A fault without a place that arises between the brackets gets the place where closing the brackets
comes to its end (`enclosed`).
-/

namespace Remittance.Json

/-- Whether another part follows, and the text in front of it or of the closing bracket. -/
abbrev Step (cs : List Char) := Reached Bool cs

/-- Goes to the next item of an array. `first` holds in front of the first one. -/
def nextItem (first : Bool) (cs : List Char) : Except Failure (Step cs) :=
  match hcs : skipBlanks cs with
  | [] => .error (.next .endInArray [])
  | c :: rest =>
    have hle : (c :: rest).length ≤ cs.length := length_le_of_skipBlanks hcs
    if c = ']' then .ok ⟨false, c :: rest, hle⟩
    else if first then .ok ⟨true, c :: rest, hle⟩
    else if c = ',' then
      match hrest : skipBlanks rest with
      | [] => .error (.next .endInValue [])
      | d :: behind =>
        if d = ']' then .error (.next .trailingComma (d :: behind))
        else .ok ⟨true, d :: behind,
          Nat.le_trans (length_le_of_skipBlanks hrest) (Nat.le_of_succ_le hle)⟩
    else .error (.next .itemEndExpected (c :: rest))

/-- Goes to the next member of an object. `first` holds in front of the first one. -/
def nextMember (first : Bool) (cs : List Char) : Except Failure (Step cs) :=
  match hcs : skipBlanks cs with
  | [] => .error (.next .endInObject [])
  | c :: rest =>
    have hle : (c :: rest).length ≤ cs.length := length_le_of_skipBlanks hcs
    if c = '}' then .ok ⟨false, c :: rest, hle⟩
    else if first then
      if c = '"' then .ok ⟨true, c :: rest, hle⟩ else .error (.next .keyExpected (c :: rest))
    else if c = ',' then
      match hrest : skipBlanks rest with
      | [] => .error (.next .endInValue [])
      | d :: behind =>
        if d = '"' then .ok ⟨true, d :: behind,
          Nat.le_trans (length_le_of_skipBlanks hrest) (Nat.le_of_succ_le hle)⟩
        else if d = '}' then .error (.next .trailingComma (d :: behind))
        else .error (.next .keyExpected (d :: behind))
    else .error (.next .memberEndExpected (c :: rest))

/-- The colon behind a key. -/
def readColon : Reader Unit := readMark ':' .endInObject .colonExpected

/-- Closes an array. -/
def closeArray : Reader Unit :=
  afterBlanks fun
    | [] => .error (.next .endInArray [])
    | c :: rest =>
      if c = ']' then .ok ⟨(), rest, length_lt_cons _ _⟩
      else if c = ',' then
        match skipBlanks rest with
        | ']' :: behind => .error (.next .trailingComma (']' :: behind))
        | behind => .error (.next .trailingCharacters behind)
      else .error (.next .trailingCharacters (c :: rest))

/-- Closes an object. -/
def closeObject : Reader Unit :=
  afterBlanks fun
    | [] => .error (.next .endInObject [])
    | c :: rest =>
      if c = '}' then .ok ⟨(), rest, length_lt_cons _ _⟩
      else if c = ',' then .error (.next .trailingComma (c :: rest))
      else .error (.next .trailingCharacters (c :: rest))

/-- Where a reader came to its end, whether or not it succeeded. -/
def endOf {α : Type} {cs : List Char} : Except Failure (Parsed α cs) → List Char
  | .ok p => p.rest
  | .error failure => failure.rest

/-- Reads what stands between two brackets, behind the opening one. -/
def enclosed {α : Type} {cs : List Char} (close : Reader Unit)
    (inside : Except Failure (Reached α cs)) : Except Failure (Parsed α cs) :=
  match inside with
  | .error failure => .error (failure.placedAt (endOf (close failure.rest)))
  | .ok p =>
    (close p.rest).map fun closed =>
      ⟨p.value, closed.rest, Nat.lt_of_lt_of_le closed.shorter p.noLonger⟩

/-! ## Sequences -/

/-- Reads the items of an array up to its closing bracket; `before` are the items read so far, from
the last one to the first. -/
def readItems {α : Type} (item : Reader α) (first : Bool) (before : List α) (cs : List Char) :
    Except Failure (Reached (List α) cs) :=
  match nextItem first cs with
  | .error failure => .error failure
  | .ok ⟨false, rest, h⟩ => .ok ⟨before.reverse, rest, h⟩
  | .ok ⟨true, rest, h⟩ =>
    match item rest with
    | .error failure => .error failure
    | .ok p =>
      have hp : p.rest.length < cs.length := Nat.lt_of_lt_of_le p.shorter h
      (readItems item false (p.value :: before) p.rest).map (·.widen (Nat.le_of_lt hp))
termination_by cs.length

/-- Reads an array of items of one kind. -/
def readSequence {α : Type} (item : Reader α) : Reader (List α) :=
  afterBlanks fun
    | [] => .error (mismatch "a sequence" [])
    | c :: rest =>
      if c = '[' then
        (enclosed closeArray (readItems item true [] rest)).map (·.widen (length_le_cons _ _))
      else .error (mismatch "a sequence" (c :: rest))

end Remittance.Json
