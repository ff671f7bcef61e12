import Remittance.Json.Container
/-!
# Records

A record has named fields, which are read into a draft. It is written as an object, in which the
fields stand in any order and members of other names are passed over, or as an array, in which
exactly the fields stand in their order.

* `Field` is a field: how its value is put into the draft.
* `Shape` is a kind of record: its fields, and the record that a full draft makes.
* `Shape.read` reads a record.
-/

namespace Remittance.Json

/-- One field of the records that are put together in drafts of the type `σ`. -/
structure Field (σ : Type) where
  name : String
  /-- The draft has the field already. -/
  isSet : σ → Bool
  /-- Reads the value and puts it into a draft. -/
  read : σ → Reader σ

/-- A field that is kept as an optional value of the draft. -/
def Field.of {σ α : Type} (name : String) (get : σ → Option α) (set : σ → α → σ)
    (value : Reader α) : Field σ where
  name := name
  isSet draft := (get draft).isSome
  read draft cs := (value cs).map (·.map (set draft))

/-- A kind of record. -/
structure Shape (σ α : Type) where
  /-- The name of the kind, in messages. -/
  name : String
  fields : List (Field σ)
  /-- The draft without a field. -/
  start : σ
  /-- The record that a draft makes, or the name of the first field that it lacks. -/
  finish : σ → Except String α

namespace Shape

variable {σ α : Type}

/-- What is asked for, in messages. -/
def expected (shape : Shape σ α) : String := s!"struct {shape.name}"

/-- The field with this name. -/
def field? (shape : Shape σ α) (name : String) : Option (Field σ) :=
  shape.fields.find? (·.name == name)

/-- Makes the record out of a draft, in front of the closing bracket. -/
def complete (shape : Shape σ α) {cs : List Char} (p : Reached σ cs) :
    Except Failure (Reached α cs) :=
  match shape.finish p.value with
  | .ok record => .ok ⟨record, p.rest, p.noLonger⟩
  | .error name => .error (.unplaced (.missingField name) p.rest)

/-- Reads a member of an object into a draft. -/
def readMember (shape : Shape σ α) (draft : σ) : Reader σ := fun cs => do
  let key ← readString "field identifier" cs
  match shape.field? key.value with
  | none =>
    let colon ← readColon key.rest
    let value ← skipValue colon.rest
    return key.thenRead (colon.thenRead (value.map fun _ => draft))
  | some field =>
    if field.isSet draft then throw (.unplaced (.repeatedField key.value) key.rest)
    let colon ← readColon key.rest
    let value ← field.read draft colon.rest
    return key.thenRead (colon.thenRead value)

/-- Reads the members of an object into a draft. -/
def readMembers (shape : Shape σ α) (first : Bool) (draft : σ) (cs : List Char) :
    Except Failure (Reached σ cs) :=
  match nextMember first cs with
  | .error failure => .error failure
  | .ok ⟨false, rest, h⟩ => .ok ⟨draft, rest, h⟩
  | .ok ⟨true, rest, h⟩ =>
    match shape.readMember draft rest with
    | .error failure => .error failure
    | .ok p =>
      have hp : p.rest.length < cs.length := Nat.lt_of_lt_of_le p.shorter h
      (shape.readMembers false p.value p.rest).map (·.widen (Nat.le_of_lt hp))
termination_by cs.length

/-- Reads the items of an array into a draft, one for each field. -/
def readInOrder (shape : Shape σ α) (draft : σ) (taken : Nat) :
    (fields : List (Field σ)) → (cs : List Char) → Except Failure (Reached σ cs)
  | [], cs => .ok ⟨draft, cs, length_le_self _⟩
  | field :: fields, cs =>
    match nextItem (taken == 0) cs with
    | .error failure => .error failure
    | .ok ⟨false, rest, _⟩ =>
      .error (.unplaced (.tooShort taken
        s!"{shape.expected} with {shape.fields.length} elements") rest)
    | .ok ⟨true, rest, h⟩ =>
      match field.read draft rest with
      | .error failure => .error failure
      | .ok p =>
        (shape.readInOrder p.value (taken + 1) fields p.rest).map
          (·.widen (Nat.le_of_lt (Nat.lt_of_lt_of_le p.shorter h)))

/-- Reads a record. -/
def read (shape : Shape σ α) : Reader α :=
  afterBlanks fun
    | [] => .error (mismatch shape.expected [])
    | c :: rest =>
      if c = '{' then
        (enclosed closeObject ((shape.readMembers true shape.start rest).bind shape.complete)).map
          (·.widen (length_le_cons _ _))
      else if c = '[' then
        (enclosed closeArray
          ((shape.readInOrder shape.start 0 shape.fields rest).bind shape.complete)).map
          (·.widen (length_le_cons _ _))
      else .error (mismatch shape.expected (c :: rest))

end Shape

/-- Reads a text that holds one value and nothing else. -/
def readWhole {α : Type} (reader : Reader α) (text : List Char) : Except Failure α := do
  let value ← reader text
  match skipBlanks value.rest with
  | [] => return value.value
  | rest => throw (.next .trailingCharacters rest)

end Remittance.Json
