import Remittance.Json.Number
import Remittance.Json.Text
import Remittance.Json.Word
/-!
# Passing over values

A member that nobody asks for is passed over. It has to be well formed, but arrays and objects may
be nested as deep as they like: the brackets that are open stand on a stack.
-/

namespace Remittance.Json

/-- What is open around a value. -/
inductive Open where
  | array
  | object

/-- The failure where the text ends inside an array or object. -/
def Open.endFault : Open → Fault
  | .array => .endInArray
  | .object => .endInObject

/-- The failure where neither a comma nor the closing bracket follows. -/
def Open.separatorFault : Open → Fault
  | .array => .itemEndExpected
  | .object => .memberEndExpected

/-- The bracket that closes an array or object. -/
def Open.closing : Open → Char
  | .array => ']'
  | .object => '}'

/-- Takes the character in front, behind blanks. -/
def readMark (mark : Char) (atEnd otherwise : Fault) : Reader Unit :=
  afterBlanks fun
    | [] => .error (.next atEnd [])
    | c :: rest =>
      if c = mark then .ok ⟨(), rest, length_lt_cons _ _⟩ else .error (.next otherwise (c :: rest))

/-- Passes over the key of a member and the colon behind it. -/
def skipKey : Reader Unit := fun cs => do
  let quote ← readMark '"' .endInObject .keyExpected cs
  let key ← skipText quote.rest
  let colon ← readMark ':' .endInObject .colonExpected key.rest
  return quote.thenRead (key.thenRead colon)

/-- Passes over a value that holds no others, where one begins with `first`. -/
def skipScalar? (first : Char) (rest : List Char) :
    Option (Except Failure (Parsed Unit (first :: rest))) :=
  if first = '"' then some ((skipText rest).map (·.widen (length_le_cons _ _)))
  else if startsNumber first then
    some ((readNumber .invalidNumber (first :: rest)).map (·.map fun _ => ()))
  else
    (readWord? first rest).map (·.map (·.map fun _ => ()))

/-- Passes over what stands in front of a value in an array or object. -/
def Open.skipLabel : Open → (cs : List Char) → Except Failure (Reached Unit cs)
  | .array, cs => .ok ⟨(), cs, length_le_self _⟩
  | .object, cs => (skipKey cs).map fun key => ⟨(), key.rest, Nat.le_of_lt key.shorter⟩

/-- Where the passing over of a value stands. -/
inductive SkipState where
  /-- In front of the value, or of one that it holds. -/
  | value
  /-- Behind the bracket that opens an array or object. -/
  | opened (kind : Open)
  /-- Behind a value. -/
  | behind

/-- How many characters of the value were taken at least. -/
def SkipState.taken : SkipState → Nat
  | .value => 0
  | .opened _ | .behind => 1

/-- Passes over what is left of a value of the text `whole`; the arrays and objects in `around` are
open, the innermost one first. -/
def skipFrom (whole : List Char) (state : SkipState) (around : List Open) (cs : List Char)
    (h : cs.length + state.taken ≤ whole.length) : Except Failure (Parsed Unit whole) :=
  match state with
  | .value =>
    match hcs : skipBlanks cs with
    | [] => .error (.next .endInValue [])
    | c :: rest =>
      have hrest : rest.length + 1 ≤ cs.length := length_le_of_skipBlanks hcs
      if c = '[' then skipFrom whole (.opened .array) around rest (Nat.le_trans hrest h)
      else if c = '{' then skipFrom whole (.opened .object) around rest (Nat.le_trans hrest h)
      else
        match skipScalar? c rest with
        | none => .error (.next .valueExpected (c :: rest))
        | some (.error failure) => .error failure
        | some (.ok scalar) =>
          have hscalar : scalar.rest.length + 1 ≤ cs.length := Nat.le_trans scalar.shorter hrest
          skipFrom whole .behind around scalar.rest (Nat.le_trans hscalar h)
  | .opened kind =>
    match hcs : skipBlanks cs with
    | [] => .error (.next kind.endFault [])
    | c :: rest =>
      have hrest : rest.length + 1 ≤ cs.length := length_le_of_skipBlanks hcs
      if c = kind.closing then
        skipFrom whole .behind around rest (Nat.le_trans hrest (Nat.le_of_succ_le h))
      else
        match kind.skipLabel cs with
        | .error failure => .error failure
        | .ok label =>
          have hlabel := label.noLonger
          skipFrom whole .value (kind :: around) label.rest
            (Nat.le_trans hlabel (Nat.le_of_succ_le h))
  | .behind =>
    match around with
    | [] => .ok ⟨(), cs, h⟩
    | kind :: outer =>
      match hcs : skipBlanks cs with
      | [] => .error (.next kind.endFault [])
      | c :: rest =>
        have hrest : rest.length + 1 ≤ cs.length := length_le_of_skipBlanks hcs
        if c = ',' then
          match kind.skipLabel rest with
          | .error failure => .error failure
          | .ok label =>
            have hlabel := Nat.le_trans (Nat.succ_le_succ label.noLonger) hrest
            skipFrom whole .value (kind :: outer) label.rest
              (Nat.le_of_succ_le (Nat.le_trans hlabel (Nat.le_of_succ_le h)))
        else if c = kind.closing then
          skipFrom whole .behind outer rest (Nat.le_trans hrest (Nat.le_of_succ_le h))
        else .error (.next kind.separatorFault (c :: rest))
termination_by 2 * cs.length + state.taken
decreasing_by all_goals simp only [SkipState.taken]; omega

/-- Passes over a value. -/
def skipValue : Reader Unit := fun cs => skipFrom cs .value [] cs (length_le_self _)

end Remittance.Json
