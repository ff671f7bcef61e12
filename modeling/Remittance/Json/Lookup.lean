import Remittance.Json.Basic
/-!
# Looking into values

How records and names are found in a value that was read as a whole.
-/

namespace Remittance.Json

/-- The text of a string. -/
def string? : Json → Option String
  | .string text => some text
  | _ => none

/-- The items of an array. -/
def items? : Json → Option (List Json)
  | .array items => some items
  | _ => none

/-- The member with this name, which is given as `none` where the object has none; an object with
two of them has no answer. -/
def member? (members : List (String × Json)) (name : String) : Option (Option Json) :=
  match members.filter (·.1 == name) with
  | [] => some none
  | [(_, value)] => some (some value)
  | _ => none

/-- The fields of a record in the order of their names: those of an object, where a field may be
missing, or the items of an array, of which there has to be one for each name. -/
def fields? (names : List String) : Json → Option (List (Option Json))
  | .object members => names.mapM (member? members)
  | .array items => if items.length = names.length then some (items.map some) else none
  | _ => none

/-- The name that a value stands for: a string, or an object that gives the name no content. -/
def name? : Json → Option String
  | .string name => some name
  | .object [(name, .null)] => some name
  | _ => none

/-- The thing whose text is the name that a value stands for. -/
def named? {α : Type} (text : α → String) (all : List α) (value : Json) : Option α := do
  let name ← value.name?
  all.find? (text · == name)

end Remittance.Json
