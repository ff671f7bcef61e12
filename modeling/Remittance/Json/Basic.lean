/-!
# JSON values

A number keeps its text, so that no digit of it is lost; an object keeps its members in the order in
which they stand.
-/

namespace Remittance

/-- A JSON value. -/
inductive Json where
  | null
  | bool (value : Bool)
  /-- A number, as it is written. -/
  | number (text : List Char)
  | string (text : String)
  | array (items : List Json)
  | object (members : List (String × Json))

end Remittance
