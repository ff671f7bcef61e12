import Remittance.Desk
import Remittance.Request.Encoding
/-!
# Replies to request lines

A desk replies to every request line with one envelope: errors where the line is no request or does
not pass the checks, and otherwise the response to its instruction.
-/

namespace Remittance.Desk

/-- The reply to a checked request. -/
def answer (desk : Desk) (request : CheckedRequest) : Envelope :=
  (desk.process request.accounts request.instruction).envelope

/-- The reply to a request line. -/
def reply (desk : Desk) (line : List Char) : Envelope :=
  match Request.readChecked line with
  | .ok request => desk.answer request
  | .error errors => .rejection errors

end Remittance.Desk
