import Remittance.AccountEntry
import Remittance.Text.Blank
/-!
# Requests

A request brings the accounts that an instruction may name, and the instruction. `Request.check`
accepts it when every entry is an account and the instruction is not blank, and otherwise reports
everything that is wrong with it.
-/

namespace Remittance

/-- A request as it was sent. -/
structure Request where
  accounts : List AccountEntry
  instruction : String
deriving DecidableEq

/-- A request whose accounts are checked. -/
structure CheckedRequest where
  accounts : List Account
  /-- The instruction without the blanks around it. -/
  instruction : List Char
deriving DecidableEq

namespace Request

/-- What is wrong with the entries from this position on. -/
def entryErrors (position : Nat) : List AccountEntry → List FieldError
  | [] => []
  | entry :: entries =>
    entry.faults.map (EntryFault.fieldError position) ++ entryErrors (position + 1) entries

/-- The error of a request whose instruction is blank. -/
def blankInstruction : FieldError :=
  ⟨"instruction", "instruction is required", .invalidField⟩

/-- What is wrong with an instruction. -/
def instructionErrors (instruction : String) : List FieldError :=
  if Text.trim instruction.toList = [] then [blankInstruction] else []

/-- Everything that is wrong with a request. -/
def errors (request : Request) : List FieldError :=
  entryErrors 0 request.accounts ++ instructionErrors request.instruction

/-- Checks a request. -/
def check (request : Request) : Except (List FieldError) CheckedRequest :=
  match request.errors with
  | [] =>
    .ok ⟨request.accounts.filterMap AccountEntry.account?, Text.trim request.instruction.toList⟩
  | errors => .error errors

end Request

end Remittance
