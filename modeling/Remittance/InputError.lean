import Remittance.AccountTable
import Remittance.Json.Reading
/-!
# Errors of input and output

What ends a run: a file that cannot be opened, read or created, a text that does not have the form
that is asked for, or work on batches that is not finished.
-/

namespace Remittance

/-- What ends a run. -/
inductive InputError where
  | fileNotFound (path : String)
  | file (fault : FileFault)
  | table (fault : TableFault)
  /-- The text is not the JSON that is asked for. -/
  | json (text : List Char) (failure : Json.Failure)
  /-- The work on batches cannot be started, or a batch is given up. -/
  | runtime (reason : String)

/-- The wording of an error. -/
def InputError.message : InputError → String
  | .fileNotFound path => s!"File not found: {path}"
  | .file fault => s!"I/O error: {fault.message}"
  | .table fault => s!"CSV parse error{fault.lineWords}: {fault.message}"
  | .json text failure => s!"JSON error: {failure.message text}"
  | .runtime reason => s!"Runtime error: {reason}"

end Remittance
