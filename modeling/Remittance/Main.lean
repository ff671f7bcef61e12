import Remittance.CommandLine
import Std.Time.DateTime
/-!
# The program

Reads the command line, runs the job that it asks for, and writes the replies to standard output. A
command line that is refused ends the program with the code 2, and an error with the code 1. Where the
program breaks off, its code is 101, and 134 where the system ends it.
-/

namespace Remittance.Program

/-- The day by the clock, in universal time. -/
def today : IO Date := do
  let day := Std.Time.PlainDate.ofEpochDay (← Std.Time.Timestamp.now).toDaysSinceUnixEpoch
  match Date.ofYMD? day.year.toInt day.month.toNat day.day.toNat with
  | some date => return date
  | none => throw (IO.userError "the clock shows no date")

/-- What an opened file holds. -/
def readSource (file : IO.FS.Handle) : IO Source := do
  try
    return .file (← file.readBinToEnd).toList
  catch _ => return .directory

/-- What a path leads to. -/
def openSource (path : String) : IO Source := do
  try
    readSource (← IO.FS.Handle.mk path .read)
  catch _ => return .missing

/-- Why a file cannot be created. -/
def fileFault : IO.Error → FileFault
  | .noFileOrDirectory .. => .noSuchDirectory
  | .inappropriateType .. => .isDirectory
  | error => .other (toString error)

/-- Writes a table, where one is asked for. -/
def writeTable (run : Run) (path : Option String) : IO Run := do
  match run.table, path with
  | some snapshots, some path =>
    try
      IO.FS.writeFile path (String.ofList (AccountTable.write snapshots))
      return run
    catch error => return run.withoutTable (fileFault error)
  | _, _ => return run

/-- The code of a program that ends with a fault. -/
def exitCode : RunFault → UInt32
  | .reported _ => 1
  | .panicked _ => 101
  | .aborted _ => 134

/-- Tells a fault, which is called an error unless the program breaks off. -/
def tell (fault : RunFault) : IO Unit :=
  match fault with
  | .reported _ => IO.eprintln s!"Error: {fault.message}"
  | .panicked _ | .aborted _ => IO.eprintln fault.message

/-- Runs a job. -/
def perform (job : Job) (desk : Desk) : IO UInt32 := do
  let run := job.run desk .ample (← openSource job.path)
  let output ← IO.getStdout
  output.putStr (String.ofList run.output)
  output.flush
  match (← writeTable run job.tablePath?).result with
  | .ok () => return 0
  | .error fault =>
    tell fault
    return exitCode fault

/-- The wording of a refused command line. -/
def usageMessage : UsageError → String
  | .missingArgument => "a required argument is missing"
  | .unknownArgument => "an argument is unknown"
  | .invalidValue => "a value is missing or not allowed"
  | .unreadableValue => "a value cannot be read"
  | .unwantedValue => "an option that takes no value has one"
  | .conflict => "arguments exclude each other"
  | .helpWanted => "Usage: remittance [OPTIONS] [INPUT]"

/-- Runs a command line. -/
def start (words : List String) : IO UInt32 := do
  match CommandLine.read words with
  | .error .helpWanted =>
    IO.println (usageMessage .helpWanted)
    return 0
  | .error error =>
    IO.eprintln s!"error: {usageMessage error}"
    return 2
  | .ok line =>
    match line.job? 1 (by decide) with
    | some job => perform job (line.desk (← today))
    | none =>
      IO.eprintln "Error: an INPUT file or --accounts with --instruction is required"
      return 1

end Remittance.Program

/-- The program. -/
def main (words : List String) : IO UInt32 := Remittance.Program.start words
