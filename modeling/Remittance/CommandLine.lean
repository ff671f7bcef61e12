import Remittance.Rules
import Remittance.Run.Batches
/-!
# The command line

The words of a command line name a file of requests, or a table of accounts and an instruction, and
options.

* `Arguments.ofWords` reads the words from the left to the right. An option stands in front of its
  value or holds it behind `=`. Its value is only looked at when the next word has been read: an
  unknown word is reported rather than a bad value in front of it.
* `Arguments.check` asks which arguments exclude or require each other.
* `CommandLine.read` does both and fills in the defaults.
* `CommandLine.job?` is what the command line asks for.
-/

namespace Remittance

/-- Why a command line is refused. -/
inductive UsageError where
  /-- A required argument is missing. -/
  | missingArgument
  /-- There is no such option, or there is a second file. -/
  | unknownArgument
  /-- A value is missing, or is not one of those allowed. -/
  | invalidValue
  /-- A value cannot be read. -/
  | unreadableValue
  /-- An option that takes no value has one. -/
  | unwantedValue
  /-- Two arguments exclude each other, or an option is given twice. -/
  | conflict
  /-- No error: help is asked for. -/
  | helpWanted
deriving DecidableEq

/-- How the requests of a file are answered. -/
inductive Strategy where
  /-- One by one. -/
  | inOrder
  /-- Batch by batch. -/
  | inBatches
deriving DecidableEq

/-- The things that a command line can give a value. -/
inductive Parameter where
  /-- The file of requests, the only parameter without a name. -/
  | input
  | accounts
  | instruction
  | accountsOut
  | strategy
  | batchSize
  | maxConcurrent
  | today
  | pendingPolicy
  | currency
  | logLevel
deriving DecidableEq

/-- The parameter of an option. -/
def Parameter.ofName? : String → Option Parameter
  | "accounts" => some .accounts
  | "instruction" => some .instruction
  | "accounts-out" => some .accountsOut
  | "strategy" => some .strategy
  | "batch-size" => some .batchSize
  | "max-concurrent" => some .maxConcurrent
  | "today" => some .today
  | "pending-policy" => some .pendingPolicy
  | "currency" => some .currency
  | "log-level" => some .logLevel
  | _ => none

/-! ## Values -/

/-- Reads a path, which is not empty. -/
def readPath (text : String) : Except UsageError String :=
  if text = "" then .error .invalidValue else .ok text

/-- Reads the name of a strategy. -/
def Strategy.read : String → Except UsageError Strategy
  | "sync" => .ok .inOrder
  | "async" => .ok .inBatches
  | _ => .error .invalidValue

/-- Reads the name of a policy. -/
def PendingPolicy.read : String → Except UsageError PendingPolicy
  | "reserve-debit" => .ok .reserveDebit
  | "hold" => .ok .hold
  | _ => .error .invalidValue

/-- Reads a number of at most sixty-four bits, with an optional `+` in front. -/
def readCount (text : String) : Except UsageError Nat :=
  let digits :=
    match text.toList with
    | '+' :: rest => rest
    | cs => cs
  let value := Json.digitsValue digits
  if digits ≠ [] ∧ digits.all Char.isDigit ∧ value < UInt64.size then .ok value
  else .error .unreadableValue

/-- A value, or the error of one that cannot be read. -/
def readable {α : Type} : Option α → Except UsageError α
  | some value => .ok value
  | none => .error .unreadableValue

/-! ## Arguments -/

/-- The values that a command line gives. -/
structure Arguments where
  input : Option String
  accounts : Option String
  instruction : Option String
  accountsOut : Option String
  strategy : Option Strategy
  batchSize : Option Nat
  maxConcurrent : Option Nat
  today : Option Date
  pendingPolicy : Option PendingPolicy
  /-- The only parameter that may be given more than once. -/
  currencies : List Currency
  logLevel : Option String

namespace Arguments

/-- No values. -/
def empty : Arguments := ⟨none, none, none, none, none, none, none, none, none, [], none⟩

/-- Puts a value where none was given before. -/
def fill {α : Type} (given : Option α) (value : Except UsageError α)
    (put : α → Arguments) : Except UsageError Arguments :=
  match given with
  | some _ => .error .conflict
  | none => value.map put

/-- The arguments with one more value. -/
def give (arguments : Arguments) (parameter : Parameter) (text : String) :
    Except UsageError Arguments :=
  match parameter with
  | .input => fill arguments.input (readPath text) ({ arguments with input := some · })
  | .accounts => fill arguments.accounts (readPath text) ({ arguments with accounts := some · })
  | .instruction => fill arguments.instruction (.ok text) ({ arguments with instruction := some · })
  | .accountsOut =>
    fill arguments.accountsOut (readPath text) ({ arguments with accountsOut := some · })
  | .strategy =>
    fill arguments.strategy (Strategy.read text) ({ arguments with strategy := some · })
  | .batchSize => fill arguments.batchSize (readCount text) ({ arguments with batchSize := some · })
  | .maxConcurrent =>
    fill arguments.maxConcurrent (readCount text) ({ arguments with maxConcurrent := some · })
  | .today =>
    fill arguments.today (readable (Date.read? text.toList)) ({ arguments with today := some · })
  | .pendingPolicy =>
    fill arguments.pendingPolicy (PendingPolicy.read text)
      ({ arguments with pendingPolicy := some · })
  | .currency =>
    (readable (Currency.ofString? text)).map fun currency =>
      { arguments with currencies := arguments.currencies ++ [currency] }
  | .logLevel => fill arguments.logLevel (.ok text) ({ arguments with logLevel := some · })

/-! ## Words -/

/-- The parameter that was named last, while its value is not looked at. -/
inductive Pending where
  | nothing
  /-- The value has to follow. -/
  | awaiting (parameter : Parameter)
  | given (parameter : Parameter) (text : String)

/-- The arguments after the value of the parameter that was named last is looked at. -/
def settle (arguments : Arguments) : Pending → Except UsageError Arguments
  | .nothing => .ok arguments
  | .awaiting _ => .error .invalidValue
  | .given parameter text => arguments.give parameter text

/-- What a word is. -/
inductive Word where
  /-- All words behind this one are files. -/
  | separator
  /-- An option, and what stands behind `=`. -/
  | option (name : String) (value : Option String)
  /-- Options of one letter, behind one hyphen. -/
  | letters (first : Char)
  | plain (text : String)

/-- What a word is. -/
def Word.ofText (text : String) : Word :=
  match text.toList with
  | ['-', '-'] => .separator
  | '-' :: '-' :: rest =>
    let name := String.ofList (rest.takeWhile (· ≠ '='))
    match rest.dropWhile (· ≠ '=') with
    | [] => .option name none
    | _ :: value => .option name (some (String.ofList value))
  | '-' :: first :: _ => .letters first
  | _ => .plain text

/-- Reads the words behind a separator, which are files. -/
def readFiles (arguments : Arguments) (pending : Pending) (hasInput : Bool) :
    List String → Except UsageError Arguments
  | [] => arguments.settle pending
  | text :: words =>
    if hasInput then .error .unknownArgument
    else do readFiles (← arguments.settle pending) (.given .input text) true words

/-- Reads the words of a command line. `hasInput` holds when a file was named. -/
def readWords (arguments : Arguments) (pending : Pending) (hasInput : Bool) :
    List String → Except UsageError Arguments
  | [] => arguments.settle pending
  | text :: words =>
    match Word.ofText text with
    | .separator => readFiles arguments pending hasInput words
    | .option name value =>
      match Parameter.ofName? name, value with
      | some parameter, some value => do
        let arguments ← arguments.settle pending
        readWords (← arguments.give parameter value) .nothing hasInput words
      | some parameter, none => do
        readWords (← arguments.settle pending) (.awaiting parameter) hasInput words
      | none, some _ => .error (if name = "help" then .unwantedValue else .unknownArgument)
      | none, none =>
        if name = "help" then do
          let _ ← arguments.settle pending
          .error .helpWanted
        else .error .unknownArgument
    | .letters first =>
      if first = 'h' then do
        let _ ← arguments.settle pending
        .error .helpWanted
      else .error .unknownArgument
    | .plain text =>
      match pending with
      | .awaiting parameter => readWords arguments (.given parameter text) hasInput words
      | pending =>
        if hasInput then .error .unknownArgument
        else do readWords (← arguments.settle pending) (.given .input text) true words

/-- The values that the words of a command line give. -/
def ofWords (words : List String) : Except UsageError Arguments :=
  readWords empty .nothing false words

/-! ## What goes together -/

/-- A file of requests and a table of accounts exclude each other. -/
def Conflicting (arguments : Arguments) : Prop :=
  arguments.input.isSome ∧ arguments.accounts.isSome

instance (arguments : Arguments) : Decidable arguments.Conflicting :=
  inferInstanceAs (Decidable (_ ∧ _))

/-- The arguments of which each asks for the one in front of it: an instruction and a file for the
resulting accounts need a table of accounts, save where a file of requests excludes the table; a
table and a file for the resulting accounts need an instruction; and something has to be read. -/
def Complete (arguments : Arguments) : Prop :=
  (arguments.instruction.isSome ∨ arguments.accountsOut.isSome →
    arguments.accounts.isSome ∨ arguments.input.isSome) ∧
  (arguments.accounts.isSome ∨ arguments.accountsOut.isSome → arguments.instruction.isSome) ∧
  (arguments.input.isSome ∨ arguments.accounts.isSome)

instance (arguments : Arguments) : Decidable arguments.Complete :=
  inferInstanceAs (Decidable (_ ∧ _))

/-- The arguments, if they go together. -/
def check (arguments : Arguments) : Except UsageError Arguments :=
  if arguments.Conflicting then .error .conflict
  else if arguments.Complete then .ok arguments
  else .error .missingArgument

end Arguments

/-! ## Command lines -/

/-- A command line that is accepted. -/
structure CommandLine where
  input : Option String
  accounts : Option String
  instruction : Option String
  accountsOut : Option String
  strategy : Strategy
  batchSize : Option Nat
  maxConcurrent : Option Nat
  /-- The day to work on, where the command line says one. -/
  today : Option Date
  policy : PendingPolicy
  /-- The supported currencies. -/
  supported : List Currency
  logLevel : String

namespace CommandLine

/-- The currencies that are supported: those that are named, or else the usual ones. -/
def supportedOf (named : List Currency) : List Currency :=
  Currency.distinct (if named = [] then Currency.defaults else named)

/-- The command line with these arguments and the defaults for the others. -/
def ofArguments (arguments : Arguments) : CommandLine where
  input := arguments.input
  accounts := arguments.accounts
  instruction := arguments.instruction
  accountsOut := arguments.accountsOut
  strategy := arguments.strategy.getD .inOrder
  batchSize := arguments.batchSize
  maxConcurrent := arguments.maxConcurrent
  today := arguments.today
  policy := arguments.pendingPolicy.getD .reserveDebit
  supported := supportedOf arguments.currencies
  logLevel := arguments.logLevel.getD "warn"

/-- Reads a command line. -/
def read (words : List String) : Except UsageError CommandLine := do
  let arguments ← Arguments.ofWords words
  return ofArguments (← arguments.check)

/-- The table and the instruction of a command line that asks for one instruction. -/
def single? (line : CommandLine) : Option (String × String) :=
  match line.accounts, line.instruction with
  | some accounts, some instruction => some (accounts, instruction)
  | _, _ => none

/-- The batches that a command line asks for. -/
def batches (line : CommandLine) (processors : Nat) (h : 0 < processors) : BatchSettings :=
  .of line.batchSize line.maxConcurrent processors h

/-- The desk of a command line on a given day, with a gateway that agrees to everything. -/
def desk (line : CommandLine) (today : Date) : Desk :=
  .ofSettings line.supported line.policy (line.today.getD today) .acceptAll

end CommandLine

/-! ## Jobs -/

/-- What a command line asks for. -/
inductive Job where
  | single (accounts instruction : String) (accountsOut : Option String)
  | inOrder (input : String)
  | inBatches (input : String) (settings : BatchSettings)

/-- What a command line asks for, if it names anything to read. -/
def CommandLine.job? (line : CommandLine) (processors : Nat) (h : 0 < processors) : Option Job :=
  match line.single?, line.input with
  | some (accounts, instruction), _ => some (.single accounts instruction line.accountsOut)
  | none, some input =>
    match line.strategy with
    | .inOrder => some (.inOrder input)
    | .inBatches => some (.inBatches input (line.batches processors h))
  | none, none => none

namespace Job

/-- The path that a job reads. -/
def path : Job → String
  | .single accounts _ _ => accounts
  | .inOrder input => input
  | .inBatches input _ => input

/-- The path that a job writes a table to. -/
def tablePath? : Job → Option String
  | .single _ _ accountsOut => accountsOut
  | .inOrder _ | .inBatches _ _ => none

/-- The run of a job on what its path leads to. -/
def run (desk : Desk) (machine : Machine) (source : Source) : Job → Run
  | .single accounts instruction accountsOut =>
    .single desk accounts source instruction.toList accountsOut.isSome
  | .inOrder input => .inOrder desk input source
  | .inBatches input settings => .inBatches desk machine settings input source

end Job

end Remittance
