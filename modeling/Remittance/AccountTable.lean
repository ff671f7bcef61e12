import Remittance.AccountRecord
import Remittance.Csv.Row
import Remittance.FileContent
import Remittance.Text.Blank
/-!
# Tables of accounts

Accounts are read from comma-separated values. The first row names the columns, in any order; of
these, `id`, `balance` and `currency` are used, and blanks around names and fields are dropped.
Every row has as many fields as the first one.

* `AccountTable.read` gives the accounts of a table, or the first fault.
* `AccountTable.readContent` does so for an opened file, which perhaps cannot be read to its end.
* `AccountTable.write` writes accounts as a transfer left them.
-/

namespace Remittance

/-- What is wrong with the columns of a table. -/
inductive ColumnFault where
  | missing (name : String)
  | repeated (name : String)
  /-- A row without named columns has this number of fields and should have more. -/
  | tooFew (size : Nat)
deriving DecidableEq

/-- The wording of a fault. -/
def ColumnFault.message : ColumnFault → String
  | .missing name => s!"missing field \x60{name}\x60"
  | .repeated name => s!"duplicate field \x60{name}\x60"
  | .tooFew size => s!"invalid length {size}, expected struct AccountRecord with 3 elements"

/-- What is wrong with a table of accounts. -/
inductive TableFault where
  /-- A row has another number of fields than the first one. -/
  | unevenRow (place : Csv.Place) (size expected : Nat)
  /-- A field is no text from this byte of it on. -/
  | notText (place : Csv.Place) (field index : Nat)
  | columns (place : Csv.Place) (fault : ColumnFault)
  /-- A record is no account. The line is counted as if every row in front of it took one. -/
  | record (line : Nat) (fault : RecordFault)
  /-- The file cannot be read behind the first row. -/
  | unreadable (fault : FileFault)
deriving DecidableEq

namespace TableFault

/-- The line that a fault is reported on, counted from one. It is zero where no line is named. -/
def line : TableFault → Nat
  | .unevenRow place _ _ | .notText place _ _ | .columns place _ => place.line
  | .record line _ => line
  | .unreadable _ => 0

/-- What stands in a message for the line of a fault. -/
def lineWords (fault : TableFault) : String :=
  if fault.line = 0 then "" else s!" at line {fault.line}"

/-- The wording of a fault. -/
def message : TableFault → String
  | .unevenRow place size expected =>
    s!"CSV error: record {place.row} (line: {place.line}, byte: {place.byte}): " ++
      s!"found record with {size} fields, but the previous record has {expected} fields"
  | .notText place field index =>
    s!"CSV parse error: record {place.row} (line {place.line}, field: {field}, " ++
      s!"byte: {place.byte}): invalid utf-8: invalid UTF-8 in field {field} near byte index {index}"
  | .columns place fault =>
    s!"CSV deserialize error: record {place.row} (line: {place.line}, byte: {place.byte}): " ++
      fault.message
  | .record _ fault => fault.message
  | .unreadable fault => fault.message

end TableFault

namespace AccountTable

/-! ## Fields -/

/-- The blanks among the bytes below `0x80`. -/
def isBlankByte (b : UInt8) : Bool := b == 32 || b == 9 || b == 10 || b == 12 || b == 13

/-- A field without the blank bytes at both of its ends. -/
def trimBytes (field : List UInt8) : List UInt8 :=
  ((field.dropWhile isBlankByte).reverse.dropWhile isBlankByte).reverse

/-- The text of a field, without the blanks at both of its ends. -/
def readField (field : List UInt8) : Except Text.Utf8.Fault String :=
  (Text.Utf8.decode (trimBytes field)).map fun cs => String.ofList (Text.trim cs)

/-- The texts of the fields of a row from this one on. -/
def readFields (place : Csv.Place) (position : Nat) :
    List (List UInt8) → Except TableFault (List String)
  | [] => .ok []
  | field :: fields =>
    match readField field with
    | .error fault => .error (.notText place position fault.index)
    | .ok text => (readFields place (position + 1) fields).map (text :: ·)

/-! ## Columns -/

/-- The columns that are used. -/
def columnNames : List String := ["id", "balance", "currency"]

/-- The first used column that has the name of one in front of it. -/
def repeatedColumn? : List String → Option String
  | names => (names.zipIdx.find? fun (name, i) =>
      columnNames.contains name && (names.take i).contains name).map Prod.fst

/-- The field in the column with this name. -/
def column (names fields : List String) (name : String) : Except ColumnFault String :=
  match (names.zip fields).lookup name with
  | some text => .ok text
  | none => .error (.missing name)

/-- The record in a row, by the names of the columns; without names the columns stand in their own
order. -/
def recordOf (names : Option (List String)) (fields : List String) :
    Except ColumnFault AccountRecord :=
  match names with
  | some names =>
    match repeatedColumn? names with
    | some name => .error (.repeated name)
    | none => do
      let id ← column names fields "id"
      let balance ← column names fields "balance"
      let currency ← column names fields "currency"
      return ⟨id, balance, currency⟩
  | none =>
    match fields with
    | id :: balance :: currency :: _ => .ok ⟨id, balance, currency⟩
    | fields => .error (.tooFew fields.length)

/-! ## Rows -/

/-- The account in a row behind `before` others. -/
def accountOf (size : Nat) (names : Option (List String)) (before : Nat) (row : Csv.Row) :
    Except TableFault Account :=
  if row.fields.length ≠ size then .error (.unevenRow row.place row.fields.length size)
  else do
    let fields ← readFields row.place 0 row.fields
    let record ← (recordOf names fields).mapError (.columns row.place)
    record.account.mapError (.record (before + 2))

/-- The accounts in rows behind `before` others. -/
def accountsOf (size : Nat) (names : Option (List String)) (before : Nat) :
    List Csv.Row → Except TableFault (List Account)
  | [] => .ok []
  | row :: rows => do
    let account ← accountOf size names before row
    let accounts ← accountsOf size names (before + 1) rows
    return account :: accounts

/-- The accounts of a table. A first row that is no text names no columns. -/
def read (bytes : List UInt8) : Except TableFault (List Account) :=
  match Csv.rowsOf bytes with
  | [] => .ok []
  | header :: rows =>
    accountsOf header.fields.length (header.fields.mapM readField).toOption 0 rows

/-- The accounts of a table in a file that cannot be read behind these bytes. A fault behind the first
row is that of the table, unless a row in front of it has one. A fault in front of the end of the
first row goes unnoticed, and no row is read. -/
def readBroken (bytes : List UInt8) (fault : FileFault) : Except TableFault (List Account) :=
  match Csv.closedRowsOf bytes with
  | [] => .ok []
  | header :: rows => do
    let _ ← accountsOf header.fields.length (header.fields.mapM readField).toOption 0 rows
    .error (.unreadable fault)

/-- The accounts of a table in an opened file. -/
def readContent (content : FileContent) : Except TableFault (List Account) :=
  match content.fault with
  | none => read content.bytes
  | some fault => readBroken content.bytes fault

/-! ## Writing -/

/-- A row of fields that need no quotes. -/
def rowChars (fields : List String) : List Char :=
  (",".intercalate fields).toList ++ ['\n']

/-- The row of an account. -/
def snapshotRow (s : Snapshot) : List Char :=
  rowChars [s.id.text, s.balance.toString, s.balanceBefore.toString, s.currency.code]

/-- The table of accounts as a transfer left them. -/
def write (snapshots : List Snapshot) : List Char :=
  rowChars ["id", "balance", "balance_before", "currency"] ++ snapshots.flatMap snapshotRow

end AccountTable

end Remittance
