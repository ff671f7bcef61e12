import Remittance.Instruction.Fault
/-!
# The words of an instruction

How single words are read, and how a text is cut into clauses and words.

* `readAmount`, `readAccountId`, `readCurrency` and `readDate` read one word each; their fault
  carries the word as it is written.
* `clauses` cuts a text at semicolons and line breaks, and each piece into words.
-/

namespace Remittance.Instruction

/-- A word of an instruction. -/
abbrev Word := List Char

/-- The word is the keyword, in whatever case. -/
def Word.isKeyword (w : Word) (keyword : String) : Bool := Text.sameIgnoringCase w keyword.toList

/-- The side whose keyword the word is. -/
def Word.side? (w : Word) : Option Side :=
  if w.isKeyword Side.debit.keyword then some .debit
  else if w.isKeyword Side.credit.keyword then some .credit
  else none

/-! ## Reading one word -/

/-- One or more digits. -/
def isNumeral (cs : List Char) : Bool := !cs.isEmpty && cs.all Char.isDigit

/-- Digits, or digits with a point between them: the form of an amount. -/
def Word.isAmount (w : Word) : Bool :=
  isNumeral (w.takeWhile (· != '.')) &&
    match w.dropWhile (· != '.') with
    | [] => true
    | _ :: fraction => isNumeral fraction

/-- Reads an amount: a plain number without a sign. -/
def readAmount (w : Word) : Except Fault Decimal :=
  match if w.isAmount then Decimal.read? w else none with
  | some amount => .ok amount
  | none => .error (.invalidAmount (String.ofList w))

/-- Reads an account id. -/
def readAccountId (w : Word) : Except Fault AccountId :=
  match AccountId.ofString? (String.ofList w) with
  | some id => .ok id
  | none => .error (.invalidAccountId (String.ofList w))

/-- Reads a currency code, in whatever case. -/
def readCurrency (w : Word) : Except Fault Currency :=
  match Currency.ofString? (String.ofList (w.map Char.toUpper)) with
  | some currency => .ok currency
  | none => .error (.invalidCurrency (String.ofList w))

/-- Reads a date, which takes ten bytes. -/
def readDate (w : Word) : Except Fault Date :=
  match if (String.ofList w).utf8ByteSize = 10 then Date.read? w else none with
  | some date => .ok date
  | none => .error (.invalidDate (String.ofList w))

/-! ## Cutting a text -/

/-- The characters that end a clause. -/
def endsClause (c : Char) : Bool := c == ';' || c == '\n' || c == '\r'

/-- The clauses of a text, each as its words; a clause without a word is left out. -/
def clauses (cs : List Char) : List (List Word) :=
  ((Text.runs endsClause cs).map Text.words).filter (!·.isEmpty)

end Remittance.Instruction
