import Remittance.Instruction.Word
/-!
# Instructions as sentences

A sentence tells a transfer from one of its sides:

    DEBIT <amount> <currency> FROM ACCOUNT <id> FOR CREDIT TO ACCOUNT <id> [ON <date>]
    CREDIT <amount> <currency> TO ACCOUNT <id> FOR DEBIT FROM ACCOUNT <id> [ON <date>]

* `isSentence` recognises a sentence by the two words that join its halves.
* `Sentence.ofWords?` finds the words that matter, and `readSentence` reads them.
-/

namespace Remittance.Instruction

/-- Somewhere in the words, the keyword of a side stands behind `FOR`. -/
def isSentence : List Word → Bool
  | a :: b :: rest => (a.isKeyword "FOR" && b.side?.isSome) || isSentence (b :: rest)
  | _ => false

/-- The preposition in front of the account of a side. -/
def preposition : Side → String
  | .debit => "FROM"
  | .credit => "TO"

/-- The words of a sentence that its fixed words leave open. -/
structure Sentence where
  /-- The side that the sentence starts with. -/
  side : Side
  amount : Word
  currency : Word
  /-- The account of the side that the sentence starts with. -/
  ownAccount : Word
  /-- The account of the other side. -/
  otherAccount : Word
  /-- What follows the second account. -/
  rest : List Word

namespace Sentence

/-- The word for the account that the money leaves. -/
def debitAccount (s : Sentence) : Word :=
  match s.side with
  | .debit => s.ownAccount
  | .credit => s.otherAccount

/-- The word for the account that the money enters. -/
def creditAccount (s : Sentence) : Word :=
  match s.side with
  | .debit => s.otherAccount
  | .credit => s.ownAccount

/-- The fixed words of a sentence stand where they belong. -/
def hasFrame (side : Side) (prep account join other prep' account' : Word) : Bool :=
  prep.isKeyword (preposition side) && account.isKeyword "ACCOUNT" && join.isKeyword "FOR" &&
    other.isKeyword side.opposite.keyword && prep'.isKeyword (preposition side.opposite) &&
    account'.isKeyword "ACCOUNT"

/-- The sentence that the words form. -/
def ofWords? : List Word → Option Sentence
  | head :: amount :: currency :: prep :: account :: own :: join :: other :: prep' :: account' ::
      counter :: rest =>
    match head.side? with
    | some side =>
      if hasFrame side prep account join other prep' account' then
        some ⟨side, amount, currency, own, counter, rest⟩
      else none
    | none => none
  | _ => none

/-- Reads what follows the second account: nothing, or the day of settlement. -/
def readDay : List Word → Except Fault (Option Date)
  | [] => .ok none
  | [on, date] =>
    if on.isKeyword "ON" then some <$> readDate date else .error (.malformed .sentence)
  | _ => .error (.malformed .sentence)

/-- Reads the words that a sentence leaves open. -/
def read (s : Sentence) : Except Fault TransferOrder := do
  let amount ← readAmount s.amount
  let currency ← readCurrency s.currency
  let debitAccount ← readAccountId s.debitAccount
  let creditAccount ← readAccountId s.creditAccount
  let executeBy ← readDay s.rest
  return ⟨s.side, debitAccount, creditAccount, amount, some currency, executeBy⟩

end Sentence

/-- Reads the words of a sentence. -/
def readSentence (words : List Word) : Except Fault TransferOrder :=
  match Sentence.ofWords? words with
  | some sentence => sentence.read
  | none => .error (.malformed .sentence)

end Remittance.Instruction
