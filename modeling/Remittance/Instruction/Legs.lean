import Remittance.Instruction.Word
/-!
# Instructions as clauses

The clauses of an instruction stand in any order: one leg for each side of the transfer, and
perhaps the day of settlement.

    DEBIT <account> <amount> [currency]
    CREDIT <account> <amount> [currency]
    ON <date>

* `Legs.add` takes in one more clause; the clauses are read from the left.
* `Legs.order` joins the two legs, which have to agree, into one order.
-/

namespace Remittance.Instruction

/-- One side of a transfer as a clause states it. -/
structure Leg where
  account : AccountId
  amount : Decimal
  /-- The currency, where the clause states one. -/
  currency : Option Currency
deriving DecidableEq

/-- Reads the words of a leg, its keyword first. -/
def Leg.read (side : Side) : List Word → Except Fault Leg
  | [_, account, amount] => do
    let account ← readAccountId account
    let amount ← readAmount amount
    return ⟨account, amount, none⟩
  | [_, account, amount, currency] => do
    let account ← readAccountId account
    let amount ← readAmount amount
    let currency ← readCurrency currency
    return ⟨account, amount, some currency⟩
  | _ => .error (.malformed (.leg side))

/-- Reads the words of the clause of the day, its keyword first. -/
def readDayClause : List Word → Except Fault Date
  | [_, date] => readDate date
  | _ => .error (.malformed .settlementDay)

/-- What the clauses read so far state. -/
structure Legs where
  /-- The side of the first leg. -/
  first : Option Side
  debit : Option Leg
  credit : Option Leg
  /-- The day of settlement. -/
  day : Option Date
deriving DecidableEq

namespace Legs

/-- No clause read yet. -/
def none : Legs := ⟨.none, .none, .none, .none⟩

/-- The leg of a side. -/
def leg? (legs : Legs) : Side → Option Leg
  | .debit => legs.debit
  | .credit => legs.credit

/-- The legs with the leg of one side filled in. -/
def withLeg (legs : Legs) (side : Side) (leg : Leg) : Legs :=
  let first := some (legs.first.getD side)
  match side with
  | .debit => { legs with first := first, debit := some leg }
  | .credit => { legs with first := first, credit := some leg }

/-- Takes in one more clause. -/
def add (legs : Legs) : List Word → Except Fault Legs
  | [] => .ok legs
  | head :: rest =>
    match head.side? with
    | some side =>
      if (legs.leg? side).isSome then .error (.repeatedClause (.leg side))
      else do
        let leg ← Leg.read side (head :: rest)
        return legs.withLeg side leg
    | .none =>
      if head.isKeyword "ON" then
        if legs.day.isSome then .error (.repeatedClause .day)
        else do
          let day ← readDayClause (head :: rest)
          return { legs with day := some day }
      else .error (.malformed (.unknownClause (String.ofList head)))

/-- Takes in clauses from the left. -/
def addAll (legs : Legs) (clauses : List (List Word)) : Except Fault Legs := clauses.foldlM add legs

/-- The currency of two legs, which state the same one if both state any. -/
def currency (debit credit : Leg) : Except Fault (Option Currency) :=
  match debit.currency, credit.currency with
  | some d, some c => if d = c then .ok (some d) else .error (.currencyMismatch d c)
  | some d, .none => .ok (some d)
  | .none, c => .ok c

/-- The order that two legs ask for; its amount is written as in the leg of the debit. -/
def join (side : Side) (debit credit : Leg) (day : Option Date) : Except Fault TransferOrder :=
  if debit.amount.SameValue credit.amount then do
    let currency ← Legs.currency debit credit
    return ⟨side, debit.account, credit.account, debit.amount, currency, day⟩
  else .error (.amountMismatch debit.amount credit.amount)

/-- The order that the clauses ask for. -/
def order (legs : Legs) : Except Fault TransferOrder :=
  match legs.debit, legs.credit with
  | .none, _ => .error (.missingClause .debit)
  | _, .none => .error (.missingClause .credit)
  | some debit, some credit => join (legs.first.getD .debit) debit credit legs.day

end Legs

/-- Reads an instruction in clauses. -/
def readClauses (clauses : List (List Word)) : Except Fault TransferOrder := do
  let legs ← Legs.none.addAll clauses
  legs.order

end Remittance.Instruction
