import Remittance.Instruction.Legs
import Remittance.Instruction.Sentence
/-!
# Reading instructions

An instruction is a sentence or a list of clauses. A sentence may run over several lines as long as
it holds no semicolon; with a semicolon it has to be the only clause.
-/

namespace Remittance.Instruction

/-- Reads an instruction cut into clauses: the only clause may be a sentence. -/
def readCut : List (List Word) → Except Fault TransferOrder
  | [words] => if isSentence words then readSentence words else readClauses [words]
  | clauses => readClauses clauses

/-- Reads an instruction. -/
def read (text : List Char) : Except Fault TransferOrder :=
  let text := Text.trim text
  if text.isEmpty then .error .empty
  else if !text.contains ';' && isSentence (Text.words text) then readSentence (Text.words text)
  else readCut (clauses text)

end Remittance.Instruction
