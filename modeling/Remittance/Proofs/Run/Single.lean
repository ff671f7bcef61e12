import Remittance.Proofs.Desk.SignedZero
import Remittance.Proofs.Request
import Remittance.Proofs.Request.Encoding
import Remittance.Reply
import Remittance.Run
/-!
# One instruction, by a table or by a request

An instruction reaches a desk on a table of accounts or in a request that lists them. What the run on
the table writes is the reply to the request (`Run.single_agrees_with_reply`). Both ways read the
accounts from text, so both lose the sign of a zero.
-/

namespace Remittance

variable {desk : Desk} {bytes : List UInt8} {accounts : List Account} {instruction : String}

/-- The blanks around an instruction do not matter. -/
lemma Desk.process_trim (desk : Desk) (accounts : List Account) (instruction : List Char) :
    desk.process accounts (Text.trim instruction) = desk.process accounts instruction := by
  have happrove : desk.approve accounts (Text.trim instruction) =
      desk.approve accounts instruction := by
    rw [approve_eq, approve_eq, Instruction.read_trim]
  rw [process, process, happrove]

/-! ## By a request -/

/-- The request to carry out an instruction on these accounts. -/
def Request.ofAccounts (accounts : List Account) (instruction : String) : Request :=
  ⟨accounts.map Account.entry, instruction⟩

/-- The text of a request is read as a request that passes the checks. -/
lemma Request.readChecked_ofAccounts (hbalances : ∀ a ∈ accounts, a.balance.NonNegative)
    (hinstruction : Text.trim instruction.toList ≠ []) :
    readChecked (ofAccounts accounts instruction).json.render =
      .ok ⟨accounts.map Account.unsignZero, Text.trim instruction.toList⟩ := by
  have hentries : (ofAccounts accounts instruction).unsignZeros =
      ofAccounts (accounts.map Account.unsignZero) instruction := by
    unfold unsignZeros ofAccounts
    rw [List.map_map, List.map_map]
    rfl
  have hunsigned : ∀ a ∈ accounts.map Account.unsignZero, a.balance.NonNegative := by
    rw [List.forall_mem_map]
    intro a ha
    exact a.balance.nonNegative_unsignZero.mpr (hbalances a ha)
  rw [readChecked, read_render, hentries]
  exact check_eq_ok_iff.mpr ⟨rfl, hunsigned, rfl, hinstruction⟩

/-- The reply to a request is the response to its instruction, save for the signs of zeros. -/
theorem Desk.reply_ofAccounts (desk : Desk) (hbalances : ∀ a ∈ accounts, a.balance.NonNegative)
    (hinstruction : Text.trim instruction.toList ≠ []) :
    desk.reply (Request.ofAccounts accounts instruction).json.render =
      (desk.process accounts instruction.toList).unsignZeros.envelope := by
  rw [reply, Request.readChecked_ofAccounts hbalances hinstruction, ← process_unsignZeros,
    ← process_trim]
  rfl

/-! ## By a table -/

namespace Run

/-- A run on a table that can be read writes the response to the instruction. -/
lemma single_of_read (hread : AccountTable.read bytes = .ok accounts) (desk : Desk) (path : String)
    (instruction : List Char) (wantsTable : Bool) :
    single desk path (.file bytes) instruction wantsTable =
      ⟨[(desk.process accounts instruction).envelope],
        if wantsTable then some (snapshotsAfter accounts (desk.process accounts instruction))
        else none, .ok ()⟩ := by
  simp only [single, Source.content?, onContent, AccountTable.readContent, hread, instructionOn,
    Desk.process_trim]

/-- The run on a table of accounts writes what the request with the same accounts is replied to. Both
are the response to the instruction on these accounts, in which a zero with a sign is told without
it; where no balance is such a zero, they are this response. -/
theorem single_agrees_with_reply (desk : Desk) (path : String) (wantsTable : Bool)
    (hbalances : ∀ a ∈ accounts, a.balance.NonNegative)
    (hinstruction : Text.trim instruction.toList ≠ [])
    (htable : AccountTable.Tabulates accounts bytes) :
    let reply := desk.reply (Request.ofAccounts accounts instruction).json.render
    let run := single desk path (.file bytes) instruction.toList wantsTable
    let outcome := desk.process accounts instruction.toList
    run.result = .ok () ∧ run.replies = [reply] ∧ run.output = reply.line ∧
      reply = outcome.unsignZeros.envelope ∧
      ((∀ a ∈ accounts, a.balance.negative = true → a.balance.magnitude ≠ 0) →
        reply = outcome.envelope) := by
  intro reply run outcome
  have hreply : reply = outcome.unsignZeros.envelope :=
    desk.reply_ofAccounts hbalances hinstruction
  have hprocess := desk.process_unsignZeros accounts instruction.toList
  have hrun : run.result = .ok () ∧ run.replies = [reply] := by
    have hread := AccountTable.read_of_tabulates htable hbalances
    rw [hreply, ← hprocess]
    show (single _ _ _ _ _).result = _ ∧ (single _ _ _ _ _).replies = _
    rw [single_of_read hread]
    exact ⟨rfl, rfl⟩
  refine ⟨hrun.1, hrun.2, ?_, hreply, fun hsigns => ?_⟩
  · rw [output, hrun.2]
    exact List.append_nil _
  · rw [hreply, ← hprocess, Account.map_unsignZero_eq_self hsigns]

/-- An instruction over two lines, on a table with its columns in another order. -/
theorem single_agrees_with_reply_on_two_lines :
    let desk := Desk.ofSettings Currency.defaults .reserveDebit
      ⟨2030, 6, 15, by decide, by decide, by decide⟩ .acceptAll
    let accounts : List Account := [
      ⟨⟨"A", by decide, by decide⟩, ⟨false, 1050, 2, by decide, by decide⟩, .ngn⟩,
      ⟨⟨"B", by decide, by decide⟩, ⟨false, 0, 2, by decide, by decide⟩, .ngn⟩]
    let bytes := Text.Utf8.encode "currency,id,balance\nNGN,A,10.50\nNGN,B,0.00\n".toList
    let instruction := " DEBIT A 6\r\nCREDIT B 6\n"
    let reply := desk.reply (Request.ofAccounts accounts instruction).json.render
    (single desk "accounts.csv" (.file bytes) instruction.toList true).replies = [reply] ∧
      reply = (desk.process accounts instruction.toList).envelope ∧
      reply.status = .transfer .successful := by
  intro desk accounts bytes instruction reply
  have htable : AccountTable.Tabulates accounts bytes := by
    have hprinted : ∀ texts ∈ [["currency", "id", "balance"], ["NGN", "A", "10.50"],
        ["NGN", "B", "0.00"]], AccountTable.Printed texts := by
      unfold AccountTable.Printed
      decide +kernel
    refine AccountTable.tabulates_rowChars (by decide) hprinted ?_
    exact .cons ⟨rfl, by decide +kernel, by decide +kernel, by decide +kernel⟩
      (.cons ⟨rfl, by decide +kernel, by decide +kernel, by decide +kernel⟩ .nil)
  have hbalances : ∀ a ∈ accounts, a.balance.NonNegative := by decide +kernel
  have hinstruction : Text.trim instruction.toList ≠ [] := by decide +kernel
  obtain ⟨-, hreplies, -, -, hsame⟩ :=
    single_agrees_with_reply desk "accounts.csv" true hbalances hinstruction htable
  have hreply : reply = (desk.process accounts instruction.toList).envelope :=
    hsame (by decide +kernel)
  refine ⟨hreplies, hreply, ?_⟩
  rw [hreply]
  decide +kernel

/-- The balance of an account that no money enters or leaves is a zero with a sign, which a text
below zero is read as. The reply to the request tells it without the sign. -/
theorem single_agrees_with_reply_not_signed_zero :
    let desk := Desk.ofSettings Currency.defaults .reserveDebit
      ⟨2030, 6, 15, by decide, by decide, by decide⟩ .acceptAll
    let accounts : List Account := [
      ⟨⟨"A", by decide, by decide⟩, ⟨false, 10, 0, by decide, by decide⟩, .ngn⟩,
      ⟨⟨"B", by decide, by decide⟩, .zero, .ngn⟩,
      ⟨⟨"C", by decide, by decide⟩, ⟨true, 0, 28, by decide, by decide⟩, .ngn⟩]
    let instruction := "DEBIT A 1; CREDIT B 1"
    let line := (Request.ofAccounts accounts instruction).json.render
    Decimal.read? "-0.4e-28".toList = some ⟨true, 0, 28, by decide, by decide⟩ ∧
      (∀ a ∈ accounts, a.balance.NonNegative) ∧ Text.trim instruction.toList ≠ [] ∧
      desk.reply line ≠ (desk.process accounts instruction.toList).envelope := by
  intro desk accounts instruction line
  have hbalances : ∀ a ∈ accounts, a.balance.NonNegative := by decide +kernel
  have hinstruction : Text.trim instruction.toList ≠ [] := by decide +kernel
  refine ⟨by decide +kernel, hbalances, hinstruction, ?_⟩
  rw [desk.reply_ofAccounts hbalances hinstruction]
  decide +kernel

end Run

end Remittance
