import Remittance.Proofs.Envelope.Data
import Remittance.Proofs.Json.Record
import Remittance.Proofs.MoneyText
import Remittance.Request.Encoding
/-!
# Requests are read as they are written

A request is read back from its JSON, whatever its texts hold (`Request.read_render`). Its balances
keep their values and their scales, but a zero comes back without a sign.
-/

namespace Remittance

/-- The same entry, with a zero without a sign for a zero with one. -/
def AccountEntry.unsignZero (entry : AccountEntry) : AccountEntry :=
  { entry with balance := entry.balance.unsignZero }

/-- A decimal is read from its own number, save for the sign of a zero. -/
lemma Decimal.readsAs_json (a : Decimal) : Json.ReadsAs reader a.json a.unsignZero := by
  intro rest hrest
  obtain ⟨c, behind, step, hchars, hblank, harray, hobject, hscalar, _, rfl⟩ :=
    Json.exists_readScalar?_number a.numeral_toChars hrest
  have htext : read a.toChars = .ok a.unsignZero := read?_eq_some_iff.mp a.read?_toChars
  have hrender : a.json.render ++ rest = c :: (behind ++ rest) := by
    rw [json, Json.render, hchars, List.cons_append]
  rw [hrender, reader, Json.gives_afterBlanks, Json.skipBlanks_cons hblank]
  simp only [harray, hobject, if_false, hscalar, ofScalar, ofText, htext]
  exact Json.gives_ok _

lemma readsAs_readString (expected text : String) :
    Json.ReadsAs (Json.readString expected) (.string text) text :=
  fun rest _ => Json.gives_readString expected text rest

/-- An entry is read from its own record, save for the sign of a zero. -/
lemma AccountEntry.readsAs_json (entry : AccountEntry) :
    Json.ReadsAs shape.read entry.json entry.unsignZero := by
  intro rest _
  have hfills : shape.Fills shape.start
      [("id", .string entry.id), ("balance", entry.balance.json),
        ("currency", .string entry.currency)]
      ⟨some entry.id, some entry.balance.unsignZero, some entry.currency⟩ :=
    .cons rfl rfl (Json.Field.puts_of (readsAs_readString _ entry.id)) <|
    .cons rfl rfl (Json.Field.puts_of entry.balance.readsAs_json) <|
    .cons rfl rfl (Json.Field.puts_of (readsAs_readString _ entry.currency)) .nil
  exact Json.Shape.gives_read rest hfills rfl

lemma AccountEntry.writable_json (depth : ℕ) (entry : AccountEntry) :
    Json.Writable (depth + 1) entry.json :=
  .object <| by simp [Json.Writable.string, Decimal.writable_json]

namespace Request

/-- The same request, with a zero without a sign for each zero with one. -/
def unsignZeros (request : Request) : Request :=
  { request with accounts := request.accounts.map AccountEntry.unsignZero }

/-- A request is read back from its own text, save for the signs of zeros. -/
theorem read_render (request : Request) : read request.json.render = .ok request.unsignZeros := by
  have haccounts : Json.ReadsAs (Json.readSequence AccountEntry.shape.read)
      (.array (request.accounts.map AccountEntry.json))
      (request.accounts.map AccountEntry.unsignZero) := by
    have hwritable : ∀ v ∈ request.accounts.map AccountEntry.json, Json.Writable 1 v :=
      List.forall_mem_map.mpr fun entry _ => entry.writable_json 0
    apply Json.readsAs_readSequence hwritable
    rw [List.forall₂_map_left_iff, List.forall₂_map_right_iff]
    exact List.forall₂_same.mpr fun entry _ => entry.readsAs_json
  have hfills : shape.Fills shape.start
      [("accounts", .array (request.accounts.map AccountEntry.json)),
        ("instruction", .string request.instruction)]
      ⟨some (request.accounts.map AccountEntry.unsignZero), some request.instruction⟩ :=
    .cons rfl rfl (Json.Field.puts_of haccounts) <|
    .cons rfl rfl (Json.Field.puts_of (readsAs_readString _ request.instruction)) .nil
  have hread := Json.Shape.gives_read [] hfills rfl
  rw [List.append_nil] at hread
  obtain ⟨_, hread⟩ := hread
  simp only [read, Json.readWhole, json, hread, bind, Except.bind]
  rfl

end Request

end Remittance
