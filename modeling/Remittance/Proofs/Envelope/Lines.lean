import Mathlib.Data.List.Forall2
import Remittance.Desk
import Remittance.Proofs.Envelope.Data
import Remittance.Proofs.Json.Record
import Remittance.Proofs.Text.Utf8
/-!
# Responses are read as they are written

Every response is read back from its text (`Envelope.read_render`), and its text is one line. So the
responses that were written one after another are the pieces between the line breaks
(`Envelope.lines_read_back`).
-/

namespace Remittance

/-! ## The parts of an envelope -/

lemma EnvelopeStatus.gives_reader (status : EnvelopeStatus) (rest : List Char) :
    Json.Gives (reader (Json.quote status.text ++ rest)) status rest := by
  have hfind : all.find? (·.text == status.text) = some status := by
    cases status with
    | transfer status => cases status <;> rfl
    | error => rfl
  have hname : Json.Gives (readName (Json.quote status.text ++ rest)) status rest := by
    obtain ⟨_, hname⟩ := Json.gives_readString "variant identifier" status.text rest
    simp only [readName, hname, hfind, bind, Except.bind]
    exact Json.gives_ok _
  rw [Json.quote_append] at hname ⊢
  rw [reader, Json.gives_afterBlanks, Json.skipBlanks_cons rfl]
  exact hname

lemma ResponseData.gives_reader (data : ResponseData) {rest : List Char}
    (hrest : Json.EndsNumber rest) :
    Json.Gives (reader (data.json.render ++ rest)) data.unsignZeros rest := by
  have hwritable : Json.Writable maxDepth data.json := data.writable_json 122
  obtain ⟨_, htree⟩ := Json.gives_readTree hwritable rest hrest
  simp only [reader, htree, data.ofJson?_json, bind, Except.bind]
  exact Json.gives_ok _

namespace Envelope

/-- The same response, with a zero without a sign for each zero with one. -/
def unsignZeros (e : Envelope) : Envelope := { e with data := e.data.unsignZeros }

/-- The amount and the balances that a response reports. -/
def decimals (e : Envelope) : List Decimal :=
  match e.data with
  | .report summary =>
    summary.amount :: summary.accounts.flatMap fun s => [s.balance, s.balanceBefore]
  | .errorList _ => []

/-- Only zeros with a sign are changed. -/
lemma unsignZeros_eq_self {e : Envelope}
    (h : ∀ a ∈ e.decimals, a.negative = true → a.magnitude ≠ 0) : e.unsignZeros = e := by
  have hself : ∀ a ∈ e.decimals, a.unsignZero = a := fun a ha => Decimal.unsignZero_eq_self (h a ha)
  obtain ⟨httpStatus, status, message, data⟩ := e
  cases data with
  | errorList errors => rfl
  | report summary =>
    obtain ⟨hamount, haccounts⟩ := List.forall_mem_cons.mp hself
    have hmap : summary.accounts.map Snapshot.unsignZeros = summary.accounts := by
      refine (List.map_congr_left fun s hs => ?_).trans (List.map_id _)
      have hbalance := haccounts s.balance (List.mem_flatMap.mpr ⟨s, hs, by simp⟩)
      have hbefore := haccounts s.balanceBefore (List.mem_flatMap.mpr ⟨s, hs, by simp⟩)
      rw [Snapshot.unsignZeros, hbalance, hbefore]
      rfl
    rw [unsignZeros, ResponseData.unsignZeros, Summary.unsignZeros, hamount, hmap]

/-- The body of a response is read back from its text. -/
lemma gives_readBody (e : Envelope) (rest : List Char) :
    Json.Gives (ResponseBody.shape.read ((Json.object [("status", .string e.status.text),
      ("message", .string e.message), ("data", e.data.json)]).render ++ rest))
      ⟨e.status, e.message, e.data.unsignZeros⟩ rest := by
  have hfills : ResponseBody.shape.Fills ResponseBody.shape.start
      [("status", .string e.status.text), ("message", .string e.message), ("data", e.data.json)]
      ⟨some e.status, some e.message, some e.data.unsignZeros⟩ :=
    .cons rfl rfl (Json.Field.puts_of fun rest _ => e.status.gives_reader rest) <|
    .cons rfl rfl (Json.Field.puts_of fun rest _ => Json.gives_readString _ e.message rest) <|
    .cons rfl rfl (Json.Field.puts_of fun _ hrest => e.data.gives_reader hrest) .nil
  exact Json.Shape.gives_read rest hfills rfl

/-- A response is read back from its text. -/
theorem read_render {e : Envelope} (h : e.httpStatus < UInt16.size) :
    read e.json.render = .ok e.unsignZeros := by
  have hfills : shape.Fills shape.start
      [("http_status", .number (Nat.toDigits 10 e.httpStatus)),
        ("body", .object [("status", .string e.status.text), ("message", .string e.message),
          ("data", e.data.json)])]
      ⟨some e.httpStatus, some ⟨e.status, e.message, e.data.unsignZeros⟩⟩ :=
    .cons rfl rfl (Json.Field.puts_of fun _ hrest =>
      Json.gives_readUnsigned "u16" h (by decide) hrest) <|
    .cons rfl rfl (Json.Field.puts_of fun rest _ => e.gives_readBody rest) .nil
  have hread := Json.Shape.gives_read [] hfills rfl
  rw [List.append_nil] at hread
  obtain ⟨_, hread⟩ := hread
  simp only [read, Json.readWhole, json, hread, bind, Except.bind]
  rfl

/-! ## Lines -/

/-- A response can be written. -/
lemma writable_json (e : Envelope) : Json.Writable 5 e.json := by
  have hbody : Json.Writable 4 (.object [("status", .string e.status.text),
      ("message", .string e.message), ("data", e.data.json)]) :=
    .object (by simpa [Json.Writable.string] using e.data.writable_json 0)
  exact .object (by simpa [Json.Writable.number (Json.numeral_toDigits _)] using hbody)

/-- The bytes of a response without the line break behind it. -/
def bytes (e : Envelope) : List UInt8 := Text.Utf8.encode e.json.render

/-- A response is written as one line: its only line break is its last byte. -/
theorem encode_line (e : Envelope) :
    Text.Utf8.encode e.line = e.bytes ++ [10] ∧ 10 ∉ e.bytes := by
  constructor
  · rw [line, Text.Utf8.encode_append]
    rfl
  · intro hmem
    exact Json.line_break_notMem_render e.writable_json (Text.Utf8.line_break_mem_encode hmem)

/-- Between the line breaks of responses that were written one after another stand the responses. -/
theorem splitOn_encode_lines (es : List Envelope) :
    (Text.Utf8.encode (lines es)).splitOn 10 = es.map bytes ++ [[]] := by
  induction es with
  | nil => rfl
  | cons e es ih =>
    obtain ⟨hline, hfree⟩ := e.encode_line
    have hsplit : Text.Utf8.encode (lines (e :: es)) =
        e.bytes ++ 10 :: Text.Utf8.encode (lines es) := by
      rw [lines, List.flatMap_cons, Text.Utf8.encode_append, hline, List.append_assoc]
      rfl
    have hpiece : e.bytes.splitOn 10 = [e.bytes] := List.splitOn_eq_singleton hfree
    calc (Text.Utf8.encode (lines (e :: es))).splitOn 10
      _ = e.bytes.splitOn 10 ++ (Text.Utf8.encode (lines es)).splitOn 10 := by
        rw [hsplit]
        exact List.splitOnP_append_cons _ _ rfl
      _ = (e :: es).map bytes ++ [[]] := by
        rw [hpiece, ih]
        rfl

/-- Responses to instructions and rejections, written one after another, are read back from the
pieces between the line breaks: one for each piece, in their order, each from a line of its own.
They are the same responses, save that a zero with a sign comes back without it. -/
theorem lines_read_back (es : List Envelope)
    (hes : ∀ e ∈ es, (∃ outcome : Outcome, e = outcome.envelope) ∨ ∃ errors, e = rejection errors) :
    (∃ pieces, (Text.Utf8.encode (lines es)).splitOn 10 = pieces ++ [[]] ∧
      List.Forall₂ (fun e piece => ∃ text, Text.Utf8.decode piece = .ok text ∧
        read text = .ok e.unsignZeros ∧
        ((∀ a ∈ e.decimals, a.negative = true → a.magnitude ≠ 0) → read text = .ok e)) es pieces) ∧
    ∀ e ∈ es, ∃ body, Text.Utf8.encode e.line = body ++ [10] ∧ 10 ∉ body := by
  refine ⟨⟨es.map bytes, splitOn_encode_lines es, ?_⟩, fun e _ => ⟨e.bytes, e.encode_line⟩⟩
  refine List.forall₂_map_right_iff.mpr (List.forall₂_same.mpr fun e he => ?_)
  have hstatus : e.httpStatus < UInt16.size := by
    have hnumbers : 200 < UInt16.size ∧ 400 < UInt16.size := by decide
    rcases hes e he with ⟨outcome, rfl⟩ | ⟨errors, rfl⟩
    · unfold Outcome.envelope
      split
      · exact hnumbers.1
      · exact hnumbers.2
    · exact hnumbers.2
  have hread := read_render hstatus
  refine ⟨e.json.render, Text.Utf8.decode_encode _, hread, fun h => ?_⟩
  rw [hread, unsignZeros_eq_self h]

/-- A scheduled transfer, and an error with quotes and a line break in its message. -/
theorem lines_read_back_report_and_errors :
    let id : AccountId := ⟨"A", by decide, by decide⟩
    let other : AccountId := ⟨"B", by decide, by decide⟩
    let amount : Decimal := ⟨false, 1050, 2, by decide, by decide⟩
    let day : Date := ⟨2030, 6, 16, by decide, by decide, by decide⟩
    let report := processed ⟨.debit, amount, .ngn, id, other, some day, .pending,
      "Transaction scheduled for future execution", .scheduled,
      [⟨id, .zero, amount, .ngn⟩, ⟨other, .zero, .zero, .ngn⟩]⟩
    let errors := rejection [⟨"instruction", "unknown clause \"€\n\"", .malformedInstruction⟩]
    ∃ first second, (Text.Utf8.encode (lines [report, errors])).splitOn 10 = [first, second, []] ∧
      (∃ text, Text.Utf8.decode first = .ok text ∧ read text = .ok report) ∧
      ∃ text, Text.Utf8.decode second = .ok text ∧ read text = .ok errors := by
  intro id other amount day report errors
  have hes : ∀ e ∈ [report, errors],
      (∃ outcome : Outcome, e = outcome.envelope) ∨ ∃ errors, e = rejection errors := by
    intro e he
    simp only [List.mem_cons, List.not_mem_nil, or_false] at he
    rcases he with rfl | rfl
    · exact .inl ⟨⟨.ok _, 0⟩, rfl⟩
    · exact .inr ⟨_, rfl⟩
  obtain ⟨⟨pieces, hsplit, hpieces⟩, -⟩ := lines_read_back [report, errors] hes
  obtain ⟨first, _, ⟨text, hdecode, -, hreport⟩, hrest, rfl⟩ :=
    List.forall₂_cons_left_iff.mp hpieces
  obtain ⟨second, _, ⟨text', hdecode', -, herrors⟩, hnil, rfl⟩ :=
    List.forall₂_cons_left_iff.mp hrest
  obtain rfl := List.forall₂_nil_left_iff.mp hnil
  exact ⟨first, second, hsplit, ⟨text, hdecode, hreport (by decide +kernel)⟩,
    ⟨text', hdecode', herrors (by decide +kernel)⟩⟩

/-- The balance of an account that no money enters or leaves is a zero with a sign, which a text
below zero is read as. The response comes back without the sign. -/
theorem lines_read_back_not_signed_zero :
    let desk := Desk.ofSettings Currency.defaults .reserveDebit
      ⟨2030, 6, 15, by decide, by decide, by decide⟩ .acceptAll
    let accounts : List Account := [
      ⟨⟨"A", by decide, by decide⟩, ⟨false, 10, 0, by decide, by decide⟩, .ngn⟩,
      ⟨⟨"B", by decide, by decide⟩, .zero, .ngn⟩,
      ⟨⟨"C", by decide, by decide⟩, ⟨true, 0, 28, by decide, by decide⟩, .ngn⟩]
    let e := (desk.process accounts "DEBIT A 1; CREDIT B 1".toList).envelope
    Decimal.read? "-0.4e-28".toList = some ⟨true, 0, 28, by decide, by decide⟩ ∧
      ∃ piece text, (Text.Utf8.encode (lines [e])).splitOn 10 = [piece, []] ∧
        Text.Utf8.decode piece = .ok text ∧ read text = .ok e.unsignZeros ∧
        e.unsignZeros ≠ e := by
  intro desk accounts e
  have hsplit : (Text.Utf8.encode (lines [e])).splitOn 10 = [e.bytes, []] :=
    splitOn_encode_lines [e]
  exact ⟨by decide +kernel, e.bytes, e.json.render, hsplit, Text.Utf8.decode_encode _,
    read_render (by decide +kernel), by decide +kernel⟩

end Envelope

end Remittance
