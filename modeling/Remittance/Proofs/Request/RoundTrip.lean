import Remittance.Proofs.Desk.SignedZero
import Remittance.Proofs.Request.Encoding
/-!
# Requests that are written and read again

A request that is read from the line it is written as is the same one: its texts are the same, and so
are the values and the scales of its balances. It is written as the same line again, unless one of its
balances is a zero with a minus sign (`Request.read_written_line`).
-/

namespace Remittance

/-- The text of a decimal tells the sign of a zero. -/
lemma Decimal.toChars_unsignZero_eq_iff {a : Decimal} :
    a.unsignZero.toChars = a.toChars ↔ (a.negative = true → a.magnitude ≠ 0) := by
  refine ⟨fun htext hnegative hzero => ?_, fun h => by rw [unsignZero_eq_self h]⟩
  have hsigned : a.toChars = '-' :: a.unsignZero.toChars := by
    simp [toChars, unsignZero, hnegative, hzero]
  exact List.cons_ne_self _ _ (hsigned.symm.trans htext.symm)

/-- An entry that matches another one has the same texts, and a balance of the same value and
scale. -/
structure AccountEntry.Matches (entry other : AccountEntry) : Prop where
  id : entry.id = other.id
  value : entry.balance.SameValue other.balance
  scale : entry.balance.scale = other.balance.scale
  currency : entry.currency = other.currency

lemma AccountEntry.matches_unsignZero (entry : AccountEntry) : entry.unsignZero.Matches entry where
  id := rfl
  value := by
    rw [unsignZero, Decimal.SameValue, Decimal.widened, Decimal.widened, Decimal.coeff_unsignZero,
      Decimal.scale_unsignZero]
  scale := Decimal.scale_unsignZero _
  currency := rfl

namespace Request

variable {request : Request}

/-- A request that matches another one has the same instruction and one matching entry for each of
its entries. -/
def Matches (request other : Request) : Prop :=
  request.instruction = other.instruction ∧
    List.Forall₂ AccountEntry.Matches request.accounts other.accounts

/-- No balance is a zero with a minus sign. -/
def SignsNoZero (request : Request) : Prop :=
  ∀ entry ∈ request.accounts, entry.balance.negative = true → entry.balance.magnitude ≠ 0

lemma matches_unsignZeros (request : Request) : request.unsignZeros.Matches request :=
  ⟨rfl, List.forall₂_map_left_iff.mpr
    (List.forall₂_same.mpr fun entry _ => entry.matches_unsignZero)⟩

lemma unsignZeros_eq_self (h : request.SignsNoZero) : request.unsignZeros = request := by
  have hentries : request.accounts.map AccountEntry.unsignZero = request.accounts := by
    refine (List.map_congr_left fun entry hentry => ?_).trans (List.map_id _)
    rw [AccountEntry.unsignZero, Decimal.unsignZero_eq_self (h entry hentry)]
    rfl
  rw [unsignZeros, hentries]

lemma signsNoZero_unsignZeros (request : Request) : request.unsignZeros.SignsNoZero := by
  refine List.forall_mem_map.mpr fun entry _ => ?_
  exact Decimal.toChars_unsignZero_eq_iff.mp
    (congrArg Decimal.toChars entry.balance.unsignZero_unsignZero)

lemma writable_json (request : Request) : Json.Writable 3 request.json := by
  have haccounts : Json.Writable 2 (.array (request.accounts.map AccountEntry.json)) :=
    .array (List.forall_mem_map.mpr fun entry _ => entry.writable_json 0)
  exact .object (by simpa [Json.Writable.string] using haccounts)

/-- Requests that are written alike are the same JSON value. -/
lemma json_eq_of_render_eq {other : Request} (h : request.json.render = other.json.render) :
    request.json = other.json := by
  -- the text of a request is read back as its value, and it has only one reading
  have hread (request : Request) :
      Json.Gives (Json.readTree 3 (request.json.render ++ [])) request.json [] :=
    Json.gives_readTree request.writable_json [] (by simp [Json.EndsNumber])
  have hother := hread other
  rw [← h] at hother
  obtain ⟨_, hrequest⟩ := hread request
  obtain ⟨_, hother⟩ := hother
  exact congrArg Json.Parsed.value (Except.ok.inj (hrequest.symm.trans hother))

/-- The line of a request tells the signs of its zeros. -/
lemma render_unsignZeros_eq_iff :
    request.unsignZeros.json.render = request.json.render ↔ request.SignsNoZero := by
  refine ⟨fun hline entry hentry => ?_, fun h => by rw [unsignZeros_eq_self h]⟩
  have hjson := json_eq_of_render_eq hline
  simp only [json, unsignZeros, List.map_map, Json.object.injEq, List.cons.injEq, Prod.mk.injEq,
    Json.array.injEq, List.map_inj_left, true_and, and_true] at hjson
  have hentry : entry.unsignZero.json = entry.json := hjson entry hentry
  simp only [AccountEntry.json, Json.object.injEq, List.cons.injEq, Prod.mk.injEq, true_and,
    and_true] at hentry
  obtain ⟨-, hbalance, -⟩ := hentry
  exact Decimal.toChars_unsignZero_eq_iff.mp (Json.number.inj hbalance)

/-- A request, whatever text it was read from, is written as one line. What is read from this line
matches it, and from then on the line stays the same. The first line is that one already, unless a
balance is a zero with a minus sign. -/
theorem read_written_line (request : Request) :
    '\n' ∉ request.json.render ∧
    ∃ again, read request.json.render = .ok again ∧ again.Matches request ∧
      read again.json.render = .ok again ∧
      (again.json.render = request.json.render ↔ request.SignsNoZero) := by
  refine ⟨Json.line_break_notMem_render request.writable_json, request.unsignZeros,
    request.read_render, request.matches_unsignZeros, ?_, render_unsignZeros_eq_iff⟩
  rw [read_render, unsignZeros_eq_self request.signsNoZero_unsignZeros]

/-- A balance below zero that is too small to keep is read as a zero with a minus sign. It is written
with the sign, and read again without it. -/
theorem read_written_line_not_signed_zero :
    ∃ request again, read ("\x7b\"accounts\":[\x7b\"id\":\"A\",\"balance\":-0.4e-28," ++
        "\"currency\":\"NGN\"\x7d],\"instruction\":\"x\"\x7d").toList = .ok request ∧
      read request.json.render = .ok again ∧ again.json.render ≠ request.json.render := by
  let request : Request :=
    ⟨[⟨"A", ⟨true, 0, 28, by decide, by decide⟩, "NGN"⟩], "x"⟩
  refine ⟨request, request.unsignZeros, by decide +kernel, request.read_render, ?_⟩
  rw [ne_eq, render_unsignZeros_eq_iff]
  exact fun h => h _ List.mem_cons_self rfl rfl

end Request

end Remittance
