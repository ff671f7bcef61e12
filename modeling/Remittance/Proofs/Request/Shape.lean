import Remittance.Proofs.Json.RecordSoundness
import Remittance.Proofs.MoneyText
import Remittance.Reply
/-!
# Which texts are requests

A request is read from the text of a value that tells it (`Request.ToldBy`): an object with its fields,
or the array of its fields in their order, and the same for each of its entries. Every other text is
told one error (`Request.read_told_or_refused`).
-/

namespace Remittance

/-! ## Balances -/

namespace Decimal

variable {cs rest : List Char} {a : Decimal}

lemma read?_of_ofText {text : List Char} {p : Json.Parsed Unit cs} {q : Json.Parsed Decimal cs}
    (h : ofText text p = .ok q) : read? text = some q.value ∧ q.rest = p.rest := by
  unfold ofText at h
  split at h
  · next a hread =>
    cases h
    exact ⟨read?_eq_some_iff.mpr hread, rfl⟩
  · cases h

lemma ofJson?_of_ofScalar {p : Json.Parsed Json.Scalar cs} {q : Json.Parsed Decimal cs}
    (h : ofScalar p = .ok q) : ofJson? p.value.json = some q.value ∧ q.rest = p.rest := by
  unfold ofScalar at h
  split at h
  · next hvalue =>
    rw [hvalue]
    exact read?_of_ofText h
  · next hvalue =>
    rw [hvalue]
    split at h
    · next hread =>
      cases h
      exact ⟨hread, rfl⟩
    · cases h
  · cases h
  · cases h

/-- A boxed decimal is read from the one member of an object. -/
lemma exists_spells_of_readBox {p : Json.Reached Decimal cs} (h : readBox cs = .ok p)
    (hclose : Json.skipBlanks p.rest = '}' :: rest) :
    ∃ text : String, Json.Spells (.members true [(boxKey, .string text)]) cs rest ∧
      read? text.toList = some p.value := by
  obtain ⟨⟨value, behind, hle⟩, hstep, h⟩ := bind_eq_ok_iff.mp h
  split at h
  · cases h
  next hvalue =>
  obtain rfl : value = true := by simpa using hvalue
  obtain ⟨ds, hseparates, hds⟩ := Json.advances_nextMember hstep
  obtain ⟨key, hkey, h⟩ := bind_eq_ok_iff.mp h
  split at h
  · cases h
  next hbox =>
  obtain ⟨colon, hcolon, h⟩ := bind_eq_ok_iff.mp h
  obtain ⟨text, htext, h⟩ := bind_eq_ok_iff.mp h
  obtain ⟨a, ha, h⟩ := bind_eq_ok_iff.mp h
  cases h
  obtain ⟨hread, hrest⟩ := read?_of_ofText ha
  -- the caller closes the object directly behind the text
  have hlast : Json.Spells (.members false []) text.rest rest :=
    .noMember (hrest ▸ hclose)
  obtain ⟨v, hv, rfl⟩ := Json.reads_readString _ htext hlast.endsValue_members
  have hlabels := (Json.labels_of_readString hkey hcolon).of_skipBlanks hds
  rw [not_not.mp hbox] at hlabels
  exact ⟨text.value, .member hseparates hlabels hv hlast, hread⟩

/-- A decimal is read from a value that stands for it. -/
theorem reads_reader : Json.Reads reader fun value a => ofJson? value = some a := by
  refine Json.Reads.afterBlanks fun cs p hread hrest => ?_
  cases cs with
  | nil => cases hread
  | cons c behind =>
    simp only at hread
    split_ifs at hread with harray hobject
    · cases hread
    · subst hobject
      obtain ⟨q, hq, rfl⟩ := map_eq_ok_iff.mp hread
      obtain ⟨inside, hinside, hbox, hclose⟩ :=
        Json.exists_of_enclosed Json.skipBlanks_of_closeObject hq
      obtain ⟨text, htext, hdecimal⟩ := exists_spells_of_readBox hinside hclose
      rw [hbox] at hdecimal
      exact ⟨_, .object rfl htext, by simpa [ofJson?, Json.Parsed.widen] using hdecimal⟩
    · split at hread
      · cases hread
      · cases hread
      next scalar hscalar =>
      obtain ⟨hdecimal, hend⟩ := ofJson?_of_ofScalar hread
      rw [hend] at hrest ⊢
      exact ⟨_, (Json.spells_of_readScalar? hscalar hrest).spells, hdecimal⟩

end Decimal

/-! ## Entries -/

namespace AccountEntry

/-- The value tells the entry: its id and its currency are strings, and its balance stands for a
decimal. -/
def ToldBy (entry : AccountEntry) (value : Json) : Prop :=
  ∃ balance, value.fields? ["id", "balance", "currency"] =
      some [some (.string entry.id), some balance, some (.string entry.currency)] ∧
    Decimal.ofJson? balance = some entry.balance

/-- What the field of this name makes of a draft, by its value. -/
def Puts (name : String) (value : Json) (draft next : Draft) : Prop :=
  (name = "id" ∧ ∃ id, value = .string id ∧ next = { draft with id := some id }) ∨
  (name = "balance" ∧
    ∃ balance, Decimal.ofJson? value = some balance ∧ next = { draft with balance := some balance }) ∨
  (name = "currency" ∧
    ∃ currency, value = .string currency ∧ next = { draft with currency := some currency })

lemma fits_shape : shape.Fits Puts := by
  intro field hfield
  simp only [shape, List.mem_cons, List.not_mem_nil, or_false] at hfield
  obtain rfl | rfl | rfl := hfield
  all_goals intro draft cs p hread hrest
  · obtain ⟨v, hv, id, hid⟩ := Json.Field.fits_of (Json.reads_readString _) draft hread hrest
    exact ⟨v, hv, .inl ⟨rfl, id, hid⟩⟩
  · obtain ⟨v, hv, balance, hbalance⟩ := Json.Field.fits_of Decimal.reads_reader draft hread hrest
    exact ⟨v, hv, .inr (.inl ⟨rfl, balance, hbalance⟩)⟩
  · obtain ⟨v, hv, currency, hcurrency⟩ :=
      Json.Field.fits_of (Json.reads_readString _) draft hread hrest
    exact ⟨v, hv, .inr (.inr ⟨rfl, currency, hcurrency⟩)⟩

lemma keeps_id : shape.Keeps Puts "id" Draft.id fun value id => value = .string id where
  isSet := ⟨_, rfl, fun _ => rfl⟩
  own := by grind [Puts]
  others := by grind [Puts]

lemma keeps_balance :
    shape.Keeps Puts "balance" Draft.balance fun value balance =>
      Decimal.ofJson? value = some balance where
  isSet := ⟨_, rfl, fun _ => rfl⟩
  own := by grind [Puts]
  others := by grind [Puts]

lemma keeps_currency :
    shape.Keeps Puts "currency" Draft.currency fun value currency => value = .string currency where
  isSet := ⟨_, rfl, fun _ => rfl⟩
  own := by grind [Puts]
  others := by grind [Puts]

lemma eq_of_finish {entry : AccountEntry} {last : Draft} (h : shape.finish last = .ok entry) :
    last = ⟨some entry.id, some entry.balance, some entry.currency⟩ := by
  obtain ⟨_ | id, _ | balance, _ | currency⟩ := last
  all_goals cases h
  rfl

/-- A value that tells the fields of an entry tells the entry. -/
lemma toldBy_of_tells {entry : AccountEntry} {value : Json} (h : shape.Tells Puts value entry) :
    entry.ToldBy value := by
  obtain ⟨last, hfinish, hvalue⟩ := h
  obtain rfl := eq_of_finish hfinish
  obtain ⟨members, rfl, hcollects⟩ | ⟨items, rfl, hlists⟩ := hvalue
  -- in an object a field is found by its name, and in an array by its place
  · obtain ⟨_, hid, rfl⟩ := hcollects.member?_eq keeps_id rfl rfl
    obtain ⟨balance, hbalance, hdecimal⟩ := hcollects.member?_eq keeps_balance rfl rfl
    obtain ⟨_, hcurrency, rfl⟩ := hcollects.member?_eq keeps_currency rfl rfl
    exact ⟨balance, by simp [Json.fields?, hid, hbalance, hcurrency], hdecimal⟩
  · obtain ⟨id, _, _, rfl, hid, hlists⟩ := Json.Shape.Lists.exists_cons hlists
    obtain ⟨balance, _, _, rfl, hbalance, hlists⟩ := hlists.exists_cons
    obtain ⟨currency, _, _, rfl, hcurrency, hlists⟩ := hlists.exists_cons
    obtain ⟨rfl, hlast⟩ := hlists.eq_nil
    obtain ⟨_, rfl, rfl⟩ := by simpa [Puts, Json.Field.of] using hid
    obtain ⟨_, hdecimal, rfl⟩ := by simpa [Puts, Json.Field.of] using hbalance
    obtain ⟨_, rfl, rfl⟩ := by simpa [Puts, Json.Field.of] using hcurrency
    cases hlast
    exact ⟨balance, rfl, hdecimal⟩

/-- An entry is read from a value that tells it. -/
theorem reads_shape : Json.Reads shape.read fun value entry => entry.ToldBy value := by
  intro cs p hread hrest
  obtain ⟨value, hvalue, htells⟩ := Json.Shape.reads_read fits_shape hread hrest
  exact ⟨value, hvalue, toldBy_of_tells htells⟩

end AccountEntry

/-! ## Requests -/

namespace Request

/-- The value is an array of values that tell the entries, in their order. -/
def TellsAccounts (value : Json) (accounts : List AccountEntry) : Prop :=
  ∃ items, value = .array items ∧
    List.Forall₂ (fun item (entry : AccountEntry) => entry.ToldBy item) items accounts

/-- The value tells the request: its accounts are an array of what tells the entries, and its
instruction is a string. -/
def ToldBy (request : Request) (value : Json) : Prop :=
  ∃ accounts, value.fields? ["accounts", "instruction"] =
      some [some accounts, some (.string request.instruction)] ∧
    TellsAccounts accounts request.accounts

/-- What the field of this name makes of a draft, by its value. -/
def Puts (name : String) (value : Json) (draft next : Draft) : Prop :=
  (name = "accounts" ∧
    ∃ accounts, TellsAccounts value accounts ∧ next = { draft with accounts := some accounts }) ∨
  (name = "instruction" ∧
    ∃ instruction, value = .string instruction ∧
      next = { draft with instruction := some instruction })

lemma fits_shape : shape.Fits Puts := by
  intro field hfield
  simp only [shape, List.mem_cons, List.not_mem_nil, or_false] at hfield
  obtain rfl | rfl := hfield
  all_goals intro draft cs p hread hrest
  · obtain ⟨v, hv, accounts, haccounts⟩ :=
      Json.Field.fits_of (Json.reads_readSequence AccountEntry.reads_shape) draft hread hrest
    exact ⟨v, hv, .inl ⟨rfl, accounts, haccounts⟩⟩
  · obtain ⟨v, hv, instruction, hinstruction⟩ :=
      Json.Field.fits_of (Json.reads_readString _) draft hread hrest
    exact ⟨v, hv, .inr ⟨rfl, instruction, hinstruction⟩⟩

lemma keeps_accounts : shape.Keeps Puts "accounts" Draft.accounts TellsAccounts where
  isSet := ⟨_, rfl, fun _ => rfl⟩
  own := by grind [Puts]
  others := by grind [Puts]

lemma keeps_instruction :
    shape.Keeps Puts "instruction" Draft.instruction fun value text => value = .string text where
  isSet := ⟨_, rfl, fun _ => rfl⟩
  own := by grind [Puts]
  others := by grind [Puts]

lemma eq_of_finish {request : Request} {last : Draft} (h : shape.finish last = .ok request) :
    last = ⟨some request.accounts, some request.instruction⟩ := by
  obtain ⟨_ | accounts, _ | instruction⟩ := last
  all_goals cases h
  rfl

/-- A value that tells the fields of a request tells the request. -/
lemma toldBy_of_tells {request : Request} {value : Json} (h : shape.Tells Puts value request) :
    request.ToldBy value := by
  obtain ⟨last, hfinish, hvalue⟩ := h
  obtain rfl := eq_of_finish hfinish
  obtain ⟨members, rfl, hcollects⟩ | ⟨items, rfl, hlists⟩ := hvalue
  · obtain ⟨accounts, haccounts, htells⟩ := hcollects.member?_eq keeps_accounts rfl rfl
    obtain ⟨_, hinstruction, rfl⟩ := hcollects.member?_eq keeps_instruction rfl rfl
    exact ⟨accounts, by simp [Json.fields?, haccounts, hinstruction], htells⟩
  · obtain ⟨accounts, _, _, rfl, haccounts, hlists⟩ := Json.Shape.Lists.exists_cons hlists
    obtain ⟨instruction, _, _, rfl, hinstruction, hlists⟩ := hlists.exists_cons
    obtain ⟨rfl, hlast⟩ := hlists.eq_nil
    obtain ⟨_, htells, rfl⟩ := by simpa [Puts, Json.Field.of] using haccounts
    obtain ⟨_, rfl, rfl⟩ := by simpa [Puts, Json.Field.of] using hinstruction
    cases hlast
    exact ⟨accounts, rfl, htells⟩

lemma code_failureError (text : List Char) (failure : Json.Failure) :
    (failureError text failure).code = .invalidRequestFormat := by
  unfold failureError
  split_ifs <;> rfl

/-- Every text is read as a request or told one error. The text of a request stands for one value,
which tells the request: it is an object or an array of the fields, and so is each of its accounts. -/
theorem read_told_or_refused (text : List Char) :
    (∃ request value, read text = .ok request ∧ Json.IsTextOf text value ∧
      (∀ other, Json.IsTextOf text other → other = value) ∧ request.ToldBy value) ∨
    ∃ error, read text = .error [error] ∧ error.code = .invalidRequestFormat ∧
      ∀ desk : Desk, desk.reply text = .rejection [error] := by
  cases hread : Json.readWhole shape.read text with
  | ok request =>
    obtain ⟨value, hvalue, htells⟩ :=
      Json.exists_of_readWhole (Json.Shape.reads_read fits_shape) hread
    refine .inl ⟨request, value, by rw [read, hread]; rfl, hvalue,
      fun other hother => hother.unique hvalue, toldBy_of_tells htells⟩
  | error failure =>
    have herror : read text = .error [failureError text failure] := by
      rw [read, hread]
      rfl
    refine .inr ⟨_, herror, code_failureError text failure, fun desk => ?_⟩
    rw [Desk.reply, readChecked, herror]
    rfl

/-- An array of an array of arrays is no object, but it is read as a request of one account. -/
theorem read_array :
    let text := "[[[\"A\",1,\"NGN\"]],\"x\"]".toList
    read text = .ok ⟨[⟨"A", ⟨false, 1, 0, by decide, by decide⟩, "NGN"⟩], "x"⟩ ∧
      ∀ members, ¬Json.IsTextOf text (.object members) := by
  intro text
  refine ⟨by decide +kernel, ?_⟩
  rintro members ⟨rest, hvalue, -⟩
  obtain ⟨behind, hbehind⟩ := hvalue.exists_of_object
  cases hbehind

end Request

end Remittance
