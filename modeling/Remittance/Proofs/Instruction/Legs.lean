import Mathlib.Data.List.Induction
import Mathlib.Data.Multiset.ZeroCons
import Remittance.Proofs.Instruction.Grammar
/-!
# Reading clauses

The clauses of an instruction are matched with the forms of what is read from them, without regard
to their order: `Multiset.Rel Fills` pairs each form with a clause of its own and leaves none over.
One more clause adds one more form (`Legs.collects_concat_iff`), so clauses are read exactly when
they match the forms of the legs and the day (`Legs.addAll_eq_ok_iff`), and from their order nothing
is taken but the side of the first leg.
-/

namespace Remittance.Instruction

/-- The clauses are, in some order, one leg of either side, and one clause of the day exactly if
there is a day. -/
def LegForm (debit credit : Leg) (day : Option Date) (clauses : List (List Word)) : Prop :=
  Multiset.Rel Fills
    (debit.slots .debit :: credit.slots .credit :: day.toList.map daySlots : List (List Slot))
    clauses

/-- The side of the first leg among the clauses. -/
def firstSide? (clauses : List (List Word)) : Option Side :=
  clauses.findSome? fun words => words.head?.bind Word.side?

/-- The two legs do not state different currencies. -/
def Leg.Compatible (debit credit : Leg) : Prop :=
  ∀ d c, debit.currency = some d → credit.currency = some c → d = c

/-- The order is what the two legs ask for; its amount is written as in the leg of the debit. -/
structure Leg.Joined (debit credit : Leg) (order : TransferOrder) : Prop where
  sameAmount : debit.amount.toRat = credit.amount.toRat
  compatible : debit.Compatible credit
  debitAccount : order.debitAccount = debit.account
  creditAccount : order.creditAccount = credit.account
  amount : order.amount = debit.amount
  currency : order.currency = debit.currency.or credit.currency

variable {words : List Word} {clauses : List (List Word)} {side : Side} {leg : Leg} {date : Date}

/-! ## How clauses start -/

/-- A leg starts with the keyword of its side. -/
lemma Leg.side?_of_fills (h : Fills (leg.slots side) words) :
    words.head?.bind Word.side? = some side := by
  cases words with
  | nil => simp [Leg.slots] at h
  | cons head rest => exact side?_eq_some_iff.mpr (fills_cons.mp h).1

/-- The clause of the day does not start with the keyword of a side. -/
lemma side?_of_fills_day (h : Fills (daySlots date) words) :
    words.head?.bind Word.side? = none := by
  cases words with
  | nil => simp [daySlots] at h
  | cons head rest => exact side?_of_isKeyword_on (fills_cons.mp h).1

lemma firstSide?_concat (clauses : List (List Word)) (words : List Word) :
    firstSide? (clauses ++ [words]) =
      (firstSide? clauses).or (words.head?.bind Word.side?) := by
  simp [firstSide?, List.findSome?_append]

/-- A leg among the clauses makes one of them the first leg. -/
lemma exists_firstSide? (hmem : words ∈ clauses) (h : Fills (leg.slots side) words) :
    ∃ first, firstSide? clauses = some first := by
  rw [← Option.isSome_iff_exists, firstSide?, List.findSome?_isSome_iff]
  exact ⟨words, hmem, by rw [Leg.side?_of_fills h]; rfl⟩

/-! ## Matching clauses with forms -/

section

variable {forms forms' : List (List Slot)} {form : List Slot}

/-- Whatever relates clauses to the forms of two legs, and perhaps a day, relates every clause to one
of them. -/
lemma form_of_rel {R : List Slot → List Word → Prop} {debit credit : Leg} {day : Option Date}
    (h : Multiset.Rel R
      (debit.slots .debit :: credit.slots .credit :: day.toList.map daySlots : List (List Slot))
      clauses) (hmem : words ∈ clauses) :
    R (debit.slots .debit) words ∨ R (credit.slots .credit) words ∨
      ∃ date ∈ day, R (daySlots date) words := by
  obtain ⟨form, hforms, hrel⟩ := Multiset.exists_mem_of_rel_of_mem (Multiset.rel_flip.mpr h) hmem
  rcases List.mem_cons.mp hforms with rfl | hforms
  · exact .inl hrel
  rcases List.mem_cons.mp hforms with rfl | hforms
  · exact .inr (.inl hrel)
  · obtain ⟨date, hdate, rfl⟩ := List.mem_map.mp hforms
    exact .inr (.inr ⟨date, by simpa using hdate, hrel⟩)

/-- One more clause fills one more form. -/
lemma rel_concat (hforms : forms'.Perm (form :: forms)) (hfills : Fills form words)
    (h : Multiset.Rel Fills forms clauses) :
    Multiset.Rel Fills forms' (clauses ++ [words] : List _) := by
  have hclauses : ((clauses ++ [words] : List _) : Multiset (List Word)) = words ::ₘ clauses :=
    Multiset.coe_eq_coe.mpr (List.perm_append_singleton ..)
  rw [hclauses, Multiset.coe_eq_coe.mpr hforms]
  exact .cons hfills h

/-- The last clause fills one of the forms, and the clauses in front of it fill the others. -/
lemma exists_of_rel_concat (h : Multiset.Rel Fills forms' (clauses ++ [words] : List _)) :
    ∃ form forms, forms'.Perm (form :: forms) ∧ Fills form words ∧
      Multiset.Rel Fills (forms : List _) clauses := by
  have hclauses : ((clauses ++ [words] : List _) : Multiset (List Word)) = words ::ₘ clauses :=
    Multiset.coe_eq_coe.mpr (List.perm_append_singleton ..)
  rw [hclauses, Multiset.rel_cons_right] at h
  obtain ⟨form, others, hfills, hrel, hforms⟩ := h
  obtain ⟨forms, rfl⟩ := Quot.exists_rep others
  exact ⟨form, forms, Multiset.coe_eq_coe.mp hforms, hfills, hrel⟩

end

namespace Legs

variable {legs legs' : Legs}

/-! ## One clause -/

/-- A clause with the keyword of a side is taken in if it is a leg and the side has none yet. -/
lemma add_of_side {head : Word} {rest : List Word} (hside : head.side? = some side) :
    legs.add (head :: rest) = .ok legs' ↔ legs.leg? side = .none ∧
      ∃ leg : Leg, Fills (leg.slots side) (head :: rest) ∧ legs.withLeg side leg = legs' := by
  have hread : ∀ leg : Leg,
      Leg.read side (head :: rest) = .ok leg ↔ Fills (leg.slots side) (head :: rest) :=
    fun leg => Leg.read_eq_ok_iff (side?_eq_some_iff.mp hside)
  rw [add]
  cases hleg : legs.leg? side with
  | some leg => simp [hside, hleg]
  | none => simp [hside, hleg, map_eq_ok_iff, hread]

/-- Any other clause is taken in if it is that of the day and there is no day yet. -/
lemma add_of_no_side {head : Word} {rest : List Word} (hside : head.side? = .none) :
    legs.add (head :: rest) = .ok legs' ↔ legs.day = .none ∧
      ∃ date, Fills (daySlots date) (head :: rest) ∧ { legs with day := some date } = legs' := by
  rw [add]
  cases hon : head.isKeyword "ON" with
  | false => simp [hside, hon, daySlots, Slot.Accepts]
  | true =>
    cases hday : legs.day with
    | some date => simp [hside]
    | none => simp [hside, map_eq_ok_iff, readDayClause_eq_ok_iff hon]

/-- A clause that is taken in is a leg of a side that has none yet, or the day where there is none
yet. -/
lemma add_eq_ok_iff (hne : words ≠ []) :
    legs.add words = .ok legs' ↔
      (∃ side leg, legs.leg? side = .none ∧ Fills (leg.slots side) words ∧
        legs.withLeg side leg = legs') ∨
      ∃ date, legs.day = .none ∧ Fills (daySlots date) words ∧
        { legs with day := some date } = legs' := by
  obtain ⟨head, rest, rfl⟩ := List.exists_cons_of_ne_nil hne
  cases hside : head.side? with
  | some side =>
    rw [add_of_side hside]
    constructor
    · rintro ⟨hleg, leg, hfills, hlegs⟩
      exact .inl ⟨side, leg, hleg, hfills, hlegs⟩
    · rintro (⟨side', leg, hleg, hfills, hlegs⟩ | ⟨date, -, hfills, -⟩)
      · obtain rfl : side = side' := Option.some.inj (hside.symm.trans (Leg.side?_of_fills hfills))
        exact ⟨hleg, leg, hfills, hlegs⟩
      · exact absurd (hside.symm.trans (side?_of_fills_day hfills)) nofun
  | none =>
    rw [add_of_no_side hside]
    constructor
    · rintro ⟨hday, date, hfills, hlegs⟩
      exact .inr ⟨date, hday, hfills, hlegs⟩
    · rintro (⟨side, leg, -, hfills, -⟩ | ⟨date, hday, hfills, hlegs⟩)
      · exact absurd (hside.symm.trans (Leg.side?_of_fills hfills)) nofun
      · exact ⟨hday, date, hfills, hlegs⟩

/-! ## The forms of what was read -/

/-- The forms of what the clauses read so far state. -/
def slots (legs : Legs) : List (List Slot) :=
  legs.debit.toList.map (Leg.slots .debit) ++ legs.credit.toList.map (Leg.slots .credit) ++
    legs.day.toList.map daySlots

/-- The legs as they were before the one of this side was read. -/
def without (legs : Legs) (first : Option Side) : Side → Legs
  | .debit => ⟨first, .none, legs.credit, legs.day⟩
  | .credit => ⟨first, legs.debit, .none, legs.day⟩

lemma leg?_without (legs : Legs) (first : Option Side) (side : Side) :
    (legs.without first side).leg? side = .none := by
  cases side <;> rfl

lemma first_withLeg (legs : Legs) (side : Side) (leg : Leg) :
    (legs.withLeg side leg).first = legs.first.or (some side) := by
  cases side <;> cases hfirst : legs.first <;> simp [withLeg, hfirst]

lemma leg?_withLeg (legs : Legs) (side : Side) (leg : Leg) :
    (legs.withLeg side leg).leg? side = some leg := by
  cases side <;> rfl

/-- To fill in a leg and to take it out again are opposite. -/
lemma withLeg_without {first : Option Side} (hleg : legs.leg? side = some leg)
    (hfirst : legs.first = first.or (some side)) :
    (legs.without first side).withLeg side leg = legs := by
  obtain ⟨first', debit, credit, day⟩ := legs
  obtain rfl : first' = first.or (some side) := hfirst
  cases side <;> cases hleg <;> cases first <;> rfl

lemma without_withLeg (h : legs.leg? side = .none) :
    (legs.withLeg side leg).without legs.first side = legs := by
  obtain ⟨first, debit, credit, day⟩ := legs
  cases side <;> cases h <;> rfl

/-- Without the leg of one side, what is left are the forms of the others. -/
lemma slots_without (hleg : legs.leg? side = some leg) (first : Option Side) :
    legs.slots.Perm (leg.slots side :: (legs.without first side).slots) := by
  cases side with
  | debit =>
    change legs.debit = some leg at hleg
    simp [slots, without, hleg]
  | credit =>
    change legs.credit = some leg at hleg
    simp [slots, without, hleg, List.perm_middle]

/-- Without the day, what is left are the forms of the legs. -/
lemma slots_withoutDay (hday : legs.day = some date) :
    legs.slots.Perm (daySlots date :: { legs with day := .none }.slots) := by
  simp only [slots, hday, Option.toList_some, Option.toList_none, List.map_cons, List.map_nil,
    List.append_nil]
  exact List.perm_append_singleton ..

lemma slots_withLeg (h : legs.leg? side = .none) :
    (legs.withLeg side leg).slots.Perm (leg.slots side :: legs.slots) := by
  have hslots := slots_without (legs.leg?_withLeg side leg) legs.first
  rwa [without_withLeg h] at hslots

lemma slots_withDay (h : legs.day = .none) :
    { legs with day := some date }.slots.Perm (daySlots date :: legs.slots) := by
  have hslots := slots_withoutDay (rfl : { legs with day := some date }.day = some date)
  rwa [← h] at hslots

/-- Every form is that of a leg or of the day. -/
lemma leg_or_day_of_mem_slots {form : List Slot} (h : form ∈ legs.slots) :
    (∃ side leg, legs.leg? side = some leg ∧ form = leg.slots side) ∨
      ∃ date, legs.day = some date ∧ form = daySlots date := by
  simp only [slots, List.mem_append, List.mem_map, Option.mem_toList] at h
  rcases h with (⟨leg, hleg, rfl⟩ | ⟨leg, hleg, rfl⟩) | ⟨date, hdate, rfl⟩
  · exact .inl ⟨.debit, leg, hleg, rfl⟩
  · exact .inl ⟨.credit, leg, hleg, rfl⟩
  · exact .inr ⟨date, hdate, rfl⟩

/-! ## All clauses -/

/-- The clauses are the ones that the legs and the day were read from. -/
structure Collects (legs : Legs) (clauses : List (List Word)) : Prop where
  first : legs.first = firstSide? clauses
  forms : Multiset.Rel Fills legs.slots clauses

lemma Collects.concat (h : legs.Collects clauses) (hne : words ≠ [])
    (hadd : legs.add words = .ok legs') : legs'.Collects (clauses ++ [words]) := by
  obtain ⟨hfirst, hforms⟩ := h
  rcases (add_eq_ok_iff hne).mp hadd with
    ⟨side, leg, hleg, hfills, rfl⟩ | ⟨date, hday, hfills, rfl⟩
  · exact ⟨by rw [first_withLeg, firstSide?_concat, Leg.side?_of_fills hfills, hfirst],
      rel_concat (slots_withLeg hleg) hfills hforms⟩
  · exact ⟨by rw [firstSide?_concat, side?_of_fills_day hfills, Option.or_none, hfirst],
      rel_concat (slots_withDay hday) hfills hforms⟩

/-- The last clause is a leg or the day, and the rest was read from the clauses in front of it. -/
lemma Collects.exists_earlier (h : legs.Collects (clauses ++ [words])) (hne : words ≠ []) :
    ∃ earlier : Legs, earlier.Collects clauses ∧ earlier.add words = .ok legs := by
  obtain ⟨hfirst, hforms⟩ := h
  obtain ⟨form, forms, hperm, hfills, hrel⟩ := exists_of_rel_concat hforms
  rw [firstSide?_concat] at hfirst
  -- the form of the last clause tells what it stated, and the clauses in front state the rest
  rcases leg_or_day_of_mem_slots (hperm.mem_iff.mpr (List.mem_cons_self ..)) with
    ⟨side, leg, hleg, rfl⟩ | ⟨date, hday, rfl⟩
  · rw [Leg.side?_of_fills hfills] at hfirst
    have hslots := (hperm.symm.trans (slots_without hleg (firstSide? clauses))).cons_inv
    refine ⟨legs.without (firstSide? clauses) side, ⟨by cases side <;> rfl, ?_⟩, ?_⟩
    · rwa [← Multiset.coe_eq_coe.mpr hslots]
    · exact (add_eq_ok_iff hne).mpr (.inl
        ⟨side, leg, legs.leg?_without _ side, hfills, withLeg_without hleg hfirst⟩)
  · rw [side?_of_fills_day hfills, Option.or_none] at hfirst
    have hslots := (hperm.symm.trans (slots_withoutDay hday)).cons_inv
    refine ⟨{ legs with day := .none }, ⟨hfirst, ?_⟩, ?_⟩
    · rwa [← Multiset.coe_eq_coe.mpr hslots]
    · exact (add_eq_ok_iff hne).mpr (.inr ⟨date, rfl, hfills, by rw [← hday]⟩)

/-- One more clause is one more leg, or the day. -/
lemma collects_concat_iff (hne : words ≠ []) :
    legs.Collects (clauses ++ [words]) ↔
      ∃ earlier : Legs, earlier.Collects clauses ∧ earlier.add words = .ok legs :=
  ⟨fun h => h.exists_earlier hne, fun ⟨_, hcollects, hadd⟩ => hcollects.concat hne hadd⟩

lemma collects_nil_iff : legs.Collects [] ↔ legs = none := by
  constructor
  · rintro ⟨hfirst, hforms⟩
    obtain ⟨first, debit, credit, day⟩ := legs
    obtain rfl : first = .none := hfirst
    have hslots := (Multiset.coe_eq_zero _).mp (Multiset.rel_zero_right.mp hforms)
    simp only [slots, List.append_eq_nil_iff, List.map_eq_nil_iff,
      Option.toList_eq_nil_iff] at hslots
    obtain ⟨⟨rfl, rfl⟩, rfl⟩ := hslots
    rfl
  · rintro rfl
    exact ⟨rfl, .zero⟩

/-- Clauses are read exactly when they match the forms of the legs and the day. -/
theorem addAll_eq_ok_iff (hne : ∀ words ∈ clauses, words ≠ []) :
    none.addAll clauses = .ok legs ↔ legs.Collects clauses := by
  -- the last step of the reader takes in the last clause, so the induction is from the right
  induction clauses using List.reverseRec generalizing legs with
  | nil =>
    rw [collects_nil_iff, addAll, List.foldlM_nil]
    exact ⟨fun h => (Except.ok.inj h).symm, fun h => h ▸ rfl⟩
  | append_singleton clauses words ih =>
    have hclauses : ∀ words ∈ clauses, words ≠ [] := fun w hw => hne w (List.mem_append_left _ hw)
    rw [collects_concat_iff (hne words (by simp)), addAll, List.foldlM_append, bind_eq_ok_iff]
    simp only [List.foldlM_cons, List.foldlM_nil, bind_pure]
    exact exists_congr fun earlier => and_congr_left' (ih hclauses)

/-! ## Joining the legs -/

section

variable {debit credit : Leg} {day : Option Date} {order : TransferOrder}

lemma currency_eq_ok_iff {currency : Option Currency} :
    Legs.currency debit credit = .ok currency ↔
      debit.Compatible credit ∧ currency = debit.currency.or credit.currency := by
  unfold Legs.currency Leg.Compatible
  cases debit.currency with
  | none => simp [eq_comm]
  | some d =>
    cases credit.currency with
    | none => simp [eq_comm]
    | some c =>
      by_cases h : d = c
      · simp [h, eq_comm]
      · simp [h]

/-- Legs of different amounts do not make an order, whatever their currencies. -/
lemma join_of_amounts_ne (h : debit.amount.toRat ≠ credit.amount.toRat) :
    join side debit credit day = .error (.amountMismatch debit.amount credit.amount) := by
  rw [join, if_neg (mt Decimal.sameValue_iff_toRat_eq.mp h)]

/-- Legs of one amount do not make an order if they state different currencies. -/
lemma join_of_currencies_ne {d c : Currency} (h : debit.amount.toRat = credit.amount.toRat)
    (hd : debit.currency = some d) (hc : credit.currency = some c) (hne : d ≠ c) :
    join side debit credit day = .error (.currencyMismatch d c) := by
  rw [join, if_pos (Decimal.sameValue_iff_toRat_eq.mpr h), Legs.currency, hd, hc]
  simp only [hne, if_false]
  rfl

lemma join_eq_ok_iff : join side debit credit day = .ok order ↔
    debit.Joined credit order ∧ order.side = side ∧ order.executeBy = day := by
  constructor
  · intro h
    unfold join at h
    split at h
    · next hsame =>
      obtain ⟨currency, hcurrency, h⟩ := bind_eq_ok_iff.mp h
      obtain ⟨hcompatible, rfl⟩ := currency_eq_ok_iff.mp hcurrency
      cases h
      exact ⟨⟨Decimal.sameValue_iff_toRat_eq.mp hsame, hcompatible, rfl, rfl, rfl, rfl⟩, rfl, rfl⟩
    · cases h
  · obtain ⟨side', debitAccount, creditAccount, amount, currency, executeBy⟩ := order
    rintro ⟨⟨hsame, hcompatible, rfl, rfl, rfl, rfl⟩, rfl, rfl⟩
    rw [join, if_pos (Decimal.sameValue_iff_toRat_eq.mpr hsame),
      currency_eq_ok_iff.mpr ⟨hcompatible, rfl⟩]
    rfl

/-- Legs that do not make an order have different amounts or state different currencies. -/
lemma mismatch_of_join_eq_error {fault : Fault} (h : join side debit credit day = .error fault) :
    fault = .amountMismatch debit.amount credit.amount ∨
      ∃ d c, fault = .currencyMismatch d c := by
  by_cases hsame : debit.amount.toRat = credit.amount.toRat
  · by_cases hcompatible : debit.Compatible credit
    · have hjoined : join side debit credit day = .ok ⟨side, debit.account, credit.account,
          debit.amount, debit.currency.or credit.currency, day⟩ :=
        join_eq_ok_iff.mpr ⟨⟨hsame, hcompatible, rfl, rfl, rfl, rfl⟩, rfl, rfl⟩
      cases hjoined.symm.trans h
    · simp only [Leg.Compatible, not_forall] at hcompatible
      obtain ⟨d, c, hd, hc, hne⟩ := hcompatible
      exact .inr ⟨d, c, Except.error.inj (h.symm.trans (join_of_currencies_ne hsame hd hc hne))⟩
  · exact .inl (Except.error.inj (h.symm.trans (join_of_amounts_ne hsame)))

end

end Legs

section

variable {debit credit : Leg} {day : Option Date} {order : TransferOrder}

/-- What is asked for by the clauses of two legs, and perhaps a day, is what the legs make when they
are joined from the side of the first one. -/
theorem readClauses_of_legForm (hne : ∀ words ∈ clauses, words ≠ [])
    (h : LegForm debit credit day clauses) :
    ∃ side, firstSide? clauses = some side ∧
      readClauses clauses = Legs.join side debit credit day := by
  obtain ⟨words, hmem, hfills⟩ := Multiset.exists_mem_of_rel_of_mem h (List.mem_cons_self ..)
  obtain ⟨side, hside⟩ := exists_firstSide? hmem hfills
  have hcollects : Legs.Collects ⟨some side, some debit, some credit, day⟩ clauses :=
    ⟨hside.symm, h⟩
  refine ⟨side, hside, ?_⟩
  rw [readClauses, (Legs.addAll_eq_ok_iff hne).mpr hcollects]
  rfl

/-- Clauses ask for an order exactly when they are two legs that join into it, and its day. -/
theorem readClauses_eq_ok_iff (hne : ∀ words ∈ clauses, words ≠ []) :
    readClauses clauses = .ok order ↔
      ∃ debit credit, LegForm debit credit order.executeBy clauses ∧ debit.Joined credit order ∧
        firstSide? clauses = some order.side := by
  constructor
  · intro h
    obtain ⟨⟨first, debit, credit, day⟩, hlegs, horder⟩ := bind_eq_ok_iff.mp h
    obtain ⟨hfirst, hforms⟩ := (Legs.addAll_eq_ok_iff hne).mp hlegs
    cases debit with
    | none => cases horder
    | some debit =>
      cases credit with
      | none => cases horder
      | some credit =>
        have hform : LegForm debit credit day clauses := hforms
        obtain ⟨side, hside, hread⟩ := readClauses_of_legForm hne hform
        obtain ⟨hjoined, rfl, rfl⟩ := Legs.join_eq_ok_iff.mp (hread.symm.trans h)
        exact ⟨debit, credit, hform, hjoined, hside⟩
  · rintro ⟨debit, credit, hform, hjoined, hside⟩
    obtain ⟨side, hside', hread⟩ := readClauses_of_legForm hne hform
    obtain rfl : order.side = side := Option.some.inj (hside.symm.trans hside')
    rw [hread]
    exact Legs.join_eq_ok_iff.mpr ⟨hjoined, rfl, rfl⟩

end

end Remittance.Instruction
