import Remittance.CommandLine
import Remittance.Proofs.Decimal.Reading
/-!
# What the words of a command line say

The words of a command line write out values of parameters, one behind the other
(`Arguments.Writes`): an option with its value, in one word or in two, or a file. Words are read as
arguments just when they write out values that can be given in this order
(`Arguments.ofWords_eq_ok_iff`), and the arguments then hold the texts that were written, and no
others (`Arguments.text?_giveAll`).
-/

namespace Remittance

/-- The parameters that say what is read and what is written. -/
def Parameter.texts : List Parameter := [.input, .accounts, .instruction, .accountsOut]

namespace Arguments

/-- The text that is given for a parameter that says what is read or written. -/
def text? (arguments : Arguments) : Parameter → Option String
  | .input => arguments.input
  | .accounts => arguments.accounts
  | .instruction => arguments.instruction
  | .accountsOut => arguments.accountsOut
  | _ => none

/-- The words write out these values of parameters, in this order. -/
inductive Writes : List String → List (Parameter × String) → Prop
  | nothing : Writes [] []
  /-- The value is the word behind the option. -/
  | apart {word name value : String} {parameter : Parameter} {words : List String}
      {items : List (Parameter × String)} (option : Word.ofText word = .option name none)
      (named : Parameter.ofName? name = some parameter) (plain : Word.ofText value = .plain value)
      (rest : Writes words items) : Writes (word :: value :: words) ((parameter, value) :: items)
  /-- The value stands in the option, behind `=`. -/
  | joined {word name value : String} {parameter : Parameter} {words : List String}
      {items : List (Parameter × String)} (option : Word.ofText word = .option name (some value))
      (named : Parameter.ofName? name = some parameter) (rest : Writes words items) :
      Writes (word :: words) ((parameter, value) :: items)
  | file {word : String} {words : List String} {items : List (Parameter × String)}
      (plain : Word.ofText word = .plain word) (rest : Writes words items) :
      Writes (word :: words) ((.input, word) :: items)
  /-- Behind a separator there are only files. -/
  | files {word : String} {words : List String} (separator : Word.ofText word = .separator) :
      Writes (word :: words) (words.map (Parameter.input, ·))

/-- The arguments with all of these values. -/
def giveAll (arguments : Arguments) (items : List (Parameter × String)) :
    Except UsageError Arguments :=
  items.foldlM (fun arguments item => arguments.give item.1 item.2) arguments

/-! ## Giving values -/

section
variable {arguments result : Arguments} {parameter asked : Parameter} {text other : String}
  {items : List (Parameter × String)}

lemma fill_eq_ok_iff {α : Type} {given : Option α} {value : Except UsageError α}
    {put : α → Arguments} :
    fill given value put = .ok result ↔ given = none ∧ ∃ a, value = .ok a ∧ put a = result := by
  unfold fill
  cases given with
  | some a => simp
  | none => cases value <;> simp [Except.map]

lemma readPath_eq_ok_iff {path : String} : readPath text = .ok path ↔ text ≠ "" ∧ text = path := by
  unfold readPath
  split <;> simp_all

/-- A value is given where none was, and changes nothing else. -/
lemma give_cases (h : arguments.give parameter text = .ok result) :
    (parameter ∈ Parameter.texts ∧ arguments.text? parameter = none ∧
      result.text? parameter = some text ∧
      ∀ other, other ≠ parameter → result.text? other = arguments.text? other) ∨
    (parameter ∉ Parameter.texts ∧ ∀ other, result.text? other = arguments.text? other) := by
  cases parameter with
  | input | accounts | accountsOut =>
    obtain ⟨hnone, path, hpath, rfl⟩ := fill_eq_ok_iff.mp h
    obtain ⟨-, rfl⟩ := readPath_eq_ok_iff.mp hpath
    refine .inl ⟨by decide, hnone, rfl, fun other => ?_⟩
    cases other <;> simp [text?]
  | instruction =>
    obtain ⟨hnone, _, htext, rfl⟩ := fill_eq_ok_iff.mp h
    obtain rfl := Except.ok.inj htext
    refine .inl ⟨by decide, hnone, rfl, fun other => ?_⟩
    cases other <;> simp [text?]
  | strategy | batchSize | maxConcurrent | today | pendingPolicy | logLevel =>
    obtain ⟨-, _, -, rfl⟩ := fill_eq_ok_iff.mp h
    refine .inr ⟨by decide, fun other => ?_⟩
    cases other <;> rfl
  | currency =>
    obtain ⟨_, -, rfl⟩ := map_eq_ok_iff.mp h
    refine .inr ⟨by decide, fun other => ?_⟩
    cases other <;> rfl

lemma text?_give (hasked : asked ∈ Parameter.texts)
    (h : arguments.give parameter text = .ok result) :
    result.text? asked = some other ↔
      arguments.text? asked = some other ∨ (asked, other) = (parameter, text) := by
  by_cases hsame : asked = parameter
  · subst hsame
    rcases give_cases h with ⟨-, hnone, htext, -⟩ | ⟨hnot, -⟩
    · rw [hnone, htext]
      simp [eq_comm]
    · exact absurd hasked hnot
  · have hkept : result.text? asked = arguments.text? asked := by
      rcases give_cases h with ⟨-, -, -, hothers⟩ | ⟨-, hothers⟩
      · exact hothers asked hsame
      · exact hothers asked
    rw [hkept]
    simp [hsame]

lemma giveAll_cons_eq_ok_iff : giveAll arguments ((parameter, text) :: items) = .ok result ↔
    ∃ next, arguments.give parameter text = .ok next ∧ giveAll next items = .ok result := by
  unfold giveAll
  rw [List.foldlM_cons]
  exact bind_eq_ok_iff

/-- The arguments hold the texts that they held before and those that are given. -/
lemma text?_giveAll (hasked : asked ∈ Parameter.texts) (h : giveAll arguments items = .ok result) :
    result.text? asked = some text ↔
      arguments.text? asked = some text ∨ (asked, text) ∈ items := by
  induction items generalizing arguments with
  | nil =>
    obtain rfl := Except.ok.inj h
    simp
  | cons item items ih =>
    obtain ⟨next, hgive, hrest⟩ := giveAll_cons_eq_ok_iff.mp h
    rw [ih hrest, text?_give hasked hgive, List.mem_cons, or_assoc]

/-- A text that is held is not given a second time. -/
lemma giveAll_ne_ok_of_given (hasked : asked ∈ Parameter.texts)
    (hgiven : arguments.text? asked = some other) (hmem : (asked, text) ∈ items) :
    giveAll arguments items ≠ .ok result := by
  intro h
  induction items generalizing arguments with
  | nil => cases hmem
  | cons item items ih =>
    obtain ⟨next, hgive, hrest⟩ := giveAll_cons_eq_ok_iff.mp h
    rcases List.mem_cons.mp hmem with hitem | hitems
    · rw [← hitem] at hgive
      rcases give_cases hgive with ⟨-, hnone, -⟩ | ⟨hnot, -⟩
      · rw [hnone] at hgiven
        cases hgiven
      · exact hnot hasked
    · have hkept := (text?_give hasked hgive).mpr (.inl hgiven)
      exact ih hkept hitems hrest

end

/-! ## The next word -/

lemma Word.ofText_eq_plain {word text : String} (h : Word.ofText word = .plain text) :
    text = word := by
  unfold Word.ofText at h
  split at h
  · cases h
  · dsimp only at h
    split at h <;> cases h
  · cases h
  · exact (Word.plain.inj h).symm

/-- The words write out these values, after a parameter was named whose value is not looked at. -/
def WritesBehind : Pending → List String → List (Parameter × String) → Prop
  | .nothing, words, items => Writes words items
  | .given parameter text, words, items =>
    ∃ rest, items = (parameter, text) :: rest ∧ Writes words rest
  | .awaiting parameter, words, items =>
    ∃ value words' rest, words = value :: words' ∧ Word.ofText value = .plain value ∧
      items = (parameter, value) :: rest ∧ Writes words' rest

/-- What the first word of a command line can be. -/
lemma writes_cons_iff {word : String} {words : List String} {items : List (Parameter × String)} :
    Writes (word :: words) items ↔
      match Word.ofText word with
      | .separator => items = words.map (Parameter.input, ·)
      | .option name (some value) => ∃ parameter rest, Parameter.ofName? name = some parameter ∧
          items = (parameter, value) :: rest ∧ Writes words rest
      | .option name none => ∃ parameter, Parameter.ofName? name = some parameter ∧
          WritesBehind (.awaiting parameter) words items
      | .letters _ => False
      | .plain text => ∃ rest, items = (.input, text) :: rest ∧ Writes words rest := by
  constructor
  · intro h
    cases h with
    | apart option named plain rest =>
      rw [option]
      exact ⟨_, named, _, _, _, rfl, plain, rfl, rest⟩
    | joined option named rest =>
      rw [option]
      exact ⟨_, _, named, rfl, rest⟩
    | file plain rest =>
      rw [plain]
      exact ⟨_, rfl, rest⟩
    | files separator =>
      rw [separator]
  · intro h
    split at h
    · next separator =>
      rw [h]
      exact .files separator
    · next option =>
      obtain ⟨parameter, rest, named, rfl, hrest⟩ := h
      exact .joined option named hrest
    · next option =>
      obtain ⟨parameter, named, value, words', rest, rfl, plain, rfl, hrest⟩ := h
      exact .apart option named plain hrest
    · cases h
    · next text plain =>
      obtain ⟨rest, rfl, hrest⟩ := h
      obtain rfl := Word.ofText_eq_plain plain
      exact .file plain hrest

/-! ## Reading the words -/

section
variable {arguments result : Arguments} {pending : Pending} {hasInput : Bool} {words : List String}

/-- A file was named, and its value is held or not yet looked at. -/
def HoldsInput (arguments : Arguments) (pending : Pending) : Prop :=
  ∃ text, arguments.text? .input = some text ∨ pending = .given .input text

lemma HoldsInput.of_held (h : ∃ text, arguments.text? .input = some text) :
    HoldsInput arguments pending := by
  obtain ⟨text, hheld⟩ := h
  exact ⟨text, .inl hheld⟩

/-- Once all values are looked at, the file is held. -/
lemma HoldsInput.settled {next : Arguments} (h : HoldsInput arguments pending)
    (hsettle : arguments.settle pending = .ok next) : ∃ text, next.text? .input = some text := by
  obtain ⟨text, hheld⟩ := h
  cases pending with
  | nothing =>
    obtain rfl := Except.ok.inj hsettle
    rcases hheld with hheld | hpending
    · exact ⟨text, hheld⟩
    · cases hpending
  | awaiting parameter => cases hsettle
  | given parameter value =>
    refine ⟨text, (text?_give (by decide) hsettle).mpr ?_⟩
    rcases hheld with hheld | hpending
    · exact .inl hheld
    · cases hpending
      exact .inr rfl

lemma readFiles_eq_ok_iff (hinput : hasInput = true → HoldsInput arguments pending) :
    readFiles arguments pending hasInput words = .ok result ↔
      ∃ next, arguments.settle pending = .ok next ∧
        giveAll next (words.map (Parameter.input, ·)) = .ok result := by
  induction words generalizing arguments pending hasInput with
  | nil =>
    rw [readFiles]
    constructor
    · intro h
      exact ⟨result, h, rfl⟩
    · intro h
      obtain ⟨next, hsettle, hgive⟩ := h
      rw [hsettle]
      exact hgive
  | cons word words ih =>
    rw [readFiles]
    split
    · next hseen =>
      -- a second file is refused at once, and would be refused when it is given
      constructor
      · intro h
        cases h
      · intro h
        obtain ⟨next, hsettle, hgive⟩ := h
        obtain ⟨text, hheld⟩ := (hinput hseen).settled hsettle
        exact absurd hgive (giveAll_ne_ok_of_given (by decide) hheld List.mem_cons_self)
    · rw [bind_eq_ok_iff]
      have hnext : ∀ next : Arguments, readFiles next (.given .input word) true words = .ok result ↔
          giveAll next ((word :: words).map (Parameter.input, ·)) = .ok result := by
        intro next
        rw [ih fun _ => ⟨word, .inr rfl⟩, List.map_cons, giveAll_cons_eq_ok_iff]
        rfl
      simp only [hnext]

/-- What is done with the first word when no value has to follow. -/
lemma readWords_cons_eq_ok_iff {word : String}
    (hpending : ∀ parameter, pending ≠ .awaiting parameter)
    (hinput : hasInput = true → HoldsInput arguments pending) :
    readWords arguments pending hasInput (word :: words) = .ok result ↔
      ∃ next, arguments.settle pending = .ok next ∧
        match Word.ofText word with
        | .separator => giveAll next (words.map (Parameter.input, ·)) = .ok result
        | .option name (some value) => ∃ parameter, Parameter.ofName? name = some parameter ∧
            ∃ given, next.give parameter value = .ok given ∧
              readWords given .nothing hasInput words = .ok result
        | .option name none => ∃ parameter, Parameter.ofName? name = some parameter ∧
            readWords next (.awaiting parameter) hasInput words = .ok result
        | .letters _ => False
        | .plain text => hasInput = false ∧
            readWords next (.given .input text) true words = .ok result := by
  rw [readWords]
  cases hword : Word.ofText word with
  | separator => exact readFiles_eq_ok_iff hinput
  | option name value =>
    cases hname : Parameter.ofName? name with
    | none =>
      -- help is asked for, or there is no such option
      cases value with
      | some value => simp [hname]
      | none =>
        simp only [hname]
        split
        · simp [bind_eq_ok_iff]
        · simp
    | some parameter =>
      cases value with
      | some value => simp [hname, bind_eq_ok_iff]
      | none => simp [hname, bind_eq_ok_iff]
  | letters first =>
    simp only
    split
    · simp [bind_eq_ok_iff]
    · simp
  | plain text =>
    cases pending with
    | awaiting parameter => exact absurd rfl (hpending parameter)
    | nothing | given => cases hasInput <;> simp [bind_eq_ok_iff]

/-- Where a value has to follow, only a plain word will do. -/
lemma readWords_awaiting_eq_ok_iff {word : String} {parameter : Parameter}
    (hinput : hasInput = true → HoldsInput arguments (.awaiting parameter)) :
    readWords arguments (.awaiting parameter) hasInput (word :: words) = .ok result ↔
      Word.ofText word = .plain word ∧
        readWords arguments (.given parameter word) hasInput words = .ok result := by
  rw [readWords]
  cases hword : Word.ofText word with
  | separator => simp [readFiles_eq_ok_iff hinput, settle]
  | option name value =>
    cases hname : Parameter.ofName? name with
    | none =>
      cases value with
      | some value => simp [hname]
      | none =>
        simp only [hname]
        split <;> simp [bind_eq_ok_iff]
    | some named => cases value <;> simp [hname, bind_eq_ok_iff, settle]
  | letters first =>
    simp only
    split <;> simp [bind_eq_ok_iff]
  | plain text =>
    obtain rfl := Word.ofText_eq_plain hword
    simp

/-- Looking at a value that has been given comes to giving it in front of the others. -/
lemma exists_writesBehind_iff (hpending : ∀ parameter, pending ≠ .awaiting parameter) :
    (∃ items, WritesBehind pending words items ∧ giveAll arguments items = .ok result) ↔
      ∃ next, arguments.settle pending = .ok next ∧
        ∃ items, Writes words items ∧ giveAll next items = .ok result := by
  cases pending with
  | nothing => simp [WritesBehind, settle]
  | awaiting parameter => exact absurd rfl (hpending parameter)
  | given parameter text =>
    constructor
    · intro h
      obtain ⟨items, ⟨rest, rfl, hwrites⟩, hgive⟩ := h
      obtain ⟨next, hnext, hrest⟩ := giveAll_cons_eq_ok_iff.mp hgive
      exact ⟨next, hnext, rest, hwrites, hrest⟩
    · intro h
      obtain ⟨next, hnext, rest, hwrites, hrest⟩ := h
      exact ⟨_, ⟨rest, rfl, hwrites⟩, giveAll_cons_eq_ok_iff.mpr ⟨next, hnext, hrest⟩⟩

/-- The words are read as the values that they write out, whatever stood in front of them. -/
def ReadAsWritten (words : List String) : Prop :=
  ∀ (arguments : Arguments) (pending : Pending) (hasInput : Bool) (result : Arguments),
    (hasInput = true → HoldsInput arguments pending) →
      (readWords arguments pending hasInput words = .ok result ↔
        ∃ items, WritesBehind pending words items ∧ giveAll arguments items = .ok result)

lemma readAsWritten_nil : ReadAsWritten [] := by
  intro arguments pending hasInput result hinput
  rw [readWords]
  cases pending with
  | awaiting parameter =>
    constructor
    · intro h
      cases h
    · intro h
      obtain ⟨_, ⟨_, _, _, hwords, -⟩, -⟩ := h
      cases hwords
  | nothing | given =>
    rw [exists_writesBehind_iff (by simp)]
    constructor
    · intro h
      exact ⟨result, h, [], .nothing, rfl⟩
    · intro h
      obtain ⟨next, hsettle, items, hwrites, hgive⟩ := h
      cases hwrites
      rw [hsettle]
      exact hgive

namespace ReadAsWritten

/-- The value of an option stands in front of the words. -/
lemma joined (h : ReadAsWritten words) {parameter : Parameter} {value : String}
    (hheld : hasInput = true → ∃ text, arguments.text? .input = some text) :
    (∃ given, arguments.give parameter value = .ok given ∧
        readWords given .nothing hasInput words = .ok result) ↔
      ∃ items, Writes words items ∧ giveAll arguments ((parameter, value) :: items) = .ok result := by
  have hrest : ∀ given, arguments.give parameter value = .ok given →
      (readWords given .nothing hasInput words = .ok result ↔
        ∃ items, Writes words items ∧ giveAll given items = .ok result) := by
    intro given hgive
    apply h
    intro hseen
    obtain ⟨text, htext⟩ := hheld hseen
    exact .of_held ⟨text, (text?_give (by decide) hgive).mpr (.inl htext)⟩
  constructor
  · intro hread
    obtain ⟨given, hgive, hread⟩ := hread
    obtain ⟨items, hwrites, hgives⟩ := (hrest given hgive).mp hread
    exact ⟨items, hwrites, giveAll_cons_eq_ok_iff.mpr ⟨given, hgive, hgives⟩⟩
  · intro hwritten
    obtain ⟨items, hwrites, hgives⟩ := hwritten
    obtain ⟨given, hgive, hgives⟩ := giveAll_cons_eq_ok_iff.mp hgives
    exact ⟨given, hgive, (hrest given hgive).mpr ⟨items, hwrites, hgives⟩⟩

/-- A file stands in front of the words. -/
lemma file (h : ReadAsWritten words) {text : String}
    (hheld : hasInput = true → ∃ text, arguments.text? .input = some text) :
    (hasInput = false ∧ readWords arguments (.given .input text) true words = .ok result) ↔
      ∃ items, Writes words items ∧ giveAll arguments ((.input, text) :: items) = .ok result := by
  rw [h _ _ _ _ fun _ => ⟨text, .inr rfl⟩]
  constructor
  · intro hread
    obtain ⟨-, _, ⟨items, rfl, hwrites⟩, hgives⟩ := hread
    exact ⟨items, hwrites, hgives⟩
  · intro hwritten
    obtain ⟨items, hwrites, hgives⟩ := hwritten
    refine ⟨?_, _, ⟨items, rfl, hwrites⟩, hgives⟩
    -- a file that was seen before would be given twice
    by_contra hseen
    rw [Bool.not_eq_false] at hseen
    obtain ⟨seen, hfile⟩ := hheld hseen
    exact giveAll_ne_ok_of_given (by decide) hfile List.mem_cons_self hgives

/-- One more word stands in front of the words. -/
lemma cons (h : ReadAsWritten words) (word : String) : ReadAsWritten (word :: words) := by
  intro arguments pending hasInput result hinput
  cases pending with
  | awaiting parameter =>
    have hvalue : hasInput = true → HoldsInput arguments (.given parameter word) := by
      intro hseen
      obtain ⟨text, hheld | hpending⟩ := hinput hseen
      · exact .of_held ⟨text, hheld⟩
      · cases hpending
    rw [readWords_awaiting_eq_ok_iff hinput, h _ _ _ _ hvalue]
    simp [WritesBehind, and_assoc]
  | nothing | given =>
    rw [exists_writesBehind_iff (by simp), readWords_cons_eq_ok_iff (by simp) hinput]
    refine exists_congr fun next => and_congr_right fun hsettle => ?_
    have hheld : hasInput = true → ∃ text, next.text? .input = some text :=
      fun hseen => (hinput hseen).settled hsettle
    simp only [writes_cons_iff]
    cases Word.ofText word with
    | separator => simp
    | option name value =>
      cases value with
      | none =>
        have hrest : ∀ parameter, _ :=
          fun parameter => h next (.awaiting parameter) hasInput result fun hseen =>
            .of_held (hheld hseen)
        simp only [hrest]
        grind
      | some value =>
        simp only [h.joined hheld]
        grind
    | letters first => simp
    | plain text =>
      simp only [h.file hheld]
      grind

end ReadAsWritten

lemma readAsWritten (words : List String) : ReadAsWritten words := by
  induction words with
  | nil => exact readAsWritten_nil
  | cons word words ih => exact ih.cons word

/-- Words are read as arguments just when they write out values that can all be given. -/
theorem ofWords_eq_ok_iff : ofWords words = .ok result ↔
    ∃ items, Writes words items ∧ giveAll empty items = .ok result :=
  readAsWritten words empty .nothing false result (by simp)

end

end Arguments

end Remittance
