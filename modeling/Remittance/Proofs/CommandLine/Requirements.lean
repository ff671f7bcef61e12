import Remittance.Proofs.CommandLine.Words
/-!
# Which arguments go together

A table of accounts and an instruction ask for each other, a file for the resulting accounts asks
for the table, and a file of requests excludes the table (`Parameter.requires`,
`Parameter.excludes`). What is asked for counts through several parameters (`Arguments.Asked`), and
need not be given where something that is given excludes it (`Arguments.Waived`).

`Arguments.check` accepts just the arguments that keep these rules (`Arguments.check_eq_ok_iff`).
They are of two kinds: those that name a file of requests, and those that name a table and an
instruction (`Arguments.keepsRules_iff`). A file of requests waives the table, but nothing waives
the instruction that the table asks for: a file for the resulting accounts is refused beside a file
of requests, unless an instruction is given as well.
-/

namespace Remittance

/-- The parameters that have to be given beside this one. -/
def Parameter.requires : Parameter → List Parameter
  | .accounts => [.instruction]
  | .instruction => [.accounts]
  | .accountsOut => [.accounts]
  | _ => []

/-- The parameters that must not be given beside this one. -/
def Parameter.excludes : Parameter → List Parameter
  | .input => [.accounts]
  | _ => []

namespace Arguments

/-- A text is given for the parameter. -/
def Gives (arguments : Arguments) (parameter : Parameter) : Prop :=
  (arguments.text? parameter).isSome

/-- What is given asks for the parameter, directly or through what it asks for. -/
inductive Asked (arguments : Arguments) : Parameter → Prop
  | given {parameter asked : Parameter} (gives : arguments.Gives parameter)
      (requires : asked ∈ parameter.requires) : Asked arguments asked
  | through {parameter asked : Parameter} (above : Asked arguments parameter)
      (requires : asked ∈ parameter.requires) : Asked arguments asked

/-- What is given excludes the parameter, or is excluded by it. -/
def Waived (arguments : Arguments) (parameter : Parameter) : Prop :=
  ∃ other, arguments.Gives other ∧
    (other ∈ parameter.excludes ∨ parameter ∈ other.excludes)

/-- The arguments go together. -/
structure KeepsRules (arguments : Arguments) : Prop where
  /-- Nothing excludes something else. -/
  compatible : ∀ parameter other, arguments.Gives parameter → arguments.Gives other →
    other ∉ parameter.excludes
  /-- Everything that is asked for is given or waived. -/
  supplied : ∀ parameter, arguments.Asked parameter →
    arguments.Gives parameter ∨ arguments.Waived parameter
  /-- There is something to read. -/
  readable : arguments.Gives .input ∨ arguments.Gives .accounts

/-- A file of requests is named, and no table. -/
def NamesFile (arguments : Arguments) : Prop :=
  arguments.Gives .input ∧ ¬ arguments.Gives .accounts ∧
    (arguments.Gives .accountsOut → arguments.Gives .instruction)

/-- A table of accounts and an instruction are named, and no file of requests. -/
def NamesTable (arguments : Arguments) : Prop :=
  ¬ arguments.Gives .input ∧ arguments.Gives .accounts ∧ arguments.Gives .instruction

variable {arguments result : Arguments} {parameter other : Parameter}

lemma mem_excludes_iff : other ∈ parameter.excludes ↔ parameter = .input ∧ other = .accounts := by
  cases parameter <;> simp [Parameter.excludes]

/-- The table and the instruction are all that is asked for, and each asks for the other. -/
lemma asked_iff : arguments.Asked parameter ↔
    (parameter = .accounts ∨ parameter = .instruction) ∧
      (arguments.Gives .accounts ∨ arguments.Gives .instruction ∨ arguments.Gives .accountsOut) := by
  constructor
  · intro h
    induction h with
    | @given parameter _ gives requires =>
      cases parameter with
      | accounts => exact ⟨.inr (List.mem_singleton.mp requires), .inl gives⟩
      | instruction => exact ⟨.inl (List.mem_singleton.mp requires), .inr (.inl gives)⟩
      | accountsOut => exact ⟨.inl (List.mem_singleton.mp requires), .inr (.inr gives)⟩
      | _ => cases requires
    | through _ requires ih =>
      obtain ⟨rfl | rfl, hgives⟩ := ih
      · exact ⟨.inr (List.mem_singleton.mp requires), hgives⟩
      · exact ⟨.inl (List.mem_singleton.mp requires), hgives⟩
  · intro h
    obtain ⟨hparameter, hgives⟩ := h
    have haccounts : arguments.Asked .accounts := by
      rcases hgives with haccounts | hinstruction | hout
      · exact .through (.given haccounts (List.mem_singleton_self _)) (List.mem_singleton_self _)
      · exact .given hinstruction (List.mem_singleton_self _)
      · exact .given hout (List.mem_singleton_self _)
    rcases hparameter with rfl | rfl
    · exact haccounts
    · exact .through haccounts (List.mem_singleton_self _)

lemma waived_accounts_iff : arguments.Waived .accounts ↔ arguments.Gives .input := by
  simp [Waived, mem_excludes_iff]

lemma not_waived_instruction : ¬ arguments.Waived .instruction := by
  simp [Waived, mem_excludes_iff]

/-- The arguments that keep the rules are of two kinds. -/
theorem keepsRules_iff : arguments.KeepsRules ↔ arguments.NamesFile ∨ arguments.NamesTable := by
  constructor
  · intro h
    have hsupplied : ∀ parameter, parameter = .accounts ∨ parameter = .instruction →
        (arguments.Gives .accounts ∨ arguments.Gives .instruction ∨ arguments.Gives .accountsOut) →
          arguments.Gives parameter ∨ arguments.Waived parameter :=
      fun parameter hparameter hgives => h.supplied _ (asked_iff.mpr ⟨hparameter, hgives⟩)
    by_cases hinput : arguments.Gives .input
    · have haccounts : ¬ arguments.Gives .accounts := fun haccounts =>
        h.compatible _ _ hinput haccounts (mem_excludes_iff.mpr ⟨rfl, rfl⟩)
      refine .inl ⟨hinput, haccounts, fun hout => ?_⟩
      exact (hsupplied _ (.inr rfl) (.inr (.inr hout))).resolve_right not_waived_instruction
    · have haccounts : arguments.Gives .accounts := h.readable.resolve_left hinput
      refine .inr ⟨hinput, haccounts, ?_⟩
      exact (hsupplied _ (.inr rfl) (.inl haccounts)).resolve_right not_waived_instruction
  · intro h
    refine ⟨fun parameter other hgives hother hmem => ?_, fun parameter hasked => ?_, ?_⟩
    · obtain ⟨rfl, rfl⟩ := mem_excludes_iff.mp hmem
      rcases h with hfile | htable
      · exact hfile.2.1 hother
      · exact htable.1 hgives
    · obtain ⟨rfl | rfl, hgives⟩ := asked_iff.mp hasked
      · rw [waived_accounts_iff]
        exact h.symm.imp (fun htable => htable.2.1) (fun hfile => hfile.1)
      · left
        rcases h with hfile | htable
        · rcases hgives with haccounts | hinstruction | hout
          · exact absurd haccounts hfile.2.1
          · exact hinstruction
          · exact hfile.2.2 hout
        · exact htable.2.2
    · exact h.imp (fun hfile => hfile.1) (fun htable => htable.2.1)

/-- Just the arguments that keep the rules are accepted, as they are. -/
theorem check_eq_ok_iff :
    arguments.check = .ok result ↔ arguments.KeepsRules ∧ arguments = result := by
  have hrules : arguments.KeepsRules ↔ ¬ arguments.Conflicting ∧ arguments.Complete := by
    rw [keepsRules_iff]
    simp only [NamesFile, NamesTable, Conflicting, Complete, Gives, text?]
    grind
  rw [hrules]
  unfold check
  split
  · simp [*]
  · split
    · simp [*]
    · simp [*]

end Arguments

end Remittance
