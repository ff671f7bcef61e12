import Mathlib.Tactic.Lemma
import Remittance.Json.Container
/-!
# What readers give

The result of a reader holds a proof that it has taken something from the text. `Gives` and `Finds`
say what else it holds: the value and the rest of the text. The lemmas say what the parts of a
reader have to give for the whole to give it.
-/

namespace Remittance.Json

variable {α β : Type} {cs ds rest : List Char} {value : α}

/-- The step succeeds with this value and leaves this rest. -/
def Gives (step : Except Failure (Parsed α cs)) (value : α) (rest : List Char) : Prop :=
  ∃ h, step = .ok ⟨value, rest, h⟩

/-- The step succeeds with this value in front of this rest. -/
def Finds (step : Except Failure (Reached α cs)) (value : α) (rest : List Char) : Prop :=
  ∃ h, step = .ok ⟨value, rest, h⟩

lemma gives_ok (p : Parsed α cs) : Gives (.ok p) p.value p.rest := ⟨p.shorter, rfl⟩

@[simp] lemma gives_map_widen {step : Except Failure (Parsed α cs)} {h : cs.length ≤ ds.length} :
    Gives (step.map (·.widen h)) value rest ↔ Gives step value rest := by
  constructor
  · rintro ⟨_, heq⟩
    cases step with
    | error failure => cases heq
    | ok p =>
      cases heq
      exact gives_ok p
  · rintro ⟨_, rfl⟩
    exact ⟨_, rfl⟩

lemma Gives.map {step : Except Failure (Parsed α cs)} (f : α → β) (h : Gives step value rest) :
    Gives (step.map (·.map f)) (f value) rest := by
  obtain ⟨_, rfl⟩ := h
  exact ⟨_, rfl⟩

lemma Gives.map_widen {step : Except Failure (Parsed α cs)} (f : α → β)
    {hle : cs.length ≤ ds.length} (h : Gives step value rest) :
    Gives (step.map fun p => (p.map f).widen hle) (f value) rest := by
  obtain ⟨_, rfl⟩ := h
  exact ⟨_, rfl⟩

/-- Blanks in front of a value are passed over. -/
@[simp] lemma gives_afterBlanks {reader : Reader α} :
    Gives (afterBlanks reader cs) value rest ↔ Gives (reader (skipBlanks cs)) value rest :=
  gives_map_widen

/-- There is nothing to pass over in front of another character. -/
lemma skipBlanks_cons {c : Char} (h : isBlank c = false) : skipBlanks (c :: cs) = c :: cs := by
  simp [skipBlanks, h]

end Remittance.Json
