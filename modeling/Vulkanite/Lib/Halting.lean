/-
# When a program ends

A program that takes one step after the other may end, or go on forever.  `EndsIn` says
that it ends, in a state with some property.

To say exactly from which states it does, one needs a condition that a step neither makes
nor breaks, that decides what a state without a step is, and that makes some rank
smaller with each step (`Criterion`).  The condition then is what was asked for
(`Criterion.endsIn_iff`).
-/
import Mathlib.Computability.StateTransition

namespace Halting

variable {σ : Type*} {step : σ → Option σ} {good Accepts : σ → Prop} {rank : σ → ℕ} {s s' : σ}

/-- The program ends, in a good state. -/
def EndsIn (step : σ → Option σ) (good : σ → Prop) (s : σ) : Prop :=
  ∃ t ∈ StateTransition.eval step s, good t

/-- A step does not change how the program ends. -/
theorem endsIn_step (h : step s = some s') : EndsIn step good s ↔ EndsIn step good s' := by
  have hreaches : StateTransition.Reaches step s s' := .single h
  rw [EndsIn, EndsIn, StateTransition.reaches_eval hreaches]

/-- Nor do several. -/
theorem endsIn_of_reaches (h : StateTransition.Reaches step s s') :
    EndsIn step good s ↔ EndsIn step good s' := by
  rw [EndsIn, EndsIn, StateTransition.reaches_eval h]

/-- A program without a step has ended. -/
theorem endsIn_none (h : step s = none) : EndsIn step good s ↔ good s := by
  constructor
  · rintro ⟨t, ht, hgood⟩
    obtain ⟨hreaches, -⟩ := StateTransition.mem_eval.mp ht
    rcases Relation.ReflTransGen.cases_head hreaches with rfl | ⟨s', hs', -⟩
    · exact hgood
    · rw [Option.mem_def, h] at hs'
      cases hs'
  · exact fun hgood => ⟨s, StateTransition.mem_eval.mpr ⟨.refl, h⟩, hgood⟩

/-- A condition that says from which states the program ends well. -/
structure Criterion (step : σ → Option σ) (good Accepts : σ → Prop) (rank : σ → ℕ) :
    Prop where
  stable : ∀ s s', step s = some s' → (Accepts s ↔ Accepts s')
  progress : ∀ s s', step s = some s' → Accepts s → rank s' < rank s
  final : ∀ s, step s = none → (Accepts s ↔ good s)

namespace Criterion

/-- A run that ends well began in a state with the condition. -/
theorem accepts_of_endsIn (h : Criterion step good Accepts rank) (hs : EndsIn step good s) :
    Accepts s := by
  obtain ⟨t, ht, hgood⟩ := hs
  obtain ⟨hreaches, hend⟩ := StateTransition.mem_eval.mp ht
  induction hreaches using Relation.ReflTransGen.head_induction_on with
  | refl => exact (h.final t hend).mpr hgood
  | head hstep hreaches ih =>
    exact (h.stable _ _ hstep).mpr (ih (StateTransition.mem_eval.mpr ⟨hreaches, hend⟩))

/-- A run from a state with the condition ends, since the rank cannot decrease forever. -/
theorem endsIn_of_accepts (h : Criterion step good Accepts rank) (hs : Accepts s) :
    EndsIn step good s := by
  induction hm : rank s using Nat.strong_induction_on generalizing s with
  | h n ih =>
    cases hstep : step s with
    | none => exact (endsIn_none hstep).mpr ((h.final s hstep).mp hs)
    | some s' =>
      have hless := h.progress s s' hstep hs
      exact (endsIn_step hstep).mpr
        (ih (rank s') (hm ▸ hless) ((h.stable s s' hstep).mp hs) rfl)

/-- **The program ends well exactly from the states with the condition.** -/
theorem endsIn_iff (h : Criterion step good Accepts rank) (s : σ) :
    EndsIn step good s ↔ Accepts s :=
  ⟨h.accepts_of_endsIn, h.endsIn_of_accepts⟩

end Criterion

end Halting
