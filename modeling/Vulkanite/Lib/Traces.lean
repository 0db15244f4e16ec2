/-
# Traces

`Trace Step s ls s'` says that the steps with labels `ls`, taken in this order, can
lead from `s` to `s'`.  The labels say what happened on the way, so a statement about
a history is a statement about them.
-/
import Mathlib.Tactic

/-- The labels of the steps from one state to another. -/
inductive Trace {L S : Type*} (Step : L → S → S → Prop) (s : S) : List L → S → Prop
  | nil : Trace Step s [] s
  | snoc {ls : List L} {l : L} {s₁ s₂ : S} (htrace : Trace Step s ls s₁) (hstep : Step l s₁ s₂) :
      Trace Step s (ls ++ [l]) s₂

namespace Trace

/-- An element of a list with one more at its end: it is that one, or one of the list. -/
theorem split_concat {L : Type*} (ls : List L) {before after : List L} {l l' : L}
    (heq : ls ++ [l] = before ++ l' :: after) :
    (ls = before ∧ l = l' ∧ after = []) ∨
      ∃ after', after = after' ++ [l] ∧ ls = before ++ l' :: after' := by
  rcases List.eq_nil_or_concat after with rfl | ⟨after', l'', rfl⟩
  · obtain ⟨hls, hl⟩ := List.append_inj' heq rfl
    exact .inl ⟨hls, (List.cons.inj hl).1, rfl⟩
  · rw [List.concat_eq_append, ← List.cons_append, ← List.append_assoc] at heq
    obtain ⟨hls, hl⟩ := List.append_inj' heq rfl
    obtain rfl := (List.cons.inj hl).1
    exact .inr ⟨after', List.concat_eq_append, hls⟩

variable {L S : Type*} {Step : L → S → S → Prop} {s s₁ : S} {ls : List L} {l : L}

theorem single (hstep : Step l s s₁) : Trace Step s [l] s₁ := snoc nil hstep

/-- What the steps with allowed labels keep holds after steps with allowed labels. -/
theorem preserves {allowed : L → Prop} {P : S → Prop} (h : Trace Step s ls s₁)
    (hallowed : ∀ l ∈ ls, allowed l) (hinit : P s)
    (hstep : ∀ l s₁ s₂, allowed l → Step l s₁ s₂ → P s₁ → P s₂) : P s₁ := by
  induction h with
  | nil => exact hinit
  | snoc _ hlast ih =>
    simp only [List.mem_append, List.mem_singleton] at hallowed
    exact hstep _ _ _ (hallowed _ (Or.inr rfl)) hlast (ih fun l hl => hallowed l (Or.inl hl))

/-- What every step keeps holds after every trace. -/
theorem invariant {P : S → Prop} (h : Trace Step s ls s₁) (hinit : P s)
    (hstep : ∀ l s₁ s₂, Step l s₁ s₂ → P s₁ → P s₂) : P s₁ :=
  preserves h (fun _ _ => trivial) hinit
    fun l s₁ s₂ (_ : True) => hstep l s₁ s₂

/-- A trace of a whole is a trace of a part of it, if every step is one of the part, with a label
of its own, or leaves the part alone.  The steps may keep an invariant of the whole. -/
theorem project {L' S' : Type*} {Step' : L' → S' → S' → Prop} {P : S → Prop}
    {label : L → Option L'} (h : Trace Step s ls s₁) (part : S → S') (hinit : P s)
    (hstep : ∀ l s₁ s₂, P s₁ → Step l s₁ s₂ → P s₂)
    (hpart : ∀ l s₁ s₂, P s₁ → Step l s₁ s₂ →
      (label l).elim (part s₂ = part s₁) fun l' => Step' l' (part s₁) (part s₂)) :
    Trace Step' (part s) (ls.filterMap label) (part s₁) := by
  suffices P s₁ ∧ Trace Step' (part s) (ls.filterMap label) (part s₁) from this.2
  induction h with
  | nil => exact ⟨hinit, .nil⟩
  | @snoc ls l s₁ s₂ _ hlast ih =>
    obtain ⟨hP, htrace⟩ := ih
    have hlast' := hpart l s₁ s₂ hP hlast
    refine ⟨hstep l s₁ s₂ hP hlast, ?_⟩
    rw [List.filterMap_append]
    cases hl : label l with
    | none =>
      rw [hl] at hlast'
      have hsame : part s₂ = part s₁ := hlast'
      rw [List.filterMap_cons_none hl, List.filterMap_nil, List.append_nil, hsame]
      exact htrace
    | some l' =>
      rw [hl] at hlast'
      rw [List.filterMap_cons_some hl, List.filterMap_nil]
      exact htrace.snoc hlast'

/-- The trace up to a step, and that step. -/
theorem split (h : Trace Step s ls s₁) {before after : List L} (heq : ls = before ++ l :: after) :
    ∃ s₂ s₃, Trace Step s before s₂ ∧ Step l s₂ s₃ := by
  induction h generalizing after with
  | nil => simp at heq
  | snoc hpre hlast ih =>
    rcases split_concat _ heq with ⟨rfl, rfl, -⟩ | ⟨after', -, hls⟩
    · exact ⟨_, _, hpre, hlast⟩
    · exact ih hls

end Trace
