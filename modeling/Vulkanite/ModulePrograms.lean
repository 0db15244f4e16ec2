/-
# `ShaderModule::get`

A shader module hands out programs for an entry point and a stage.  It keeps a weak
pointer to each program it made, so that a program that is still alive is handed out
again; but the map from entry points to these pointers knows nothing of stages.

The runs of this module are all orders of calls of `get` on one module and of
destructions of programs.  The program that is still alive is always found
(`History.handedOut`), and it is the one that was asked for exactly if no entry point is
asked for with a second stage while the program for the first one lives
(`get_returnsAsked_iff`).
-/
import Vulkanite.ContextRuns
import Vulkanite.Lib.Traces

namespace Vulkanite

open TypedHeap

/-- A call of `get` on the module, with the pointer that it returned and the program that
is there, or the destruction of a program. -/
inductive ProgramEvent where
  | get (entryPoint : String) (stage : ShaderStage) (prog : Ptr) (returned : Option ShaderProgram)
  | destroy (prog : Ptr)
  deriving DecidableEq, Repr

/-- A call of `get` on the module at `m`, or the end of a program. -/
inductive ProgramStep (m : Ptr) : ProgramEvent → Context → Context → Prop
  | get (c : Context) (mod : ShaderModule) (entryPoint : String) (stage : ShaderStage) (p : Ptr)
      (hm : c.heap .shaderModule m = some mod) (hp : c.heap .shaderProgram p = none) :
      ProgramStep m
        (.get entryPoint stage (c.get m mod entryPoint stage p).1
          ((c.get m mod entryPoint stage p).2.heap .shaderProgram
            (c.get m mod entryPoint stage p).1))
        c (c.get m mod entryPoint stage p).2
  | destroy (c : Context) (p : Ptr) (hp : (c.heap .shaderProgram p).isSome) :
      ProgramStep m (.destroy p) c (c.deleteShaderProgram p)

namespace ProgramEvent

/-! ## What is expected of a history -/

/-- Every call returns a program with the entry point and the stage it was asked for. -/
def ReturnsAsked (es : List ProgramEvent) : Prop :=
  ∀ entryPoint stage p returned, .get entryPoint stage p returned ∈ es →
    ∃ o, returned = some o ∧ o.entryPoint = entryPoint ∧ o.stage = stage

/-- Two calls with the same arguments return the same program, unless it was destroyed
in between. -/
def SharesLive (es : List ProgramEvent) : Prop :=
  ∀ before entryPoint stage p r mid p' r' after,
    es = before ++ .get entryPoint stage p r :: (mid ++ .get entryPoint stage p' r' :: after) →
    .destroy p ∉ mid → p' = p

/-- Two calls for one entry point ask for the same stage, unless the program that the
first one returned was destroyed in between. -/
def OneStageWhileLive (es : List ProgramEvent) : Prop :=
  ∀ before entryPoint stage p r mid stage' p' r' after,
    es = before ++ .get entryPoint stage p r :: (mid ++ .get entryPoint stage' p' r' :: after) →
    .destroy p ∉ mid → stage' = stage

end ProgramEvent

open ProgramEvent

/-- The programs after a new one was made and stored in its module. -/
theorem newShaderProgram_setObj_heap (c : Context) (m : Ptr) (entryPoint : String)
    (stage : ShaderStage) (p : Ptr) (mod : Option ShaderModule) (q : Ptr) :
    ((c.newShaderProgram m entryPoint stage p).setObj .shaderModule m mod).heap .shaderProgram q =
      set c.heap .shaderProgram p (some { entryPoint, shaderModule := m, stage })
        .shaderProgram q := by
  show set (c.newShaderProgram m entryPoint stage p).heap .shaderModule m mod .shaderProgram q = _
  rw [set_of_kind_ne _ _ _ (by decide)]
  rfl

/-! ## The invariant -/

/-- What the events `es` tell about the context after them: the programs in the map of the
module at `m` are those that were handed out and not destroyed, and each has the stage of
the call that made it. -/
structure History (m : Ptr) (es : List ProgramEvent) (c : Context) (mod : ShaderModule) :
    Prop where
  module : c.heap .shaderModule m = some mod
  handedOut : ∀ before entryPoint stage p r after,
    es = before ++ .get entryPoint stage p r :: after → .destroy p ∉ after →
    mod.programs entryPoint = some p ∧ c.heap .shaderProgram p = r
  made : ∀ entryPoint p, mod.programs entryPoint = some p → ∃ o before r after,
    c.heap .shaderProgram p = some o ∧ o.entryPoint = entryPoint ∧
      es = before ++ .get entryPoint o.stage p r :: after ∧ .destroy p ∉ after

namespace History

variable {m : Ptr} {es : List ProgramEvent} {c : Context} {mod : ShaderModule}

/-- A new module has handed out nothing. -/
theorem init {handle : ℕ}
    (hm : c.heap .shaderModule m = some { handle, programs := fun _ => none }) :
    History m [] c { handle, programs := fun _ => none } where
  module := hm
  handedOut := fun before _ _ _ _ _ heq => by simp at heq
  made := fun _ _ h => by cases h

/-- A call that finds a program. -/
theorem get_found (h : History m es c mod) {entryPoint : String} {p : Ptr}
    (hfound : mod.programs entryPoint = some p) (stage : ShaderStage) :
    History m (es ++ [.get entryPoint stage p (c.heap .shaderProgram p)]) c mod where
  module := h.module
  handedOut := by
    intro before entryPoint' stage' p' r after heq hlive
    rcases Trace.split_concat _ heq with ⟨-, he, -⟩ | ⟨after', rfl, hes⟩
    · obtain ⟨rfl, rfl, rfl, rfl⟩ := ProgramEvent.get.inj he
      exact ⟨hfound, rfl⟩
    · exact h.handedOut before entryPoint' stage' p' r after' hes
        fun hmem => hlive (List.mem_append_left _ hmem)
  made := by
    intro entryPoint' p' hp'
    obtain ⟨o, before, r, after, ho, hentry, hes, hlive⟩ := h.made entryPoint' p' hp'
    refine ⟨o, before, r, after ++ [_], ho, hentry, by rw [hes, List.append_assoc]; rfl, ?_⟩
    simpa using hlive

/-- A call that makes a program. -/
theorem get_new (h : History m es c mod) {entryPoint : String} {p : Ptr}
    (hnew : mod.programs entryPoint = none) (hp : c.heap .shaderProgram p = none)
    (stage : ShaderStage) :
    History m (es ++ [.get entryPoint stage p (some { entryPoint, shaderModule := m, stage })])
      ((c.newShaderProgram m entryPoint stage p).setObj .shaderModule m
        (some { mod with programs := Function.update mod.programs entryPoint (some p) }))
      { mod with programs := Function.update mod.programs entryPoint (some p) } := by
  have hheap := newShaderProgram_setObj_heap c m entryPoint stage p
    (some { mod with programs := Function.update mod.programs entryPoint (some p) })
  -- the programs that the map knows are elsewhere
  have hold : ∀ entryPoint' q, mod.programs entryPoint' = some q → q ≠ p := by
    rintro entryPoint' q hq rfl
    obtain ⟨o, -, -, -, ho, -⟩ := h.made entryPoint' q hq
    rw [hp] at ho
    cases ho
  refine ⟨set_self (c.newShaderProgram m entryPoint stage p).heap .shaderModule m _, ?_, ?_⟩
  · intro before entryPoint' stage' p' r after heq hlive
    rw [hheap]
    rcases Trace.split_concat _ heq with ⟨-, he, -⟩ | ⟨after', rfl, hes⟩
    · obtain ⟨rfl, rfl, rfl, rfl⟩ := ProgramEvent.get.inj he
      exact ⟨Function.update_self _ _ _, set_self _ _ _ _⟩
    · obtain ⟨hp', hr⟩ := h.handedOut before entryPoint' stage' p' r after' hes
        fun hmem => hlive (List.mem_append_left _ hmem)
      have hne : entryPoint' ≠ entryPoint := by
        rintro rfl
        rw [hnew] at hp'
        cases hp'
      exact ⟨(Function.update_of_ne hne _ _).trans hp',
        (set_of_ptr_ne _ _ _ (hold entryPoint' p' hp')).trans hr⟩
  · intro entryPoint' p' hp'
    rw [hheap]
    simp only [Function.update_apply] at hp'
    split_ifs at hp' with hentry
    · obtain rfl := Option.some.inj hp'
      exact ⟨_, es, _, [], set_self _ _ _ _, hentry.symm, by rw [hentry], List.not_mem_nil⟩
    · obtain ⟨o, before, r, after, ho, hentry', hes, hlive⟩ := h.made entryPoint' p' hp'
      refine ⟨o, before, r, after ++ [_], ?_, hentry', by rw [hes, List.append_assoc]; rfl, ?_⟩
      · rw [set_of_ptr_ne _ _ _ (hold entryPoint' p' hp')]
        exact ho
      · simpa using hlive

/-- The end of a program. -/
theorem destroy (h : History m es c mod) (p : Ptr) :
    History m (es ++ [.destroy p]) (c.deleteShaderProgram p)
      { mod with
        programs := fun e => if mod.programs e = some p then none else mod.programs e } := by
  have hheap : ∀ q, (c.deleteShaderProgram p).heap .shaderProgram q =
      set c.heap .shaderProgram p none .shaderProgram q := fun _ => rfl
  refine ⟨?_, ?_, ?_⟩
  · have hmodule : set c.heap .shaderProgram p none .shaderModule m = some mod := h.module
    simp only [Context.deleteShaderProgram, Context.expireWeak, Function.update_self, hmodule,
      Option.map_some]
  · intro before entryPoint stage q r after heq hlive
    rw [hheap]
    rcases Trace.split_concat _ heq with ⟨-, he, -⟩ | ⟨after', rfl, hes⟩
    · cases he
    · simp only [List.mem_append, List.mem_singleton, ProgramEvent.destroy.injEq, not_or] at hlive
      obtain ⟨hq, hr⟩ := h.handedOut before entryPoint stage q r after' hes hlive.1
      refine ⟨?_, (set_of_ptr_ne _ _ _ hlive.2).trans hr⟩
      simp only [hq, Option.some.injEq, if_neg hlive.2]
  · intro entryPoint q hq
    rw [hheap]
    simp only at hq
    split_ifs at hq with hexp
    have hne : q ≠ p := by
      rintro rfl
      exact hexp hq
    obtain ⟨o, before, r, after, ho, hentry, hes, hlive⟩ := h.made entryPoint q hq
    refine ⟨o, before, r, after ++ [_], (set_of_ptr_ne _ _ _ hne).trans ho, hentry,
      by rw [hes, List.append_assoc]; rfl, ?_⟩
    simpa [hlive] using hne

end History

/-- **Step lemma**. -/
theorem ProgramStep.history {m : Ptr} {e : ProgramEvent} {c c' : Context}
    (hstep : ProgramStep m e c c') {es : List ProgramEvent}
    (h : ∃ mod, History m es c mod) : ∃ mod, History m (es ++ [e]) c' mod := by
  obtain ⟨mod, h⟩ := h
  cases hstep with
  | get _ mod' entryPoint stage p hm hp =>
    obtain rfl := Option.some.inj (h.module.symm.trans hm)
    unfold Context.get
    split
    · exact ⟨mod, h.get_found ‹_› stage⟩
    · dsimp only
      rw [newShaderProgram_setObj_heap, set_self]
      exact ⟨_, h.get_new ‹_› hp stage⟩
  | destroy _ p => exact ⟨_, h.destroy p⟩

/-- **Run lemma**. -/
theorem history_of_trace {m : Ptr} {handle : ℕ} {c₀ c : Context} {es : List ProgramEvent}
    (hm : c₀.heap .shaderModule m = some { handle, programs := fun _ => none })
    (htrace : Trace (ProgramStep m) c₀ es c) : ∃ mod, History m es c mod := by
  induction htrace with
  | nil => exact ⟨_, History.init hm⟩
  | snoc _ hstep ih => exact hstep.history ih

/-! ## When the program is the one that was asked for -/

section

variable {m : Ptr} {handle : ℕ} {c₀ c : Context} {es : List ProgramEvent}

/-- A run up to one of its events. -/
theorem history_upTo (hm : c₀.heap .shaderModule m = some { handle, programs := fun _ => none })
    (htrace : Trace (ProgramStep m) c₀ es c) {before after : List ProgramEvent} {e : ProgramEvent}
    (heq : es = before ++ e :: after) : ∃ c' mod, History m (before ++ [e]) c' mod := by
  obtain ⟨c₁, c₂, hbefore, hstep⟩ := htrace.split heq
  exact ⟨c₂, history_of_trace hm (hbefore.snoc hstep)⟩

/-- Two calls for one entry point return the same program, with the same content, unless
it was destroyed in between. -/
theorem returned_eq (hm : c₀.heap .shaderModule m = some { handle, programs := fun _ => none })
    (htrace : Trace (ProgramStep m) c₀ es c) {before mid after : List ProgramEvent}
    {entryPoint : String} {stage stage' : ShaderStage} {p p' : Ptr} {r r' : Option ShaderProgram}
    (heq : es = before ++ .get entryPoint stage p r ::
      (mid ++ .get entryPoint stage' p' r' :: after)) (hlive : .destroy p ∉ mid) :
    p' = p ∧ r' = r := by
  have hcons : es = (before ++ .get entryPoint stage p r :: mid) ++
      .get entryPoint stage' p' r' :: after := by
    rw [heq, List.append_assoc]
    rfl
  obtain ⟨c', mod, h⟩ := history_upTo hm htrace hcons
  obtain ⟨hp, hr⟩ := h.handedOut before entryPoint stage p r (mid ++ [_])
    (by rw [List.append_assoc]; rfl) (by simpa using hlive)
  obtain ⟨hp', hr'⟩ := h.handedOut _ entryPoint stage' p' r' [] rfl List.not_mem_nil
  obtain rfl := Option.some.inj (hp'.symm.trans hp)
  exact ⟨rfl, hr'.symm.trans hr⟩

/-- **`get` returns what it was asked for, and shares live programs, exactly if** no entry
point is asked for with a second stage while the program returned for it lives. -/
theorem get_returnsAsked_iff
    (hm : c₀.heap .shaderModule m = some { handle, programs := fun _ => none })
    (htrace : Trace (ProgramStep m) c₀ es c) :
    ReturnsAsked es ∧ SharesLive es ↔ OneStageWhileLive es := by
  constructor
  · rintro ⟨hasked, -⟩ before entryPoint stage p r mid stage' p' r' after heq hlive
    obtain ⟨rfl, rfl⟩ := returned_eq hm htrace heq hlive
    obtain ⟨o, ho, -, hstage⟩ := hasked entryPoint stage p' r' (by rw [heq]; simp)
    obtain ⟨o', ho', -, hstage'⟩ := hasked entryPoint stage' p' r' (by rw [heq]; simp)
    obtain rfl := Option.some.inj (ho.symm.trans ho')
    exact hstage'.symm.trans hstage
  · intro hone
    refine ⟨fun entryPoint stage p r hmem => ?_, fun before entryPoint stage p r mid p' r' after
      heq hlive => (returned_eq hm htrace heq hlive).1⟩
    obtain ⟨before, after, heq⟩ := List.append_of_mem hmem
    obtain ⟨c', mod, h⟩ := history_upTo hm htrace heq
    obtain ⟨hp, hr⟩ := h.handedOut before entryPoint stage p r [] rfl List.not_mem_nil
    -- the call that made the program asked for its stage
    obtain ⟨o, before', r', after', ho, hentry, hes, hlive⟩ := h.made entryPoint p hp
    refine ⟨o, hr.symm.trans ho, hentry, ?_⟩
    rcases Trace.split_concat _ hes with ⟨-, he, -⟩ | ⟨mid, rfl, rfl⟩
    · exact (ProgramEvent.get.inj he).2.1.symm
    · refine (hone before' entryPoint o.stage p r' mid stage p r after ?_ ?_).symm
      · rw [heq, List.append_assoc]
        rfl
      · exact fun hmem => hlive (List.mem_append_left _ hmem)

end

/-! ## One name for two stages -/

/-- A context with a new module at address 1. -/
def sampleNewModule : Context :=
  Context.newShaderModule { rtPipeline := { properties := Context.sampleProperties } } 7 1

/-- The closest-hit program is handed out for the any-hit program of the same name. -/
theorem get_second_stage : ¬ ∀ es c, Trace (ProgramStep 1) sampleNewModule es c →
    ReturnsAsked es ∧ SharesLive es := by
  intro hall
  have hfirst : Trace (ProgramStep 1) sampleNewModule _ _ :=
    .single (.get sampleNewModule _ "hit" .CLOSEST_HIT 2 rfl rfl)
  have htrace := hfirst.snoc (.get _ _ "hit" .ANY_HIT 3 rfl rfl)
  obtain ⟨o, ho, -, hstage⟩ := (hall _ _ htrace).1 "hit" .ANY_HIT 2 _
    (List.mem_append_right _ (List.mem_singleton.mpr rfl))
  obtain rfl := Option.some.inj ho
  exact absurd hstage (by decide)

/-- The same with the first program destroyed before the second call. -/
def sampleProgramEvents : List ProgramEvent :=
  [.get "hit" .CLOSEST_HIT 2 (some ⟨"hit", 1, .CLOSEST_HIT, -1⟩), .destroy 2,
   .get "hit" .ANY_HIT 3 (some ⟨"hit", 1, .ANY_HIT, -1⟩)]

theorem get_returnsAsked_iff_sampleProgramEvents :
    (∃ c, Trace (ProgramStep 1) sampleNewModule sampleProgramEvents c) ∧
      ReturnsAsked sampleProgramEvents ∧ SharesLive sampleProgramEvents := by
  have hfirst : Trace (ProgramStep 1) sampleNewModule _ _ :=
    .single (.get sampleNewModule _ "hit" .CLOSEST_HIT 2 rfl rfl)
  have htrace := (hfirst.snoc (.destroy _ 2 rfl)).snoc (.get _ _ "hit" .ANY_HIT 3 rfl rfl)
  have hiff : ReturnsAsked sampleProgramEvents ∧ SharesLive sampleProgramEvents ↔ _ :=
    get_returnsAsked_iff rfl htrace
  refine ⟨⟨_, htrace⟩, hiff.mpr ?_⟩
  intro before entryPoint stage p r mid stage' p' r' after heq hlive
  -- the second of the two calls is the last event, so the program was destroyed before it
  rcases Trace.split_concat [_, _] heq with ⟨-, -, hnil⟩ | ⟨after', htail, hhead⟩
  · simp at hnil
  · rcases Trace.split_concat [_] hhead with ⟨-, he, -⟩ | ⟨after'', rfl, hhead'⟩
    · cases he
    · rcases Trace.split_concat [] hhead' with ⟨-, he, rfl⟩ | ⟨_, -, hnil⟩
      · obtain ⟨-, -, rfl, -⟩ := ProgramEvent.get.inj he
        rcases Trace.split_concat _ htail.symm with ⟨rfl, -, -⟩ | ⟨_, -, hmid⟩
        · exact absurd (List.mem_singleton.mpr rfl) hlive
        · rcases Trace.split_concat [] hmid with ⟨-, he', -⟩ | ⟨_, -, hnil⟩
          · cases he'
          · simp at hnil
      · simp at hnil

end Vulkanite
