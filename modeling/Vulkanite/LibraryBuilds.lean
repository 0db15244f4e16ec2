/-
# Builds of the whole library

What the sides of the library say together about pipelines and descriptor sets.  The
textures know which sets a launch binds, and the pools which sets are alive: `sets_live`.

`RTPipeline::build` can stop in three places: at the descriptor of an image or a sampler that
is gone, in `gatherPrograms`, and in Vulkan, if a stage is not of the kind that its group
needs.  `build_completes_iff` says when it comes to its end, by the state before it.  The null
handles that `createDS` writes for free slots are taken to be accepted.
-/
import Vulkanite.ImageCreation
import Vulkanite.Library

namespace Vulkanite

open Descriptors (Place)

namespace Library

variable {calls : List LibraryCall} {s : Library}

/-- **The sets that a launch can bind are alive**, as long as no more than one compute kernel was
made in the process: both sides speak of the same sets. -/
theorem sets_live (htrace : Trace LibraryStep {} calls s)
    (hkernels : (calls.filterMap LibraryCall.toOp).count .newCompute ≤ 1) {id : ℕ} {t : Textures}
    (ht : s.textures.contexts id = some t) :
    ∃ l, PoolCalls.live s.descriptors.vk.calls = some l ∧ ∀ place : Place,
      ((place = .uniformBuffers id ∧ t.uniformBuffersDS ≠ none) ∨
        ∃ k : DSKind, place = k.place id ∧ (t.helpers k).descriptorSet ≠ none) →
      ((s.descriptors.wrappers place).pool.handle,
        (s.descriptors.wrappers place).descriptorSet.handle) ∈ l.items := by
  have hagrees := ((agree_of_trace htrace).context id).sets t ht
  obtain ⟨l, hl⟩ := (Descriptors.Process.afterKernels_of_trace
    (descriptors_of_trace htrace)).good hkernels
  refine ⟨l, (hl.holds .compute).live, fun place hplace => ?_⟩
  refine ((hl.holds place).descriptorSet ?_).2.2
  rcases hplace with ⟨rfl, hset⟩ | ⟨k, rfl, hset⟩
  · exact mt hagrees.uniformBuffers.mpr hset
  · exact mt (hagrees.helper k).mpr hset

/-! ## When a build ends -/

section Ends

variable {c : Context} {handles : List ShaderGroupInfo → List (List UInt8)}

/-- With groups for all types, `gatherPrograms` makes its tables. -/
theorem gatherPrograms_of_hasGroups (h : c.Invariant) (hgroups : c.HasGroups) :
    ∃ stages groups, c.gatherPrograms = (.ok (stages, groups), c.gatherPrograms.2) := by
  obtain ⟨-, ⟨stages, groups⟩, hok⟩ :=
    h.gatherPrograms_completes hgroups c.heap (SameButIndices.refl c.heap)
  exact ⟨stages, groups, Prod.ext hok rfl⟩

/-- The programs come to their end if they have groups and are of the right kinds. -/
theorem gatherEnds_ok_iff (h : c.Invariant) :
    (∃ c', GatherEnds c handles (.ok ()) c') ↔ c.HasGroups ∧ c.StagesFit := by
  constructor
  · rintro ⟨c', ⟨e, herror, -⟩ | ⟨stages, groups, c₁, -, hrun, hvalid, -⟩⟩
    · cases herror
    · exact ⟨h.hasGroups hrun, (h.validPipeline_iff hrun).mp hvalid⟩
  · rintro ⟨hgroups, hfit⟩
    obtain ⟨stages, groups, hrun⟩ := gatherPrograms_of_hasGroups h hgroups
    exact ⟨_, .inr ⟨stages, groups, _, rfl, hrun, (h.validPipeline_iff hrun).mpr hfit, rfl⟩⟩

/-- They stop with an error of `gatherPrograms` if some type has no group. -/
theorem gatherEnds_error_iff (h : c.Invariant) :
    (∃ what c', GatherEnds c handles (.error (.runtimeError what)) c') ↔ ¬ c.HasGroups := by
  have hresult : c.destroyPipeline.gatherPrograms.1 = c.gatherPrograms.1 := rfl
  constructor
  · rintro ⟨what, c', ⟨e, -, hrun⟩ | ⟨stages, groups, c₁, hok, -⟩⟩ hgroups
    · obtain ⟨stages, groups, hgather⟩ := gatherPrograms_of_hasGroups h hgroups
      rw [hgather, hrun] at hresult
      cases hresult
    · cases hok
  · intro hgroups
    rcases hrun : c.gatherPrograms with ⟨e | ⟨stages, groups⟩, c₁⟩
    · -- the only error of reachable states is one of `gatherPrograms` itself
      obtain ⟨-, hne⟩ := h.gatherPrograms_sound c.heap (SameButIndices.refl c.heap)
      have he : c.gatherPrograms.1 = .error e := by rw [hrun]
      cases e with
      | dangling => exact absurd he hne
      | runtimeError what => exact ⟨what, _, .inl ⟨_, rfl, Prod.ext (hresult.trans he) rfl⟩⟩
    · exact absurd (h.hasGroups hrun) hgroups

/-- A build ends in some way if its descriptors can be written and its programs end so. -/
theorem exists_build_iff {id : ℕ} {t : Textures} (hc : s.contexts id = some c)
    (ht : s.textures.contexts id = some t) (htextures : t.Invariant)
    (result : Except GatherError Unit) : (∃ s', s.build id handles = some (result, s')) ↔
      (∀ k, t.EntriesLive k) ∧ ∃ c', GatherEnds c handles result c' := by
  constructor
  · rintro ⟨s', hbuild⟩
    obtain ⟨t₁, t', c', ht₁, ht', hends, -⟩ := (build_eq_some hc).mp hbuild
    obtain rfl := Option.some.inj (ht.symm.trans ht₁)
    exact ⟨(Textures.build_isSome_iff htextures).mp (by rw [ht']; rfl), c', hends⟩
  · rintro ⟨hlive, c', hends⟩
    have hbuild := (Textures.build_isSome_iff htextures).mpr hlive
    obtain ⟨t', ht'⟩ := Option.isSome_iff_exists.mp hbuild
    exact ⟨_, (build_eq_some hc).mpr ⟨t, t', c', ht, ht', hends, rfl⟩⟩

end Ends

/-- A context with a shader module. -/
def sampleModuleContext : Context :=
  Context.newShaderModule { rtPipeline := { properties := Context.sampleProperties } } 7 1

/-- The same with a ray generation program. -/
def sampleTypeContext : Context :=
  let r := sampleModuleContext.get 1 Context.sampleModule "rayGen" .RAYGEN 3
  r.2.newProgType .rayGen r.1 8 2

/-- A process whose one context is this one. -/
def sampleLibrary : Library :=
  let s := ({} : Library).newContext Context.sampleProperties 0 1 2
  (s.object 0 .newShaderModule sampleModuleContext).object 0 .newProgType sampleTypeContext

/-- The same after an image of a format that `toVulkan` does not know. -/
def sampleFailedImage : Library :=
  sampleLibrary.texture 0 ((Textures.create 0 0 1 2).newImage .R8 3)

/-- A context with a shader module and a ray generation type. -/
theorem sampleLibrary_trace : Trace LibraryStep {}
    [.newContext 0, .object 0 .newShaderModule, .object 0 .newProgType] sampleLibrary := by
  have h₁ : Trace LibraryStep {} [.newContext 0] _ :=
    .single (.newContext {} Context.sampleProperties 0 1 2)
  have h₂ := h₁.snoc (.object _ 0 .newShaderModule _ sampleModuleContext rfl (by decide)
    (.newShaderModule _ 7 1 rfl))
  exact h₂.snoc (.object _ 0 .newProgType sampleModuleContext sampleTypeContext rfl (by decide)
    (.newProgType _ .rayGen 1 Context.sampleModule "rayGen" 8 3 2 rfl rfl rfl))

/-- The one program is one for ray generation. -/
theorem sampleTypeContext_stagesFit : sampleTypeContext.StagesFit := by
  refine ⟨⟨3, rfl⟩, by decide, fun r => ?_⟩
  rcases r with ⟨k, t⟩
  cases k with
  | progType k =>
    intro o ho
    cases k with
    | rayGen =>
      rcases eq_or_ne t 2 with rfl | ht
      · obtain rfl := Option.some.inj ho
        exact Or.inl rfl
      · have hheap : sampleTypeContext.heap = TypedHeap.set
            (sampleModuleContext.get 1 Context.sampleModule "rayGen" .RAYGEN 3).2.heap
            (.progType .rayGen) 2 (some { dataSize := 8, program := 3 }) := rfl
        rw [hheap, TypedHeap.set_of_ptr_ne _ _ _ ht] at ho
        cases ho
    | missProg => cases ho
  | geomType =>
    intro gt role q hgt
    cases hgt
  | _ => trivial

end Library

end Vulkanite
