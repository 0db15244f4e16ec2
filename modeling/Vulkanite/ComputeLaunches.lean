/-
# Compute kernels before the pipeline

`Compute::launch` makes the set for the uniform buffer if there is none, but the pipeline
layout and the sets for samplers and images that it binds are those of the `RTPipeline`,
which only `RTPipeline::build` makes.

The runs of this module are those of a process with one context, so no other context has
launched and taken the one set for the uniform buffer.  Each call of the API is recorded
with what the compute kernels that it launches bind, and a kernel binds handles that are
not null exactly if the pipeline was built before (`OneContext.Invariant.computeLaunch`).
-/
import Vulkanite.TextureRuns

namespace Vulkanite

/-! ## Calls of the API -/

/-- The three classes of accels. -/
inductive AccelClass where
  | TrianglesGeomAccel
  | UserGeomAccel
  | InstanceAccel
  deriving DecidableEq, Repr

/-- The calls that concern textures, pipelines and launches.  `vknAccelBuild` is called
for an accel of the class with so many geometries. -/
inductive APICall where
  | texture (op : TextureOp)
  | buildPipeline
  | rayGenLaunch
  | computeLaunch
  | accelBuild (accel : AccelClass) (numGeoms : ℕ)
  | other
  deriving DecidableEq, Repr

/-- The number of compute kernels that a call launches. -/
def APICall.kernels : APICall → ℕ
  | .computeLaunch => 1
  | .accelBuild .UserGeomAccel numGeoms => numGeoms
  | _ => 0

/-- A call, and what `vkCmdBindDescriptorSets` got from its compute kernels. -/
structure APIEvent where
  call : APICall
  binds : List BindDescriptorSets := []

/-- No handle is null. -/
def BindDescriptorSets.NonNull (call : BindDescriptorSets) : Prop :=
  call.layout ≠ none ∧ call.descriptorSets.length = 3 ∧ none ∉ call.descriptorSets

/-- The textures of the only context of a process, and the static variable of
`Context::rebuildDescriptors`. -/
structure OneContext where
  textures : Textures
  created : Bool := false

namespace OneContext

/-- `Context::Context`. -/
def create (context device : ℕ) (defaultImage defaultSampler : Ptr) : OneContext where
  textures := Textures.create context device defaultImage defaultSampler

/-- `Compute::launch`, with what it binds. -/
def computeLaunch (c : OneContext) : BindDescriptorSets × OneContext :=
  let r := c.textures.computeLaunch c.created
  (r.2.bind, { textures := r.2, created := r.1 })

/-- `Context::launch`. -/
def launch (c : OneContext) : OneContext :=
  let r := c.textures.launch c.created
  { textures := r.2, created := r.1 }

/-- The bounds kernels in `UserGeomAccel::build`, one for each geometry. -/
def boundsLaunches : ℕ → OneContext → List BindDescriptorSets × OneContext
  | 0, c => ([], c)
  | n + 1, c =>
    let r := c.computeLaunch
    let rs := boundsLaunches n r.2
    (r.1 :: rs.1, rs.2)

/-- `vknAccelBuild`, as far as it launches kernels. -/
def accelBuild (c : OneContext) : AccelClass → ℕ → List BindDescriptorSets × OneContext
  | .UserGeomAccel, numGeoms => boundsLaunches numGeoms c
  | .TrianglesGeomAccel, _ => ([], c)
  | .InstanceAccel, _ => ([], c)

end OneContext

open OneContext in
/-- One call.  Nothing is required of the order of the calls. -/
inductive APIStep : APIEvent → OneContext → OneContext → Prop
  | texture (c : OneContext) (op : TextureOp) (s : Textures)
      (hop : op ∈ [TextureOp.newImage, .newSampler, .deleteObj])
      (hstep : TextureStep op c.textures s) :
      APIStep { call := .texture op } c { c with textures := s }
  | buildPipeline (c : OneContext) (s : Textures) (hbuild : c.textures.build = some s) :
      APIStep { call := .buildPipeline } c { c with textures := s }
  | rayGenLaunch (c : OneContext) : APIStep { call := .rayGenLaunch } c c.launch
  | computeLaunch (c : OneContext) :
      APIStep { call := .computeLaunch, binds := [c.computeLaunch.1] } c c.computeLaunch.2
  | accelBuild (c : OneContext) (accel : AccelClass) (numGeoms : ℕ) :
      APIStep { call := .accelBuild accel numGeoms, binds := (c.accelBuild accel numGeoms).1 } c
        (c.accelBuild accel numGeoms).2
  | other (c : OneContext) : APIStep { call := .other } c c

namespace OneContext

/-! ## The invariant -/

/-- What holds between calls, when `built` says whether the pipeline was built: the
handles of the `RTPipeline` are null until then, and the static variable is only set
together with the set for the uniform buffer. -/
structure Invariant (c : OneContext) (built : Prop) : Prop where
  textures : c.textures.Invariant
  created : c.created = true → c.textures.uniformBuffersDS ≠ none
  layout : c.textures.layout ≠ none ↔ built
  descriptorSet : ∀ k, (c.textures.helpers k).descriptorSet ≠ none ↔ built

variable {c c' : OneContext} {built : Prop}

theorem Invariant.congr (h : c.Invariant built) {built' : Prop} (hiff : built' ↔ built) :
    c.Invariant built' := by
  rw [propext hiff]
  exact h

theorem invariant_create (context device : ℕ) (defaultImage defaultSampler : Ptr) :
    (create context device defaultImage defaultSampler).Invariant False where
  textures := Textures.invariant_create context device defaultImage defaultSampler
  created := by rintro ⟨⟩
  layout := ⟨fun h => h rfl, False.elim⟩
  descriptorSet := by
    intro k
    cases k with
    | samplers => exact ⟨fun h => h rfl, False.elim⟩
    | image2Ds => exact ⟨fun h => h rfl, False.elim⟩

/-- The set for the uniform buffer is there after the test for it. -/
theorem Invariant.requireUniformBuffers (h : c.Invariant built) :
    OneContext.Invariant { textures := (c.textures.requireUniformBuffers c.created).2
                           created := (c.textures.requireUniformBuffers c.created).1 } built ∧
      (c.textures.requireUniformBuffers c.created).2.uniformBuffersDS ≠ none := by
  rw [Textures.requireUniformBuffers_eq]
  split_ifs with hnone
  · have hds : ∀ ds : DescriptorSet, some ds ≠ none := Option.some_ne_none
    exact ⟨⟨⟨h.textures.numbered, h.textures.nonempty⟩, fun _ => hds _, h.layout, h.descriptorSet⟩,
      hds _⟩
  · refine ⟨h, fun hds => hnone ⟨hds, ?_⟩⟩
    exact Bool.eq_false_iff.mpr fun hcreated => h.created hcreated hds

/-- **A kernel binds no null handle exactly if** the pipeline was built. -/
theorem Invariant.computeLaunch (h : c.Invariant built) :
    c.computeLaunch.2.Invariant built ∧ (c.computeLaunch.1.NonNull ↔ built) := by
  obtain ⟨hi, hds⟩ := h.requireUniformBuffers
  simp only [OneContext.computeLaunch, Textures.computeLaunch_eq]
  refine ⟨hi, fun hnonNull => hi.layout.mp hnonNull.1, fun hbuilt => ?_⟩
  have hsets := fun k => (hi.descriptorSet k).mpr hbuilt
  refine ⟨hi.layout.mpr hbuilt, rfl, ?_⟩
  simp only [Textures.bind, List.mem_cons, List.not_mem_nil, or_false, not_or]
  exact ⟨hds.symm, (hsets .samplers).symm, (hsets .image2Ds).symm⟩

theorem Invariant.launch (h : c.Invariant built) : c.launch.Invariant built := by
  simp only [OneContext.launch, Textures.launch_eq]
  exact h.requireUniformBuffers.1

/-- The kernels of one accel, one after the other. -/
theorem Invariant.boundsLaunches (n : ℕ) (h : c.Invariant built) :
    (boundsLaunches n c).2.Invariant built ∧ (boundsLaunches n c).1.length = n ∧
      ∀ b ∈ (boundsLaunches n c).1, b.NonNull ↔ built := by
  induction n generalizing c with
  | zero => exact ⟨h, rfl, fun b hb => by cases hb⟩
  | succ n ih =>
    obtain ⟨hi, hbind⟩ := h.computeLaunch
    obtain ⟨hi', hlength, hbinds⟩ := ih hi
    refine ⟨hi', congrArg (· + 1) hlength, ?_⟩
    rw [OneContext.boundsLaunches, List.forall_mem_cons]
    exact ⟨hbind, hbinds⟩

theorem Invariant.accelBuild (h : c.Invariant built) (accel : AccelClass) (numGeoms : ℕ) :
    (c.accelBuild accel numGeoms).2.Invariant built ∧
      (c.accelBuild accel numGeoms).1.length = (APICall.accelBuild accel numGeoms).kernels ∧
      ∀ b ∈ (c.accelBuild accel numGeoms).1, b.NonNull ↔ built := by
  cases accel with
  | UserGeomAccel => exact h.boundsLaunches numGeoms
  | TrianglesGeomAccel => exact ⟨h, rfl, fun b hb => by cases hb⟩
  | InstanceAccel => exact ⟨h, rfl, fun b hb => by cases hb⟩

/-- Making and destroying samplers and images. -/
theorem Invariant.texture (h : c.Invariant built) {op : TextureOp} {s : Textures}
    (hop : op ∈ [TextureOp.newImage, .newSampler, .deleteObj])
    (hstep : TextureStep op c.textures s) :
    OneContext.Invariant { c with textures := s } built := by
  have hne : op ≠ .build := by
    rintro rfl
    exact absurd hop (by decide)
  have hnotLaunch : op ∉ [TextureOp.launch, .computeLaunch] := by
    intro hmem
    cases op <;> simp at hop hmem
  have hsince := (Textures.SinceBuild.refl c.textures).step hne hstep
  refine ⟨hstep.invariant h.textures, ?_, ?_, fun k => ?_⟩
  · simp only [(hstep.frame h.textures hnotLaunch).2.2]
    exact h.created
  · rw [hsince.layout]
    exact h.layout
  · rw [hsince.descriptorSet]
    exact h.descriptorSet k

/-- `RTPipeline::build` makes all three handles. -/
theorem Invariant.buildPipeline (h : c.Invariant built) {s : Textures}
    (hbuild : c.textures.build = some s) :
    OneContext.Invariant { c with textures := s } True := by
  have hi := (TextureStep.build _ _ hbuild).invariant h.textures
  obtain ⟨infos, -, rfl⟩ := Textures.build_eq_some h.textures hbuild
  exact ⟨hi, h.created, ⟨fun _ => trivial, fun _ => Option.some_ne_none _⟩,
    fun k => ⟨fun _ => trivial, fun _ => Option.some_ne_none _⟩⟩

/-! ## Every run -/

/-- What a call does, if `built` says whether the pipeline was built before it. -/
structure CallSpec (e : APIEvent) (c' : OneContext) (built : Prop) : Prop where
  invariant : c'.Invariant (built ∨ e.call = .buildPipeline)
  length : e.binds.length = e.call.kernels
  nonNull : ∀ b ∈ e.binds, b.NonNull ↔ built

/-- A call other than `vknBuildPipeline`. -/
theorem CallSpec.of_ne {e : APIEvent} (hcall : e.call ≠ .buildPipeline)
    (h : c'.Invariant built) (hlength : e.binds.length = e.call.kernels)
    (hbinds : ∀ b ∈ e.binds, b.NonNull ↔ built) : CallSpec e c' built :=
  ⟨h.congr (or_iff_left hcall), hlength, hbinds⟩

end OneContext

open OneContext in
/-- **Step lemma**. -/
theorem APIStep.spec {e : APIEvent} {c c' : OneContext} {built : Prop} (hstep : APIStep e c c')
    (h : c.Invariant built) : CallSpec e c' built := by
  cases hstep with
  | texture _ op s hop hstep =>
    exact .of_ne (by simp) (h.texture hop hstep) rfl fun b hb => by cases hb
  | buildPipeline _ s hbuild =>
    exact ⟨(h.buildPipeline hbuild).congr (by simp), rfl, fun b hb => by cases hb⟩
  | rayGenLaunch => exact .of_ne (by simp) h.launch rfl fun b hb => by cases hb
  | computeLaunch =>
    obtain ⟨hi, hbind⟩ := h.computeLaunch
    refine .of_ne (by simp) hi rfl fun b hb => ?_
    rw [List.mem_singleton.mp hb]
    exact hbind
  | accelBuild _ accel numGeoms =>
    obtain ⟨hi, hlength, hbinds⟩ := h.accelBuild accel numGeoms
    exact .of_ne (by simp) hi hlength hbinds
  | other => exact .of_ne (by simp) h rfl fun b hb => by cases hb

namespace OneContext

/-- The pipeline was built in these calls. -/
def Built (es : List APIEvent) : Prop := ∃ e ∈ es, e.call = .buildPipeline

/-- Every kernel is launched by a call after a `vknBuildPipeline`. -/
def KernelsAfterBuild (es : List APIEvent) : Prop :=
  ∀ before e after, es = before ++ e :: after → 0 < e.call.kernels → Built before

/-- **Run lemma**: the handles are there if the pipeline was built. -/
theorem invariant_of_trace {context device : ℕ} {defaultImage defaultSampler : Ptr}
    {es : List APIEvent} {c : OneContext}
    (htrace : Trace APIStep (create context device defaultImage defaultSampler) es c) :
    c.Invariant (Built es) := by
  induction htrace with
  | nil => exact (invariant_create _ _ _ _).congr (by simp [Built])
  | snoc _ hstep ih =>
    refine (hstep.spec ih).invariant.congr ?_
    simp only [Built, List.mem_append, List.mem_singleton, or_and_right, exists_or,
      exists_eq_left]

/-- **All kernels bind handles that are not null exactly if** each of them is launched
after a `vknBuildPipeline`.  No other context of the process has launched before: the set
for the uniform buffer is made once in a process. -/
theorem kernels_nonNull_iff {context device : ℕ} {defaultImage defaultSampler : Ptr}
    {es : List APIEvent} {c : OneContext}
    (htrace : Trace APIStep (create context device defaultImage defaultSampler) es c) :
    (∀ e ∈ es, ∀ b ∈ e.binds, b.NonNull) ↔ KernelsAfterBuild es := by
  have hspec : ∀ before e after, es = before ++ e :: after →
      e.binds.length = e.call.kernels ∧ ∀ b ∈ e.binds, b.NonNull ↔ Built before := by
    intro before e after heq
    obtain ⟨c₁, c₂, hbefore, hstep⟩ := htrace.split heq
    have hcall := hstep.spec (invariant_of_trace hbefore)
    exact ⟨hcall.length, hcall.nonNull⟩
  constructor
  · intro hall before e after heq hkernels
    obtain ⟨hlength, hbinds⟩ := hspec before e after heq
    obtain ⟨b, hb⟩ := List.exists_mem_of_length_pos (hlength ▸ hkernels)
    have he : e ∈ es := heq ▸ List.mem_append_right _ List.mem_cons_self
    exact (hbinds b hb).mp (hall e he b hb)
  · intro hafter e he b hb
    obtain ⟨before, after, heq⟩ := List.append_of_mem he
    obtain ⟨hlength, hbinds⟩ := hspec before e after heq
    exact (hbinds b hb).mpr (hafter before e after heq (hlength ▸ List.length_pos_of_mem hb))

/-- It is enough to build the pipeline first. -/
theorem kernelsAfterBuild_cons {e : APIEvent} (he : e.call = .buildPipeline)
    (es : List APIEvent) : KernelsAfterBuild (e :: es) := by
  intro before e' after heq hkernels
  cases before with
  | nil =>
    obtain ⟨rfl, -⟩ := List.cons.inj heq
    rw [he] at hkernels
    exact absurd hkernels (by decide)
  | cons x before =>
    obtain ⟨rfl, -⟩ := List.cons.inj heq
    exact ⟨e, List.mem_cons_self, he⟩

/-! ## Two orders -/

/-- The bounds kernel of an accel that is built first binds a null layout and two null
sets. -/
theorem accelBuild_before_buildPipeline :
    ¬ ∀ (es : List APIEvent) (c : OneContext), Trace APIStep (create 0 0 1 2) es c →
      ∀ e ∈ es, ∀ b ∈ e.binds, b.NonNull := by
  intro hall
  have hnull := hall _ _ (.single (.accelBuild _ .UserGeomAccel 1)) _ (List.mem_singleton_self _) _
    (List.mem_singleton_self _)
  exact hnull.1 rfl

/-- The pipeline first, then an accel of two geometries and a kernel. -/
theorem kernels_nonNull_iff_buildPipeline : ∃ es c, Trace APIStep (create 0 0 1 2) es c ∧
    es.map APIEvent.call = [.buildPipeline, .accelBuild .UserGeomAccel 2, .computeLaunch] ∧
    ∀ e ∈ es, ∀ b ∈ e.binds, b.NonNull := by
  have htrace := Trace.snoc (Trace.snoc
    (Trace.single (APIStep.buildPipeline (create 0 0 1 2) _ Textures.sampleTextures_build))
    (APIStep.accelBuild _ .UserGeomAccel 2)) (APIStep.computeLaunch _)
  exact ⟨_, _, htrace, rfl, (kernels_nonNull_iff htrace).mpr (kernelsAfterBuild_cons rfl _)⟩

end OneContext

end Vulkanite
