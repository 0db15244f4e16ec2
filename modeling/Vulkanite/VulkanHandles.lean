/-
# The Vulkan handles of the objects

What the functions of the classes do with the raw handles in their members, read off the
source as commands of a ledger.  The members that hold handles are not released when a
constructor throws, since no destructor runs.  Buffers of a function's own release
themselves, so that making one is a call like any other; the buffers that an accel keeps are
members of the accel, and all other buffers are objects.

Two things are not in the ledger.  Descriptor pools, layouts and sets have wrappers of their
own, and with these a set can be freed when its pool is gone (`DescriptorPools`); here they are
calls that may throw.  And a `VK_CHECK` that fails is assumed to throw, as the comment of
`checkError` says.  Its `throw` is commented out, and what is there in its place throws under
Windows, but raises a signal elsewhere and returns if that is handled.

Of the handles in the ledger no class destroys one twice or loses one (`handles_balanced`),
but for three constructors that have created something when they throw (`leaks_iff`).  What an
instance accel recorded of its children is alive until they are built again
(`references_live_iff`).
-/
import Vulkanite.Lib.HandleLedger

namespace Vulkanite

open HandleLedger

/-! ## The classes -/

/-- The members that hold handles, under the names that they have in their classes. -/
inductive HandleMember where
  | handle
  | imageMemory
  | imageView
  | pipelineLayout
  | pipeline
  | layout
  | rayGenDescriptorSetLayout
  | asBuffer
  | asHandlesBuffer
  | instanceBuffer
  | allocator
  | commandPool
  deriving DecidableEq, Repr

instance : Fintype HandleMember where
  elems := {.handle, .imageMemory, .imageView, .pipelineLayout, .pipeline, .layout,
    .rayGenDescriptorSetLayout, .asBuffer, .asHandlesBuffer, .instanceBuffer, .allocator,
    .commandPool}
  complete := fun m => by cases m <;> decide

/-- The classes that have such members. -/
inductive HandleClass where
  | driverInstance
  | logicalDevice
  | rtPipeline
  | shaderModule
  | compute
  | deviceBuffer
  | image
  | sampler
  | trianglesGeomAccel
  | userGeomAccel
  | instanceAccel
  deriving DecidableEq, Repr

namespace Handles

/-- The calls that record a command buffer, submit it and wait. -/
def submit : List (Cmd HandleMember) :=
  [.call, .call, .call, .call]  -- begin, end, submit, wait

/-- `driver::Instance`; its constructor tries twice. -/
def driverInstance : Class HandleMember where
  slots := {.handle}
  ctor := [.create .handle]
  methods := []
  dtor := [.destroy .handle]

/-- `LogicalDevice`. -/
def logicalDevice : Class HandleMember where
  slots := {.handle, .allocator, .commandPool}
  ctor := [
    .create .handle,
    .tryCreate .allocator,
    .create .commandPool,
    .call]                        -- createCommandBuffer
  methods := []
  dtor := [.destroy .allocator, .destroy .commandPool, .destroy .handle]

/-- `RTPipeline`. -/
def rtPipeline : Class HandleMember where
  slots := {.pipeline, .layout, .rayGenDescriptorSetLayout}
  ctor := []
  methods := [
    [.reset .pipeline, .reset .layout, .reset .rayGenDescriptorSetLayout,
      .reset .layout,             -- asked a second time
      .create .rayGenDescriptorSetLayout,
      .call, .call, .call, .call, -- createLayout and createDS of the two helpers
      .create .layout,
      .call,                      -- gatherPrograms
      .create .pipeline,
      .call]]                     -- vkGetRayTracingShaderGroupHandles
  dtor := [.reset .pipeline, .reset .layout, .reset .rayGenDescriptorSetLayout]

/-- `ShaderModule`. -/
def shaderModule : Class HandleMember where
  slots := {.handle}
  ctor := [.create .handle]
  methods := []
  dtor := [.destroy .handle]

/-- `Compute`, whose constructor is `buildPipeline`; no other function calls that.  The pool,
the layout and the set are static variables of `buildPipeline` and not members. -/
def compute : Class HandleMember where
  slots := {.pipelineLayout, .pipeline}
  ctor := [
    .reset .pipelineLayout,
    .call, .call, .call,          -- create of the pool, the layout and the set
    .create .pipelineLayout,
    .create .pipeline]
  methods := [
    [.call, .call] ++ submit ++ submit]   -- launch, with rebuildDescriptors
  dtor := [.destroy .pipeline, .destroy .pipelineLayout]

/-- `DeviceBuffer`. -/
def deviceBuffer : Class HandleMember where
  slots := {.handle}
  ctor := [.create .handle]
  methods := [
    [.reset .handle],             -- free
    submit]                       -- copy
  dtor := [.reset .handle]

/-- `Image`. -/
def image : Class HandleMember where
  slots := {.handle, .imageMemory, .imageView}
  ctor := [
    .call,                        -- toVulkan
    .create .handle,
    .create .imageMemory,
    .call,                        -- vkMapMemory
    .call] ++                     -- vkBindImageMemory
    submit ++
    [.create .imageView]
  methods := []
  dtor := [.destroy .imageView, .reset .handle, .destroy .imageMemory]

/-- `Sampler`. -/
def sampler : Class HandleMember where
  slots := {.handle}
  ctor := [.create .handle]
  methods := []
  dtor := [.reset .handle]

/-- `Accel::destroyAccel`. -/
def destroyAccel : List (Cmd HandleMember) := [.resetIf .handle .asBuffer, .reset .handle]

/-- The destructor of `Accel`, with that of its member `asBuffer`. -/
def destroyBase : List (Cmd HandleMember) := destroyAccel ++ [.reset .asBuffer]

/-- `TrianglesGeomAccel`; what `vkCreateAccelerationStructure` returns is not checked. -/
def trianglesGeomAccel : Class HandleMember where
  slots := {.handle, .asBuffer}
  ctor := []
  methods := [
    destroyAccel ++
    [.call,                       -- the scratch buffer
      .replace .asBuffer,
      .tryCreate .handle] ++
    submit]
  dtor := destroyAccel ++ destroyBase

/-- `UserGeomAccel`. -/
def userGeomAccel : Class HandleMember where
  slots := {.handle, .asBuffer}
  ctor := []
  methods := [
    destroyAccel ++
    [.call, .call,                -- the buffers for the data and the bounds
      .call,                      -- the bounds kernels
      .call,                      -- the scratch buffer
      .replace .asBuffer,
      .tryCreate .handle] ++
    submit]
  dtor := destroyAccel ++ destroyBase

/-- `InstanceAccel`. -/
def instanceAccel : Class HandleMember where
  slots := {.handle, .asBuffer, .asHandlesBuffer, .instanceBuffer}
  ctor := []
  methods := [
    destroyAccel,                 -- build, without accels
    destroyAccel ++
    [.replace .asHandlesBuffer,
      .replace .instanceBuffer,
      .call,                      -- the scratch buffer
      .replace .asBuffer,
      .create .handle] ++
    submit]
  dtor := [.reset .instanceBuffer, .reset .asHandlesBuffer] ++ destroyBase

end Handles

/-- What the functions of the classes do with the handles. -/
def handleClass : HandleClass → Class HandleMember
  | .driverInstance => Handles.driverInstance
  | .logicalDevice => Handles.logicalDevice
  | .rtPipeline => Handles.rtPipeline
  | .shaderModule => Handles.shaderModule
  | .compute => Handles.compute
  | .deviceBuffer => Handles.deviceBuffer
  | .image => Handles.image
  | .sampler => Handles.sampler
  | .trianglesGeomAccel => Handles.trianglesGeomAccel
  | .userGeomAccel => Handles.userGeomAccel
  | .instanceAccel => Handles.instanceAccel

/-- The constructors that have created a handle when they throw. -/
def HandleClass.leaks : HandleClass → Bool
  | .logicalDevice | .compute | .image => true
  | _ => false

theorem handleClass_safe (c : HandleClass) : (handleClass c).Safe := by
  cases c <;> decide

theorem handleClass_ctorClean {c : HandleClass} (hc : c.leaks = false) :
    (handleClass c).CtorClean := by
  cases c <;> first | exact absurd hc (by decide) | decide

/-! ## Every run -/

section Runs

variable {P : Type*} [DecidableEq P] {y y' : System P HandleClass HandleMember}

/-- What is alive is in a member of an object, or was left behind by a constructor that can do
that. -/
theorem live_iff (hy : Reachable handleClass y) (h : ℕ) :
    h ∈ y.device.live ↔ (∃ c, c.leaks ∧ h ∈ y.leaked c) ∨ ∃ p m, y.slots p m = some h := by
  have hleaked : (∃ c, h ∈ y.leaked c) ↔ ∃ c, c.leaks ∧ h ∈ y.leaked c := by
    refine ⟨fun ⟨c, hc⟩ => ⟨c, ?_, hc⟩, fun ⟨c, _, hc⟩ => ⟨c, hc⟩⟩
    by_contra hleaks
    rw [hy.leaked_eq_empty handleClass_safe
      (handleClass_ctorClean (Bool.not_eq_true _ ▸ hleaks))] at hc
    exact hc
  rw [(hy.balanced handleClass_safe).holds.live, Set.mem_ofPred_eq, hleaked]
  exact or_congr_right ⟨fun ⟨i, hi⟩ => ⟨i.1, i.2, hi⟩, fun ⟨p, m, hp⟩ => ⟨(p, m), hp⟩⟩

/-- When there are no objects any more, what is alive was left behind. -/
theorem live_iff_of_no_objects (hy : Reachable handleClass y) (hobjs : ∀ p, y.objs p = none)
    (h : ℕ) : h ∈ y.device.live ↔ ∃ c, c.leaks ∧ h ∈ y.leaked c := by
  rw [live_iff hy]
  refine or_iff_left ?_
  rintro ⟨p, m, hp⟩
  rw [(hy.balanced handleClass_safe).slots_eq_none (hobjs p) m] at hp
  cases hp

/-- **In every run**, with any number of objects and with any calls failing, of the handles in
the ledger: no function destroys one that is not alive, and every one that is alive is in
exactly one member of one object, or was left behind by one of three constructors. -/
theorem handles_balanced (hy : Reachable handleClass y) :
    (∀ h, h ∈ y.device.live ↔ (∃ c, c.leaks ∧ h ∈ y.leaked c) ∨ ∃ p m, y.slots p m = some h) ∧
      (∀ p m q n h, y.slots p m = some h → y.slots q n = some h → p = q ∧ m = n) ∧
      ∀ (ok : ℕ → Bool) (c : HandleClass),
        (y.run ok (handleClass c).ctor fun _ => none).isSome ∧
        ∀ p, y.objs p = some c → (y.run ok (handleClass c).dtor (y.slots p)).isSome ∧
          ∀ cs ∈ (handleClass c).methods, (y.run ok cs (y.slots p)).isSome := by
  have h := hy.balanced handleClass_safe
  refine ⟨live_iff hy, fun p m q n x hp hq => ?_, fun ok c => ?_⟩
  · exact Prod.mk.inj (h.holds.injective (p, m) (q, n) x hp hq)
  · obtain ⟨hctor, hobjs⟩ := h.run_isSome handleClass_safe ok
    exact ⟨hctor c, fun p hp => hobjs p c hp⟩

/-- A triangle accel that was made and built. -/
theorem exists_built : ∃ y : System ℕ HandleClass HandleMember, Reachable handleClass y ∧
    y.objs 0 = some .trianglesGeomAccel ∧ y.slots 0 .handle = some 1 := by
  have hmade : Step handleClass ({} : System ℕ HandleClass HandleMember) _ :=
    .construct _ 0 .trianglesGeomAccel (fun _ => true) ⟨fun _ => none, {}⟩ rfl rfl
  refine ⟨_, (Relation.ReflTransGen.single hmade).tail
    (.method _ 0 .trianglesGeomAccel _ (fun _ => true) false _ rfl List.mem_cons_self rfl), ?_⟩
  exact ⟨rfl, rfl⟩

theorem handles_balanced_built : ∃ y : System ℕ HandleClass HandleMember,
    y.slots 0 .handle = some 1 ∧ 1 ∈ y.device.live := by
  obtain ⟨y, hy, -, hslot⟩ := exists_built
  exact ⟨y, hslot, ((handles_balanced hy).1 1).mpr (Or.inr ⟨0, .handle, hslot⟩)⟩

/-! ## Constructors that leave handles behind -/

/-- The first constructor of all, which throws after it has created a handle. -/
theorem exists_leaked {c : HandleClass} (ok : ℕ → Bool) (m : HandleMember) (h : ℕ)
    (hrun : ((({} : System P HandleClass HandleMember).run ok (handleClass c).ctor
      fun _ => none).map fun r => (r.1, r.2.slots m)) = some (true, some h)) :
    ∃ y : System P HandleClass HandleMember, Reachable handleClass y ∧ (y.leaked c).Nonempty := by
  obtain ⟨⟨thrown, st⟩, hst, heq⟩ := Option.map_eq_some_iff.mp hrun
  obtain ⟨rfl, hm⟩ := Prod.mk.inj heq
  refine ⟨_, .single (.constructThrows _ c ok st hst), h, ?_⟩
  dsimp only
  rw [Function.update_self]
  exact Or.inr ⟨m, hm⟩

/-- **Which constructors leave handles behind**: those of images, of compute kernels and of
logical devices, and no others. -/
theorem leaks_iff (c : HandleClass) :
    (∃ y : System ℕ HandleClass HandleMember, Reachable handleClass y ∧ (y.leaked c).Nonempty) ↔
      c.leaks := by
  constructor
  · rintro ⟨y, hy, hne⟩
    by_contra hleaks
    rw [hy.leaked_eq_empty handleClass_safe
      (handleClass_ctorClean (Bool.not_eq_true _ ▸ hleaks))] at hne
    exact Set.not_nonempty_empty hne
  · intro hleaks
    cases c with
    | image => exact exists_leaked (fun n => n < 3) .imageMemory 1 rfl  -- mapping it fails
    | compute => exact exists_leaked (fun n => n < 5) .pipelineLayout 0 rfl  -- the pipeline fails
    | logicalDevice => exact exists_leaked (fun n => n < 2) .handle 0 rfl  -- the pool fails
    | _ => exact absurd hleaks (by decide)

/-! ## What instances refer to -/

/-- The acceleration structures whose addresses `InstanceAccel::build` puts in its
instances, those of the children; none for a child that is not built. -/
def references (y : System P HandleClass HandleMember) (accels : List P) : List (Option ℕ) :=
  accels.map fun p => y.slots p .handle

/-- The classes derived from `GeomAccel`. -/
def HandleClass.isGeomAccel : HandleClass → Bool
  | .trianglesGeomAccel | .userGeomAccel => true
  | _ => false

/-- A call of `build` of a child, whether it throws or not. -/
def Rebuilds (p : P) (y y' : System P HandleClass HandleMember) : Prop :=
  ∃ c cs ok thrown st, HandleClass.isGeomAccel c ∧ y.objs p = some c ∧
    cs ∈ (handleClass c).methods ∧ y.run ok cs (y.slots p) = some (thrown, st) ∧
    y' = { y with slots := Function.update y.slots p st.slots, device := st.device }

theorem Rebuilds.step {p : P} (h : Rebuilds p y y') : Step handleClass y y' := by
  obtain ⟨c, cs, ok, thrown, st, -, hp, hcs, hrun, rfl⟩ := h
  exact .method y p c cs ok thrown st hp hcs hrun

/-- A child that is built again has a new handle, or none. -/
theorem Rebuilds.handle_new {p : P} (h : Rebuilds p y y') {x : ℕ}
    (hx : y'.slots p .handle = some x) : y.device.next ≤ x := by
  obtain ⟨c, cs, ok, thrown, st, hc, hp, hcs, hrun, rfl⟩ := h
  dsimp only at hx
  rw [Function.update_self] at hx
  have hbuild : ∃ after, cs = [.resetIf .handle .asBuffer] ++ .reset .handle :: after := by
    cases c with
    | trianglesGeomAccel | userGeomAccel => exact ⟨_, List.mem_singleton.mp hcs⟩
    | _ => exact absurd hc (by decide)
  obtain ⟨after, rfl⟩ := hbuild
  exact run_reset (by simp [Cmd.CanThrow]) hrun hx

/-- **What an instance accel refers to**: all of it is alive, however many calls after the
instances were written, if and only if every child still has the handle it had then.  Once
one of the children is built again, what was its handle is never alive any more. -/
theorem references_live_iff (hy : Reachable handleClass y) (accels : List P)
    (hsteps : Relation.ReflTransGen (Step handleClass) y y') :
    ((∀ h, some h ∈ references y accels → h ∈ y'.device.live) ↔
        ∀ p ∈ accels, ∀ h, y.slots p .handle = some h → y'.slots p .handle = some h) ∧
      ∀ p ∈ accels, ∀ y₁ y₂, Relation.ReflTransGen (Step handleClass) y y₁ → Rebuilds p y₁ y₂ →
        Relation.ReflTransGen (Step handleClass) y₂ y' →
        ∀ h, y.slots p .handle = some h → h ∉ y'.device.live := by
  have hlive : ∀ p h, y.slots p .handle = some h →
      (h ∈ y'.device.live ↔ y'.slots p .handle = some h) := fun p h hp =>
    hy.mem_live_iff handleClass_safe hsteps hp
  refine ⟨⟨fun hrefs p hp h hh => ?_, fun hslots h hh => ?_⟩, fun p _ y₁ y₂ h₁ hbuild h₂ x hx => ?_⟩
  · exact (hlive p h hh).mp (hrefs h (List.mem_map.mpr ⟨p, hp, hh⟩))
  · obtain ⟨p, hp, hh⟩ := List.mem_map.mp hh
    exact (hlive p h hh).mpr (hslots p hp h hh)
  · rw [hlive p x hx]
    intro hx'
    -- the handle was given out before the child was built again
    have hfresh : x < y₁.device.next :=
      ((hy.balanced handleClass_safe).holds.fresh x
        ((hy.balanced handleClass_safe).holds.mem_live (i := (p, .handle)) hx)).trans_le
        (origin_of_steps h₁).1
    rcases (origin_of_steps h₂).2.1 p .handle x hx' with hslot | hnew
    · exact absurd (hbuild.handle_new hslot) (not_le.mpr hfresh)
    · exact absurd (hbuild.step.origin.1.trans hnew) (not_le.mpr hfresh)

theorem references_live_iff_rebuilt : ∃ y y' : System ℕ HandleClass HandleMember,
    references y [0] = [some 1] ∧ Rebuilds 0 y y' ∧ 1 ∉ y'.device.live := by
  obtain ⟨y, hy, hobj, hslot⟩ := exists_built
  obtain ⟨⟨thrown, st⟩, hrun⟩ := Option.isSome_iff_exists.mp
    ((((hy.balanced handleClass_safe).run_isSome handleClass_safe fun _ => true).2 0 _ hobj).2 _
      List.mem_cons_self)
  have hbuild : Rebuilds 0 y
      { y with slots := Function.update y.slots 0 st.slots, device := st.device } :=
    ⟨_, _, _, thrown, st, rfl, hobj, List.mem_cons_self, hrun, rfl⟩
  refine ⟨y, _, by simp [references, hslot], hbuild, ?_⟩
  exact (references_live_iff hy [0] (.single hbuild.step)).2 0 List.mem_cons_self _ _ .refl hbuild
    .refl 1 hslot

end Runs

end Vulkanite
