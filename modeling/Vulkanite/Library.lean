/-
# The library as a whole

The modules before this one look at a context from three sides: its objects and its
pipeline (`Context`), its textures and what is written into descriptor sets (`Textures`), and
the pools and sets themselves (`Descriptors.Process`).  Most functions of the library concern
one side only.  `RTPipeline::build` concerns all three, and so do the constructor and the
destructor of a context; launches and compute kernels concern two.

`Library` is the state of a process with all three sides of all of its contexts.  A run of
the library is a run of every side of it, so that everything that is proved about the runs of
a side holds in it (`textures_of_trace`, `descriptors_of_trace`, `reachable_of_trace`).  And the
sides agree about what they both know: which contexts are alive, whether the static variable
`created` is set, and which descriptor sets there are (`agree_of_trace`).
-/
import Vulkanite.Contexts
import Vulkanite.DescriptorPools
import Vulkanite.PipelineBuilds

namespace Vulkanite

/-! ## The state and the operations -/

/-- The place of the pool and the set of a `DSHelper`. -/
def DSKind.place : DSKind → ℕ → Descriptors.Place
  | .samplers => .samplers
  | .image2Ds => .image2Ds

/-- The state of a process. -/
structure Library where
  contexts : ℕ → Option Context := fun _ => none
  textures : Process := {}
  descriptors : Descriptors.Process := {}

/-- The operations that make a compute kernel. -/
def Op.makesKernel : Op → Bool
  | .newCompute | .setBoundsProg => true
  | _ => false

namespace Library

/-- The process with other objects of one context. -/
def setObjects (s : Library) (id : ℕ) (c : Context) : Library :=
  { s with contexts := Function.update s.contexts id (some c) }

/-- `vknContextCreate`. -/
def newContext (s : Library) (properties : PipelineProperties) (device : ℕ)
    (defaultImage defaultSampler : Ptr) : Library where
  contexts := Function.update s.contexts s.textures.made (some { rtPipeline := { properties } })
  textures := s.textures.createContext device defaultImage defaultSampler
  descriptors := s.descriptors.newContext s.textures.made

/-- `Context::terminate`. -/
def terminate (s : Library) (id : ℕ) : Library where
  contexts := Function.update s.contexts id none
  textures := s.textures.setContext id none
  descriptors := s.descriptors.deleteContext id

/-- An operation on the objects of a context, which turns these into `c`. -/
def object (s : Library) (id : ℕ) (op : Op) (c : Context) : Library :=
  { s.setObjects id c with
    descriptors := if op.makesKernel then s.descriptors.buildPipeline else s.descriptors }

/-- An operation on the textures of a context, which turns these into `t`. -/
def texture (s : Library) (id : ℕ) (t : Textures) : Library :=
  { s with textures := s.textures.setContext id (some t) }

/-- `Context::launch` and `Compute::launch`, for a context with the textures `t`. -/
def launch (s : Library) (kind : LaunchKind) (id : ℕ) (t : Textures) : Library :=
  { s with
    textures := s.textures.launch kind id t
    descriptors := s.descriptors.launch id }

/-- The layouts and sets that `RTPipeline::build` makes before it gathers the programs. -/
def buildDescriptors (s : Library) (id : ℕ) : Option Library := do
  let t ← s.textures.contexts id
  let t' ← t.build
  return { s with
    textures := s.textures.setContext id (some t')
    descriptors := s.descriptors.build id (t.helpers .samplers).objects.elements.length
      (t.helpers .image2Ds).objects.elements.length }

/-- `RTPipeline::build`, with the handles that Vulkan gives to groups: how it ends, and what
it leaves behind.  It has no result if it asks an object that is gone for its descriptor, or
gives Vulkan a pipeline that is not valid. -/
def build (s : Library) (id : ℕ) (handles : List ShaderGroupInfo → List (List UInt8)) :
    Option (Except GatherError Unit × Library) := do
  let c ← s.contexts id
  let s ← s.buildDescriptors id
  match c.destroyPipeline.gatherPrograms with
  | (.error e, c') => return (.error e, s.setObjects id c')
  | (.ok (stages, groups), c') =>
    guard (ValidPipeline stages groups)
    return (.ok (), s.setObjects id (c'.finishBuild stages groups (handles groups)))

end Library

/-- A call of the application, with the number of its context. -/
inductive LibraryCall where
  | newContext (id : ℕ)
  | terminate (id : ℕ)
  | object (id : ℕ) (op : Op)
  | texture (id : ℕ) (op : TextureOp)
  | build (id : ℕ)
  | launch (id : ℕ) (kind : LaunchKind)
  deriving DecidableEq, Repr

/-- One call. -/
inductive LibraryStep : LibraryCall → Library → Library → Prop
  | newContext (s : Library) (properties : PipelineProperties) (device : ℕ)
      (defaultImage defaultSampler : Ptr) : LibraryStep (.newContext s.textures.made) s
        (s.newContext properties device defaultImage defaultSampler)
  | terminate (s : Library) (id : ℕ) (hid : (s.textures.contexts id).isSome) :
      LibraryStep (.terminate id) s (s.terminate id)
  | object (s : Library) (id : ℕ) (op : Op) (c c' : Context) (hc : s.contexts id = some c)
      (hop : op ∉ [.gatherPrograms, .build]) (hstep : Context.Step op c c') :
      LibraryStep (.object id op) s (s.object id op c')
  | texture (s : Library) (id : ℕ) (op : TextureOp) (t t' : Textures)
      (ht : s.textures.contexts id = some t) (hop : op ∉ [.build, .launch, .computeLaunch])
      (hstep : TextureStep op t t') : LibraryStep (.texture id op) s (s.texture id t')
  | build (s s' : Library) (id : ℕ) (c : Context)
      (handles : List ShaderGroupInfo → List (List UInt8)) (result : Except GatherError Unit)
      (hc : s.contexts id = some c)
      (hhandles : ∀ groups, IsGroupHandles c.rtPipeline.properties groups (handles groups))
      (hbuild : s.build id handles = some (result, s')) : LibraryStep (.build id) s s'
  | launch (s : Library) (id : ℕ) (kind : LaunchKind) (t : Textures)
      (ht : s.textures.contexts id = some t) :
      LibraryStep (.launch id kind) s (s.launch kind id t)

/-! ## Places and their contexts -/

namespace Descriptors

/-- The context that a place belongs to. -/
def Place.context : Place → Option ℕ
  | .uniformBuffers id | .samplers id | .image2Ds id => some id
  | .compute => none

/-- The places of a helper are those of its context. -/
theorem context_place (k : DSKind) (id : ℕ) : (k.place id).context = some id := by
  cases k <;> rfl

namespace Process

variable {s : Process} {id : ℕ} {place : Place}

/-- A place is not one of another context. -/
theorem ne_of_context_ne (hne : place.context ≠ some id) :
    place ≠ .uniformBuffers id ∧ place ≠ .samplers id ∧ place ≠ .image2Ds id := by
  refine ⟨?_, ?_, ?_⟩ <;> rintro rfl <;> exact hne rfl

/-- A new context leaves the places of the others alone. -/
theorem wrappers_newContext (hne : place.context ≠ some id) :
    (s.newContext id).wrappers place = s.wrappers place := by
  obtain ⟨huniform, hsamplers, himages⟩ := ne_of_context_ne hne
  show (((s.construct (.samplers id)).construct (.image2Ds id)).construct
    (.uniformBuffers id)).wrappers place = s.wrappers place
  unfold construct
  rw [wrappers_atPlace_of_ne _ huniform, wrappers_atPlace_of_ne _ himages,
    wrappers_atPlace_of_ne _ hsamplers]

/-- So does the end of a context. -/
theorem wrappers_deleteContext (hne : place.context ≠ some id) :
    (s.deleteContext id).wrappers place = s.wrappers place := by
  obtain ⟨huniform, hsamplers, himages⟩ := ne_of_context_ne hne
  show (((s.atPlace (.uniformBuffers id) Wrappers.destruct).atPlace (.image2Ds id)
    Wrappers.destructHelper).atPlace (.samplers id) Wrappers.destructHelper).wrappers place =
      s.wrappers place
  rw [wrappers_atPlace_of_ne _ hsamplers, wrappers_atPlace_of_ne _ himages,
    wrappers_atPlace_of_ne _ huniform]

/-- A build concerns the two helpers of its context. -/
theorem wrappers_build {n m : ℕ} (hne : ∀ k : DSKind, place ≠ k.place id) :
    (s.build id n m).wrappers place = s.wrappers place := by
  have hsamplers : place ≠ .samplers id := hne .samplers
  have himages : place ≠ .image2Ds id := hne .image2Ds
  unfold Process.build
  rw [wrappers_atPlace_of_ne _ himages, wrappers_atPlace_of_ne _ himages,
    wrappers_atPlace_of_ne _ hsamplers, wrappers_atPlace_of_ne _ hsamplers]

/-- A launch concerns the uniform buffer of its context. -/
theorem wrappers_launch (hne : place ≠ .uniformBuffers id) :
    (s.launch id).wrappers place = s.wrappers place := by
  unfold Process.launch rebuildDescriptors
  split_ifs
  · rfl
  · exact wrappers_atPlace_of_ne s hne
  · rfl

/-- A launch makes no context. -/
theorem contexts_launch (s : Process) (id : ℕ) : (s.launch id).contexts = s.contexts := by
  unfold Process.launch rebuildDescriptors
  split_ifs
  · rfl
  · rfl
  · rfl

/-- A kernel concerns no context. -/
theorem wrappers_buildPipeline (hne : place ≠ .compute) :
    s.buildPipeline.wrappers place = s.wrappers place := wrappers_atPlace_of_ne s hne

/-! ### At the places of a context -/

/-- A new context has new wrappers. -/
theorem wrappers_newContext_self (hplace : place.context = some id) :
    (s.newContext id).wrappers place = {} := by
  show (((s.construct (.samplers id)).construct (.image2Ds id)).construct
    (.uniformBuffers id)).wrappers place = {}
  unfold construct
  cases place with
  | uniformBuffers id' =>
    obtain rfl := Option.some.inj hplace
    rw [wrappers_atPlace_self]
  | image2Ds id' =>
    obtain rfl := Option.some.inj hplace
    rw [wrappers_atPlace_of_ne _ (by simp), wrappers_atPlace_self]
  | samplers id' =>
    obtain rfl := Option.some.inj hplace
    rw [wrappers_atPlace_of_ne _ (by simp), wrappers_atPlace_of_ne _ (by simp),
      wrappers_atPlace_self]
  | compute => cases hplace

/-- A helper that has never noted a size gets a new set. -/
theorem createDS_handle {size : ℕ} {x : Wrappers × Vk} (hsize : x.1.dsSize = 0) (hne : size ≠ 0) :
    (Wrappers.createDS size x).1.descriptorSet.handle ≠ 0 := by
  rw [Wrappers.createDS, if_pos (hsize ▸ hne.symm)]
  exact Nat.succ_ne_zero _

/-- A build makes the sets of both helpers. -/
theorem build_handle (hsize : ∀ place, (s.wrappers place).dsSize = 0) {n m : ℕ} (hn : n ≠ 0)
    (hm : m ≠ 0) (k : DSKind) :
    ((s.build id n m).wrappers (k.place id)).descriptorSet.handle ≠ 0 := by
  unfold Process.build
  cases k with
  | samplers =>
    show (Process.wrappers _ (.samplers id)).descriptorSet.handle ≠ 0
    rw [wrappers_atPlace_of_ne _ (by simp), wrappers_atPlace_of_ne _ (by simp),
      wrappers_atPlace_self]
    refine createDS_handle ?_ hn
    rw [wrappers_atPlace_self]
    exact hsize (.samplers id)
  | image2Ds =>
    show (Process.wrappers _ (.image2Ds id)).descriptorSet.handle ≠ 0
    rw [wrappers_atPlace_self]
    refine createDS_handle ?_ hm
    rw [wrappers_atPlace_self]
    exact hsize (.image2Ds id)

/-- A launch leaves no set behind exactly if there was none and one was made before for
some context. -/
theorem launch_handle (s : Process) (id : ℕ) :
    (((s.launch id).wrappers (.uniformBuffers id)).descriptorSet.handle = 0 ↔
      (s.wrappers (.uniformBuffers id)).descriptorSet.handle = 0 ∧ s.created = true) ∧
    ((s.launch id).created = true ↔
      (s.wrappers (.uniformBuffers id)).descriptorSet.handle = 0 ∨ s.created = true) := by
  unfold Process.launch rebuildDescriptors
  split_ifs with hhandle hcreated
  · exact ⟨iff_of_true hhandle ⟨hhandle, hcreated⟩, iff_of_true hcreated (Or.inl hhandle)⟩
  · refine ⟨iff_of_false ?_ fun h => hcreated h.2, iff_of_true rfl (Or.inl hhandle)⟩
    show ((s.atPlace (.uniformBuffers id) Wrappers.create).wrappers
      (.uniformBuffers id)).descriptorSet.handle ≠ 0
    rw [wrappers_atPlace_self]
    exact Nat.succ_ne_zero _
  · exact ⟨iff_of_false hhandle fun h => hhandle h.1, (or_iff_right hhandle).symm⟩

/-- No function ever notes a size. -/
theorem dsSize_atPlace {f : Wrappers × Vk → Wrappers × Vk}
    (hf : ∀ x : Wrappers × Vk, x.1.dsSize = 0 → (f x).1.dsSize = 0)
    (h : ∀ place, (s.wrappers place).dsSize = 0) (place' : Place) :
    ((s.atPlace place f).wrappers place').dsSize = 0 := by
  by_cases heq : place' = place
  · rw [heq, wrappers_atPlace_self]
    exact hf _ (h place)
  · rw [wrappers_atPlace_of_ne s heq]
    exact h place'

/-- `createDS` never sets the size that it compares. -/
theorem dsSize_createDS (size : ℕ) (x : Wrappers × Vk) (hx : x.1.dsSize = 0) :
    (Wrappers.createDS size x).1.dsSize = 0 := by
  unfold Wrappers.createDS
  split_ifs
  · exact hx
  · exact hx

/-- Step lemma: no operation sets it. -/
theorem Step.dsSize {op : Op} {s s' : Process} (hstep : Step op s s')
    (h : ∀ place, (s.wrappers place).dsSize = 0) (place : Place) :
    (s'.wrappers place).dsSize = 0 := by
  have hid : ∀ f : Wrappers × Vk → Wrappers × Vk, (∀ x, (f x).1.dsSize = x.1.dsSize) →
      ∀ x : Wrappers × Vk, x.1.dsSize = 0 → (f x).1.dsSize = 0 := fun f hf x hx => (hf x).trans hx
  cases hstep with
  | newContext _ id _ =>
    have hnew : ∀ x : Wrappers × Vk, x.1.dsSize = 0 → (({}, x.2) : Wrappers × Vk).1.dsSize = 0 :=
      fun _ _ => rfl
    exact dsSize_atPlace hnew (dsSize_atPlace hnew (dsSize_atPlace hnew h)) place
  | launch _ id _ =>
    unfold Process.launch rebuildDescriptors
    split_ifs
    · exact h place
    · exact dsSize_atPlace (hid Wrappers.create fun _ => rfl) h place
    · exact h place
  | build _ id n m _ =>
    have hlayout := hid Wrappers.createLayout fun _ => rfl
    exact dsSize_atPlace (dsSize_createDS m) (dsSize_atPlace hlayout
      (dsSize_atPlace (dsSize_createDS n) (dsSize_atPlace hlayout h))) place
  | newCompute => exact dsSize_atPlace (hid Wrappers.create fun _ => rfl) h place
  | deleteContext _ id _ =>
    have hhelper := hid Wrappers.destructHelper fun _ => rfl
    exact dsSize_atPlace hhelper (dsSize_atPlace hhelper
      (dsSize_atPlace (hid Wrappers.destruct fun _ => rfl) h)) place

end Process

end Descriptors

/-! ## What the sides agree about -/

open Descriptors (Place Wrappers)

/-- Both sides of a context know of the same descriptor sets. -/
structure Textures.Agrees (t : Textures) (wrappers : Place → Wrappers) (id : ℕ) : Prop where
  invariant : t.Invariant
  uniformBuffers : t.uniformBuffersDS = none ↔
    (wrappers (.uniformBuffers id)).descriptorSet.handle = 0
  helper : ∀ k : DSKind, (t.helpers k).descriptorSet = none ↔
    (wrappers (k.place id)).descriptorSet.handle = 0

/-- The sides agree about one context. -/
structure Library.AgreeAt (s : Library) (id : ℕ) : Prop where
  objects : (s.contexts id).isSome ↔ (s.textures.contexts id).isSome
  alive : id ∈ s.descriptors.contexts ↔ (s.textures.contexts id).isSome
  sets : ∀ t, s.textures.contexts id = some t → t.Agrees s.descriptors.wrappers id

/-- The sides of the library agree. -/
structure Library.Agree (s : Library) : Prop where
  context : ∀ id, s.AgreeAt id
  fresh : ∀ id, s.textures.made ≤ id → s.textures.contexts id = none
  created : s.descriptors.created = s.textures.created
  dsSize : ∀ place, (s.descriptors.wrappers place).dsSize = 0

/-- Two states that differ in one context at most. -/
structure Library.SameBut (id : ℕ) (s s' : Library) : Prop where
  objects : ∀ id', id' ≠ id → s'.contexts id' = s.contexts id'
  textures : ∀ id', id' ≠ id → s'.textures.contexts id' = s.textures.contexts id'
  alive : ∀ id', id' ≠ id → (id' ∈ s'.descriptors.contexts ↔ id' ∈ s.descriptors.contexts)
  wrappers : ∀ place id', place.context = some id' → id' ≠ id →
    s'.descriptors.wrappers place = s.descriptors.wrappers place

/-- The sides still agree about the others. -/
theorem Library.AgreeAt.sameBut {s s' : Library} {id id' : ℕ} (h : s.AgreeAt id')
    (hsame : Library.SameBut id s s') (hne : id' ≠ id) : s'.AgreeAt id' where
  objects := by
    rw [hsame.objects id' hne, hsame.textures id' hne]
    exact h.objects
  alive := by
    rw [hsame.alive id' hne, hsame.textures id' hne]
    exact h.alive
  sets := by
    intro t ht
    rw [hsame.textures id' hne] at ht
    have hagrees := h.sets t ht
    refine ⟨hagrees.invariant, ?_, fun k => ?_⟩
    · rw [hsame.wrappers (.uniformBuffers id') id' rfl hne]
      exact hagrees.uniformBuffers
    · rw [hsame.wrappers (k.place id') id' (Descriptors.context_place k id') hne]
      exact hagrees.helper k

/-- The context that a call is about. -/
def LibraryCall.id : LibraryCall → ℕ
  | .newContext id | .terminate id | .object id _ | .texture id _ | .build id | .launch id _ => id

namespace Library

variable {s s' : Library} {id : ℕ} {c : Context}

/-- The state after a build that left the objects `c` and made the textures `t'` of `t`. -/
def built (s : Library) (id : ℕ) (c : Context) (t t' : Textures) : Library where
  contexts := Function.update s.contexts id (some c)
  textures := s.textures.setContext id (some t')
  descriptors := s.descriptors.build id (t.helpers .samplers).objects.elements.length
    (t.helpers .image2Ds).objects.elements.length

/-- How the programs of a build end, and the objects that they leave behind. -/
def GatherEnds (c : Context) (handles : List ShaderGroupInfo → List (List UInt8))
    (result : Except GatherError Unit) (c' : Context) : Prop :=
  (∃ e, result = .error e ∧ c.destroyPipeline.gatherPrograms = (.error e, c')) ∨
    ∃ stages groups c₁, result = .ok () ∧ c.gatherPrograms = (.ok (stages, groups), c₁) ∧
      ValidPipeline stages groups ∧ c' = c₁.finishBuild stages groups (handles groups)

/-- **What `RTPipeline::build` does**: first to the textures, then to the objects. -/
theorem build_eq_some {handles : List ShaderGroupInfo → List (List UInt8)}
    {result : Except GatherError Unit} (hc : s.contexts id = some c) :
    s.build id handles = some (result, s') ↔ ∃ t t' c', s.textures.contexts id = some t ∧
      t.build = some t' ∧ GatherEnds c handles result c' ∧ s' = s.built id c' t t' := by
  have hdestroy : c.destroyPipeline.gatherPrograms =
      (c.gatherPrograms.1, c.gatherPrograms.2.destroyPipeline) := rfl
  simp only [build, buildDescriptors, hc, Option.bind_eq_bind, Option.bind_some,
    Option.bind_eq_some_iff, Option.pure_def, Option.some.injEq]
  constructor
  · rintro ⟨s₁, ⟨t, ht, t', ht', rfl⟩, hend⟩
    rw [hdestroy] at hend
    rcases hrun : c.gatherPrograms with ⟨e | ⟨stages, groups⟩, c₁⟩
    · simp only [hrun, Option.some.injEq, Prod.mk.injEq] at hend
      obtain ⟨rfl, rfl⟩ := hend
      exact ⟨t, t', c₁.destroyPipeline, ht, ht', .inl ⟨e, rfl, by rw [hdestroy, hrun]⟩, rfl⟩
    · simp only [hrun, Option.bind_eq_some_iff, Option.guard_eq_some', Option.some.injEq,
        Prod.mk.injEq] at hend
      obtain ⟨-, hvalid, rfl, rfl⟩ := hend
      exact ⟨t, t', _, ht, ht', .inr ⟨stages, groups, c₁, rfl, hrun, hvalid, rfl⟩, rfl⟩
  · rintro ⟨t, t', c', ht, ht', hends, rfl⟩
    refine ⟨_, ⟨t, ht, t', ht', rfl⟩, ?_⟩
    rcases hends with ⟨e, rfl, hrun⟩ | ⟨stages, groups, c₁, rfl, hrun, hvalid, rfl⟩
    · rw [hrun]
      rfl
    · rw [hdestroy, hrun]
      simp only [Option.bind_eq_some_iff, Option.guard_eq_some', Option.some.injEq]
      exact ⟨(), hvalid, rfl⟩

end Library

/-! ## One call -/

open Library

/-- A place of another context is none of this one. -/
theorem context_ne {place : Place} {id id' : ℕ} (h : place.context = some id') (hne : id' ≠ id) :
    place.context ≠ some id := by
  rw [h]
  exact fun heq => hne (Option.some.inj heq)

/-- **Frame**: a call concerns one context only. -/
theorem LibraryStep.sameBut {call : LibraryCall} {s s' : Library} (hstep : LibraryStep call s s') :
    SameBut call.id s s' := by
  cases hstep with
  | newContext _ properties device defaultImage defaultSampler =>
    exact ⟨fun _ hne => Function.update_of_ne hne _ _, fun _ hne => Function.update_of_ne hne _ _,
      fun _ hne => Finset.mem_insert.trans (or_iff_right hne),
      fun _ _ hplace hne => Descriptors.Process.wrappers_newContext (context_ne hplace hne)⟩
  | terminate _ id _ =>
    exact ⟨fun _ hne => Function.update_of_ne hne _ _, fun _ hne => Function.update_of_ne hne _ _,
      fun _ hne => Finset.mem_erase.trans (and_iff_right hne),
      fun _ _ hplace hne => Descriptors.Process.wrappers_deleteContext (context_ne hplace hne)⟩
  | object _ id op c c' _ _ _ =>
    refine ⟨fun _ hne => Function.update_of_ne hne _ _, fun _ _ => rfl, fun _ _ => ?_,
      fun place id' hplace _ => ?_⟩
    · unfold Library.object
      split_ifs
      · exact Iff.rfl
      · exact Iff.rfl
    · have hne : place ≠ .compute := by
        rintro rfl
        cases hplace
      unfold Library.object
      split_ifs
      · exact Descriptors.Process.wrappers_buildPipeline hne
      · rfl
  | texture _ id op t t' _ _ _ =>
    exact ⟨fun _ _ => rfl, fun _ hne => Function.update_of_ne hne _ _, fun _ _ => Iff.rfl,
      fun _ _ _ _ => rfl⟩
  | build _ _ id c handles result hc _ hbuild =>
    obtain ⟨t, t', c', -, -, -, rfl⟩ := (build_eq_some hc).mp hbuild
    refine ⟨fun _ hne => Function.update_of_ne hne _ _, fun _ hne => Function.update_of_ne hne _ _,
      fun _ _ => Iff.rfl, fun place id' hplace hne => ?_⟩
    refine Descriptors.Process.wrappers_build fun k heq => context_ne hplace hne ?_
    rw [heq, Descriptors.context_place]
    rfl
  | launch _ id kind t _ =>
    refine ⟨fun _ _ => rfl, fun _ hne => Function.update_of_ne hne _ _, fun _ _ => ?_,
      fun place id' hplace hne => ?_⟩
    · show _ ∈ (s.descriptors.launch id).contexts ↔ _
      rw [Descriptors.Process.contexts_launch]
    · refine Descriptors.Process.wrappers_launch fun heq => context_ne hplace hne ?_
      rw [heq]
      rfl

/-- The sets of a context are those in its wrappers. -/
theorem Textures.Agrees.congr {t : Textures} {w w' : Place → Wrappers} {id : ℕ}
    (h : t.Agrees w id) (hw : ∀ place, place.context = some id → w' place = w place) :
    t.Agrees w' id := by
  refine ⟨h.invariant, ?_, fun k => ?_⟩
  · rw [hw (.uniformBuffers id) rfl]
    exact h.uniformBuffers
  · rw [hw (k.place id) (Descriptors.context_place k id)]
    exact h.helper k

namespace Library

variable {s : Library}

/-- A new context. -/
theorem agreeAt_newContext (s : Library) (properties : PipelineProperties) (device : ℕ)
    (defaultImage defaultSampler : Ptr) :
    (s.newContext properties device defaultImage defaultSampler).AgreeAt s.textures.made := by
  have hnew : (s.newContext properties device defaultImage defaultSampler).textures.contexts
      s.textures.made = some (.create s.textures.made device defaultImage defaultSampler) :=
    Function.update_self _ _ _
  have hobjects : (s.newContext properties device defaultImage defaultSampler).contexts
      s.textures.made = some { rtPipeline := { properties } } := Function.update_self _ _ _
  refine ⟨by rw [hnew, hobjects]; simp, ?_, fun t ht => ?_⟩
  · rw [hnew]
    exact iff_of_true (Finset.mem_insert_self _ _) rfl
  · obtain rfl := Option.some.inj (hnew.symm.trans ht)
    have hwrappers : ∀ place : Place, place.context = some s.textures.made →
        (s.newContext properties device defaultImage defaultSampler).descriptors.wrappers place =
          {} := fun place hplace => Descriptors.Process.wrappers_newContext_self hplace
    refine ⟨Textures.invariant_create _ _ _ _, ?_, fun k => ?_⟩
    · rw [hwrappers (.uniformBuffers _) rfl]
      exact iff_of_true rfl rfl
    · rw [hwrappers _ (Descriptors.context_place k _)]
      cases k with
      | samplers => exact iff_of_true rfl rfl
      | image2Ds => exact iff_of_true rfl rfl

/-- The end of a context. -/
theorem agreeAt_terminate (s : Library) (id : ℕ) : (s.terminate id).AgreeAt id := by
  have hnone : (s.terminate id).textures.contexts id = none := Function.update_self _ _ _
  have hobjects : (s.terminate id).contexts id = none := Function.update_self _ _ _
  refine ⟨?_, ?_, fun t ht => ?_⟩
  · rw [hnone, hobjects]
    exact iff_of_false (by rintro ⟨⟩) (by rintro ⟨⟩)
  · rw [hnone]
    exact iff_of_false (Finset.notMem_erase id _) (by rintro ⟨⟩)
  · rw [hnone] at ht
    cases ht

/-- An operation on the objects. -/
theorem AgreeAt.object {id : ℕ} (h : s.AgreeAt id) {c : Context} (hc : s.contexts id = some c)
    (op : Op) (c' : Context) : (s.object id op c').AgreeAt id := by
  have hobjects : (s.object id op c').contexts id = some c' := Function.update_self _ _ _
  have hsome : (s.textures.contexts id).isSome := h.objects.mp (by rw [hc]; rfl)
  refine ⟨by rw [hobjects]; exact iff_of_true rfl hsome, ?_, fun t ht => ?_⟩
  · refine Iff.trans ?_ h.alive
    unfold Library.object
    split_ifs
    · exact Iff.rfl
    · exact Iff.rfl
  · refine (h.sets t ht).congr fun place hplace => ?_
    have hne : place ≠ .compute := by
      rintro rfl
      cases hplace
    unfold Library.object
    split_ifs
    · exact Descriptors.Process.wrappers_buildPipeline hne
    · rfl

/-- New textures of a context whose pools are as they were. -/
theorem AgreeAt.texture {id : ℕ} (h : s.AgreeAt id) {t t' : Textures}
    (ht : s.textures.contexts id = some t) (hagrees : t'.Agrees s.descriptors.wrappers id) :
    (s.texture id t').AgreeAt id := by
  have hnew : (s.texture id t').textures.contexts id = some t' := Function.update_self _ _ _
  have hsome : (s.textures.contexts id).isSome := by rw [ht]; rfl
  refine ⟨?_, ?_, fun t'' ht'' => ?_⟩
  · rw [hnew]
    exact iff_of_true (h.objects.mpr hsome) rfl
  · rw [hnew]
    exact iff_of_true (h.alive.mpr hsome) rfl
  · obtain rfl := Option.some.inj (hnew.symm.trans ht'')
    exact hagrees

/-- A build. -/
theorem Agree.built (h : s.Agree) {id : ℕ} {t t' : Textures}
    (ht : s.textures.contexts id = some t) (ht' : t.build = some t') (c' : Context) :
    (s.built id c' t t').AgreeAt id := by
  have hobjects : (s.built id c' t t').contexts id = some c' := Function.update_self _ _ _
  have hnew : (s.built id c' t t').textures.contexts id = some t' := Function.update_self _ _ _
  have hagrees := (h.context id).sets t ht
  refine ⟨?_, ?_, fun t'' ht'' => ?_⟩
  · rw [hobjects, hnew]
    exact iff_of_true rfl rfl
  · rw [hnew]
    exact iff_of_true ((h.context id).alive.mpr (by rw [ht]; rfl)) rfl
  · obtain rfl := Option.some.inj (hnew.symm.trans ht'')
    have hinvariant := (TextureStep.build t t' ht').invariant hagrees.invariant
    obtain ⟨infos, -, rfl⟩ := Textures.build_eq_some hagrees.invariant ht'
    refine ⟨hinvariant, ?_, fun k => ?_⟩
    · have hframe : (s.descriptors.build id (t.helpers .samplers).objects.elements.length
          (t.helpers .image2Ds).objects.elements.length).wrappers (.uniformBuffers id) =
          s.descriptors.wrappers (.uniformBuffers id) :=
        Descriptors.Process.wrappers_build fun k => by cases k <;> simp [DSKind.place]
      show t.uniformBuffersDS = none ↔ _
      rw [hagrees.uniformBuffers, ← hframe]
      rfl
    · -- both sides make a set
      have hlength : ∀ k, (t.helpers k).objects.elements.length ≠ 0 := fun k =>
        mt List.length_eq_zero_iff.mp (hagrees.invariant.nonempty k)
      exact iff_of_false (by rintro ⟨⟩) (Descriptors.Process.build_handle h.dsSize
        (hlength .samplers) (hlength .image2Ds) k)

/-- A launch. -/
theorem Agree.launch (h : s.Agree) {id : ℕ} {t : Textures} (ht : s.textures.contexts id = some t)
    (kind : LaunchKind) : (s.launch kind id t).AgreeAt id ∧
      (s.launch kind id t).descriptors.created = (s.launch kind id t).textures.created := by
  have hagrees := (h.context id).sets t ht
  obtain ⟨hhandle, hcreated⟩ := Descriptors.Process.launch_handle s.descriptors id
  rw [← hagrees.uniformBuffers, h.created] at hhandle hcreated
  have hsome : (s.textures.contexts id).isSome := by rw [ht]; rfl
  have hnew : (s.launch kind id t).textures.contexts id =
      some (kind.launch s.textures.created t).2 := Function.update_self _ _ _
  have hlaunch : kind.launch s.textures.created t = t.requireUniformBuffers s.textures.created :=
    OwnSets.launch_eq kind _ t
  have hflag : (s.launch kind id t).textures.created =
      (t.requireUniformBuffers s.textures.created).1 := congrArg Prod.fst hlaunch
  rw [hlaunch] at hnew
  rw [Textures.requireUniformBuffers_eq] at hnew hflag
  have hhelper : ∀ k, (t.helpers k).descriptorSet = none ↔
      ((s.descriptors.launch id).wrappers (k.place id)).descriptorSet.handle = 0 := fun k => by
    rw [Descriptors.Process.wrappers_launch (by cases k <;> simp [DSKind.place])]
    exact hagrees.helper k
  refine ⟨⟨?_, ?_, fun t' ht' => ?_⟩, Bool.eq_iff_iff.mpr ?_⟩
  · rw [hnew]
    exact iff_of_true ((h.context id).objects.mpr hsome) rfl
  · rw [hnew]
    show id ∈ (s.descriptors.launch id).contexts ↔ _
    rw [Descriptors.Process.contexts_launch]
    exact iff_of_true ((h.context id).alive.mpr hsome) rfl
  · obtain rfl := Option.some.inj (hnew.symm.trans ht')
    split_ifs with hmake
    · refine ⟨⟨hagrees.invariant.numbered, hagrees.invariant.nonempty⟩, ?_, hhelper⟩
      refine iff_of_false (by rintro ⟨⟩) fun hzero => ?_
      exact absurd (hhandle.mp hzero).2 (by rw [hmake.2]; decide)
    · refine ⟨hagrees.invariant, Iff.trans ?_ hhandle.symm, hhelper⟩
      exact ⟨fun hnone => ⟨hnone, by
        by_contra hcreated'
        exact hmake ⟨hnone, Bool.eq_false_iff.mpr hcreated'⟩⟩, fun hboth => hboth.1⟩
  · refine hcreated.trans ?_
    rw [hflag]
    split_ifs with hmake
    · exact iff_of_true (Or.inl hmake.1) rfl
    · refine ⟨fun hor => hor.elim (fun hnone => ?_) (fun hset => hset), Or.inr⟩
      by_contra hcreated'
      exact hmake ⟨hnone, Bool.eq_false_iff.mpr hcreated'⟩

end Library

/-- **Step lemma**: the sides go on agreeing. -/
theorem LibraryStep.agree {call : LibraryCall} {s s' : Library} (hstep : LibraryStep call s s')
    (h : s.Agree) : s'.Agree := by
  have hframe := hstep.sameBut
  suffices s'.AgreeAt call.id ∧ (∀ id, s'.textures.made ≤ id → s'.textures.contexts id = none) ∧
      s'.descriptors.created = s'.textures.created ∧
      ∀ place, (s'.descriptors.wrappers place).dsSize = 0 by
    obtain ⟨hself, hfresh, hcreated, hsize⟩ := this
    refine ⟨fun id => ?_, hfresh, hcreated, hsize⟩
    by_cases hid : id = call.id
    · exact hid ▸ hself
    · exact (h.context id).sameBut hframe hid
  -- a context that is alive is no new one
  have hfresh : ∀ {id : ℕ} {t : Textures}, s.textures.contexts id = some t → ∀ t' id',
      s.textures.made ≤ id' → Function.update s.textures.contexts id t' id' = none := by
    intro id t ht t' id' hid'
    have hne : id' ≠ id := by
      rintro rfl
      rw [h.fresh id' hid'] at ht
      cases ht
    rw [Function.update_of_ne hne, h.fresh id' hid']
  cases hstep with
  | newContext _ properties device defaultImage defaultSampler =>
    refine ⟨agreeAt_newContext s properties device defaultImage defaultSampler, fun id hid => ?_,
      h.created, Descriptors.Process.Step.dsSize (.newContext s.descriptors s.textures.made
        fun hmem => ?_) h.dsSize⟩
    · have hlt : s.textures.made < id := hid
      exact (Function.update_of_ne hlt.ne' _ _).trans (h.fresh id hlt.le)
    · have hsome := (h.context _).alive.mp hmem
      rw [h.fresh _ le_rfl] at hsome
      cases hsome
  | terminate _ id hid =>
    obtain ⟨t, ht⟩ := Option.isSome_iff_exists.mp hid
    exact ⟨agreeAt_terminate s id, hfresh ht none, h.created, Descriptors.Process.Step.dsSize
      (.deleteContext s.descriptors id ((h.context id).alive.mpr hid)) h.dsSize⟩
  | object _ id op c c' hc _ _ =>
    have halive : id ∈ s.descriptors.contexts :=
      (h.context id).alive.mpr ((h.context id).objects.mp (by rw [hc]; rfl))
    refine ⟨(h.context id).object hc op c', h.fresh, ?_, ?_⟩
    · unfold Library.object
      split_ifs
      · exact h.created
      · exact h.created
    · unfold Library.object
      split_ifs
      · exact Descriptors.Process.Step.dsSize (.newCompute s.descriptors id halive) h.dsSize
      · exact h.dsSize
  | texture _ id op t t' ht hop hstep =>
    have hagrees := (h.context id).sets t ht
    have hbuild : op ≠ .build := fun heq => hop (by simp [heq])
    obtain ⟨-, -, huniform⟩ := hstep.frame hagrees.invariant fun hmem =>
      hop (List.mem_cons_of_mem _ hmem)
    have hsets := ((Textures.SinceBuild.refl t).step hbuild hstep).descriptorSet
    exact ⟨(h.context id).texture ht ⟨hstep.invariant hagrees.invariant,
      huniform ▸ hagrees.uniformBuffers, fun k => hsets k ▸ hagrees.helper k⟩, hfresh ht _,
      h.created, h.dsSize⟩
  | build _ _ id c handles result hc _ hbuild =>
    obtain ⟨t, t', c', ht, ht', -, rfl⟩ := (build_eq_some hc).mp hbuild
    have halive : id ∈ s.descriptors.contexts := (h.context id).alive.mpr (by rw [ht]; rfl)
    exact ⟨h.built ht ht' c', hfresh ht _, h.created,
      Descriptors.Process.Step.dsSize (.build s.descriptors id _ _ halive) h.dsSize⟩
  | launch _ id kind t ht =>
    have halive : id ∈ s.descriptors.contexts := (h.context id).alive.mpr (by rw [ht]; rfl)
    exact ⟨(h.launch ht kind).1, hfresh ht _, (h.launch ht kind).2,
      Descriptors.Process.Step.dsSize (.launch s.descriptors id halive) h.dsSize⟩

namespace Library

/-- There are no contexts yet. -/
theorem agree_init : Agree {} where
  context := fun _ => ⟨Iff.rfl, by simp, by rintro _ ⟨⟩⟩
  fresh := fun _ _ => rfl
  created := rfl
  dsSize := fun _ => rfl

variable {calls : List LibraryCall} {s : Library}

/-- **Run lemma**: the sides always agree. -/
theorem agree_of_trace (htrace : Trace LibraryStep {} calls s) : s.Agree :=
  htrace.invariant agree_init fun _ _ _ hstep => hstep.agree

end Library

/-! ## Runs of the sides -/

/-- A call, as the textures see it. -/
def LibraryCall.toCall : LibraryCall → Option Call
  | .newContext id => some (.createContext id)
  | .terminate id => some (.terminate id)
  | .object _ _ => none
  | .texture id op => some (.texture id op)
  | .build id => some (.texture id .build)
  | .launch id kind => some (.launch id kind)

/-- A call, as the pools see it. -/
def LibraryCall.toOp : LibraryCall → Option Descriptors.Op
  | .newContext _ => some .newContext
  | .terminate _ => some .deleteContext
  | .object _ op => if op.makesKernel then some .newCompute else none
  | .texture _ _ => none
  | .build _ => some .build
  | .launch _ _ => some .launch

namespace Library

variable {calls : List LibraryCall} {s : Library}

/-- **A run of the library is one of its textures.** -/
theorem textures_of_trace (htrace : Trace LibraryStep {} calls s) :
    Trace Process.Step {} (calls.filterMap LibraryCall.toCall) s.textures := by
  refine htrace.project Library.textures agree_init
    (fun _ _ _ h hstep => hstep.agree h) fun call s s' _ hstep => ?_
  cases hstep with
  | newContext _ properties device defaultImage defaultSampler =>
    exact .createContext s.textures device defaultImage defaultSampler
  | terminate _ id hid => exact .terminate s.textures id hid
  | object => rfl
  | texture _ id op t t' ht hop hstep =>
    exact .texture s.textures id op t t' ht (fun hmem => hop (List.mem_cons_of_mem _ hmem)) hstep
  | build _ _ id c handles result hc _ hbuild =>
    obtain ⟨t, t', c', ht, ht', -, rfl⟩ := (build_eq_some hc).mp hbuild
    exact .texture s.textures id .build t t' ht (by decide) (.build t t' ht')
  | launch _ id kind t ht => exact .launch s.textures id kind t ht

/-- **A run of the library is one of its pools.** -/
theorem descriptors_of_trace (htrace : Trace LibraryStep {} calls s) :
    Trace Descriptors.Step {} (calls.filterMap LibraryCall.toOp) s.descriptors := by
  refine htrace.project Library.descriptors agree_init
    (fun _ _ _ h hstep => hstep.agree h) fun call s s' h hstep => ?_
  have halive : ∀ {id t}, s.textures.contexts id = some t → id ∈ s.descriptors.contexts :=
    fun {id t} ht => (h.context id).alive.mpr (by rw [ht]; rfl)
  cases hstep with
  | newContext _ properties device defaultImage defaultSampler =>
    refine .newContext s.descriptors s.textures.made fun hmem => ?_
    have hsome := (h.context _).alive.mp hmem
    rw [h.fresh _ le_rfl] at hsome
    cases hsome
  | terminate _ id hid => exact .deleteContext s.descriptors id ((h.context id).alive.mpr hid)
  | object _ id op c c' hc _ _ =>
    have hid : id ∈ s.descriptors.contexts :=
      (h.context id).alive.mpr ((h.context id).objects.mp (by rw [hc]; rfl))
    cases hkernel : op.makesKernel with
    | true =>
      have hlabel : (LibraryCall.object id op).toOp = some .newCompute := if_pos hkernel
      have hnew : (s.object id op c').descriptors = s.descriptors.buildPipeline := if_pos hkernel
      rw [hlabel, hnew]
      exact .newCompute s.descriptors id hid
    | false =>
      have hne : ¬ op.makesKernel = true := Bool.eq_false_iff.mp hkernel
      have hlabel : (LibraryCall.object id op).toOp = none := if_neg hne
      have hsame : (s.object id op c').descriptors = s.descriptors := if_neg hne
      rw [hlabel, hsame]
      exact rfl
  | texture => rfl
  | build _ _ id c handles result hc _ hbuild =>
    obtain ⟨t, t', c', ht, -, -, rfl⟩ := (build_eq_some hc).mp hbuild
    exact .build s.descriptors id _ _ (halive ht)
  | launch _ id kind t ht => exact .launch s.descriptors id (halive ht)

/-- **The objects of every context** are in a state that operations lead to. -/
theorem reachable_of_trace (htrace : Trace LibraryStep {} calls s) {id : ℕ} {c : Context}
    (hc : s.contexts id = some c) : c.Reachable := by
  refine htrace.invariant (P := fun s => ∀ id c, s.contexts id = some c → c.Reachable)
    (by rintro _ _ ⟨⟩) (fun call s s' hstep h id c hc => ?_) id c hc
  by_cases hid : id = call.id
  swap
  · exact h id c (hstep.sameBut.objects id hid ▸ hc)
  subst hid
  cases hstep with
  | newContext _ properties device defaultImage defaultSampler =>
    have hnew : some c = some _ := hc.symm.trans (Function.update_self _ _ _)
    rw [Option.some.inj hnew]
    exact ⟨properties, .refl⟩
  | terminate _ id _ =>
    have hnone : some c = none := hc.symm.trans (Function.update_self _ _ _)
    cases hnone
  | object _ id op c₁ c₂ hc₁ _ hstep =>
    have hnew : some c = some c₂ := hc.symm.trans (Function.update_self _ _ _)
    rw [Option.some.inj hnew]
    exact (h id c₁ hc₁).step hstep
  | texture _ id op t t' _ _ _ => exact h id c hc
  | build _ _ id c₁ handles result hc₁ hhandles hbuild =>
    obtain ⟨t, t', c', -, -, hends, rfl⟩ := (build_eq_some hc₁).mp hbuild
    have hnew : some c = some c' := hc.symm.trans (Function.update_self _ _ _)
    rw [Option.some.inj hnew]
    rcases hends with ⟨e, -, hrun⟩ | ⟨stages, groups, c₂, -, hrun, -, rfl⟩
    · have hc' : c' = c₁.destroyPipeline.gatherPrograms.2 := by rw [hrun]
      exact hc' ▸ (h id c₁ hc₁).step (.gatherPrograms c₁)
    · exact (h id c₁ hc₁).step (.build c₁ c₂ stages groups _ hrun (hhandles groups))
  | launch _ id kind t _ => exact h id c hc

end Library

end Vulkanite
