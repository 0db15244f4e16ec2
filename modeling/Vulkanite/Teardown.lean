/-
# Tearing down

`OwnershipStep` is one call of the application that succeeds, and `Ownership.Invariant`
what holds after every run of such calls: pointers lead to live nodes, the members of an
object belong to classes below its own, and the devices know their contexts.

When `vknTerminate` gets to the destructor of the driver instance, everything else has
died unless a static variable of `Compute::buildPipeline` still points to a device: so
the process is torn down exactly if no compute kernel was ever made
(`tornDown_terminate_iff`).
-/
import Mathlib.Data.List.ReduceOption
import Vulkanite.Lib.Traces
import Vulkanite.Ownership

namespace Vulkanite

/-! ## Calls -/

/-- The calls that make, store or drop a `shared_ptr`; `other` is any other call.  Calls
succeed: a `vknComputeCreate` that fails has made the static wrappers, and a
`vknContextCreate` that fails leaves the pointer to its context in the device. -/
inductive ApiCall where
  | contextCreate
  | shaderModuleCreate
  | computeCreate
  | progCreate
  | geomTypeCreate
  | geomTypeSetProg
  | geomTypeSetBoundsProg
  | geomCreate
  | geomAccelCreate
  | instanceAccelCreate
  | geomAccelBuild
  | instanceAccelBuild
  | imageCreate
  | samplerCreate
  | deviceBufferCreate
  | bufferDestroy
  | buildSBT
  | other
  deriving DecidableEq, Repr

/-- The calls that make a `Compute`. -/
def ApiCall.MakesCompute (call : ApiCall) : Prop :=
  call ∈ [ApiCall.computeCreate, .geomTypeSetBoundsProg]

instance : DecidablePred ApiCall.MakesCompute := fun call =>
  inferInstanceAs (Decidable (call ∈ _))

namespace Ownership

/-- A handle that can be passed to a call: the object is alive, and so is its context. -/
def Usable (s : Ownership) (r : ObjectRef) : Prop :=
  .object r ∈ s.live ∧ .context (s.objects r).context ∈ s.live

/-- Addresses for new objects: nothing lives there. -/
def Fresh (s : Ownership) (rs : List ObjectRef) : Prop := rs.Nodup ∧ ∀ r ∈ rs, .object r ∉ s.live

end Ownership

open Ownership in
/-- One call.  After it everything dies that nothing points to. -/
inductive OwnershipStep : ApiCall → Ownership → Ownership → Prop
  | contextCreate (s : Ownership) (device id : ℕ) (b b' image sampler : Ptr)
      (hdevice : device ∈ s.devices) (hid : .context id ∉ s.live)
      (hfresh : s.Fresh [(.deviceBuffer, b), (.deviceBuffer, b'), (.texture .image2Ds, image),
        (.texture .samplers, sampler)]) :
      OwnershipStep .contextCreate s (s.newContext device id b b' image sampler).collect
  | shaderModuleCreate (s : Ownership) (id : ℕ) (m : Ptr) (hid : .context id ∈ s.live)
      (hfresh : s.Fresh [(.object .shaderModule, m)]) :
      OwnershipStep .shaderModuleCreate s (s.create id (.object .shaderModule, m) []).collect
  | computeCreate (s : Ownership) (id : ℕ) (m q : Ptr) (hid : .context id ∈ s.live)
      (hm : s.Usable (.object .shaderModule, m))
      (hfresh : s.Fresh [(.object .shaderProgram, q)]) :
      OwnershipStep .computeCreate s
        ((s.newCompute m q).addAppRef id (.object .shaderProgram, q)).collect
  | progCreate (s : Ownership) (id : ℕ) (k : ProgKind) (m q t p : Ptr)
      (hid : .context id ∈ s.live) (hm : s.Usable (.object .shaderModule, m))
      (hfresh : s.Fresh [(.object (.progType k), t), (.object (.prog k), p)]) :
      OwnershipStep .progCreate s (s.newProg id k m q t p).collect
  | geomTypeCreate (s : Ownership) (id : ℕ) (t : Ptr) (hid : .context id ∈ s.live)
      (hfresh : s.Fresh [(.object .geomType, t)]) :
      OwnershipStep .geomTypeCreate s
        (s.create id (.object .geomType, t) (List.replicate 4 none)).collect
  | geomTypeSetProg (s : Ownership) (t : Ptr) (role : HitRole) (m q : Ptr)
      (ht : s.Usable (.object .geomType, t)) (hm : s.Usable (.object .shaderModule, m)) :
      OwnershipStep .geomTypeSetProg s (s.setHitProg t role m q).collect
  | geomTypeSetBoundsProg (s : Ownership) (t m q : Ptr) (ht : s.Usable (.object .geomType, t))
      (hm : s.Usable (.object .shaderModule, m))
      (hfresh : s.Fresh [(.object .shaderProgram, q)]) :
      OwnershipStep .geomTypeSetBoundsProg s (s.setBoundsProg t m q).collect
  | geomCreate (s : Ownership) (t g : Ptr) (ht : s.Usable (.object .geomType, t))
      (hfresh : s.Fresh [(.object .geom, g)]) :
      OwnershipStep .geomCreate s (s.newGeom t g).collect
  | geomAccelCreate (s : Ownership) (id : ℕ) (a : Ptr) (geoms : List (Option Ptr))
      (hid : .context id ∈ s.live)
      (hgeoms : ∀ g, some g ∈ geoms → .object (.object .geom, g) ∈ s.live)
      (hfresh : s.Fresh [(.object .geomAccel, a)]) :
      OwnershipStep .geomAccelCreate s (s.newGeomAccel id a geoms).collect
  | instanceAccelCreate (s : Ownership) (id : ℕ) (a : Ptr) (accels : List (Option Ptr))
      (hid : .context id ∈ s.live)
      (haccels : ∀ a', some a' ∈ accels → .object (.object .geomAccel, a') ∈ s.live)
      (hfresh : s.Fresh [(.object .instanceAccel, a)]) :
      OwnershipStep .instanceAccelCreate s (s.newInstanceAccel id a accels).collect
  | geomAccelBuild (s : Ownership) (a b : Ptr) (ha : s.Usable (.object .geomAccel, a))
      (hfresh : s.Fresh [(.deviceBuffer, b)]) :
      OwnershipStep .geomAccelBuild s (s.buildGeomAccel a b).collect
  | instanceAccelBuild (s : Ownership) (a b b' b'' : Ptr)
      (ha : s.Usable (.object .instanceAccel, a))
      (hfresh : s.Fresh [(.deviceBuffer, b), (.deviceBuffer, b'), (.deviceBuffer, b'')]) :
      OwnershipStep .instanceAccelBuild s (s.buildInstanceAccel a b b' b'').collect
  | imageCreate (s : Ownership) (id : ℕ) (p : Ptr) (hid : .context id ∈ s.live)
      (hfresh : s.Fresh [(.texture .image2Ds, p)]) :
      OwnershipStep .imageCreate s (s.create id (.texture .image2Ds, p) []).collect
  | samplerCreate (s : Ownership) (image p : Ptr) (himage : s.Usable (.texture .image2Ds, image))
      (hfresh : s.Fresh [(.texture .samplers, p)]) :
      OwnershipStep .samplerCreate s (s.newSampler image p).collect
  | deviceBufferCreate (s : Ownership) (id : ℕ) (b : Ptr) (hid : .context id ∈ s.live)
      (hfresh : s.Fresh [(.deviceBuffer, b)]) :
      OwnershipStep .deviceBufferCreate s (s.create id (.deviceBuffer, b) []).collect
  | bufferDestroy (s : Ownership) (b : Ptr) (hb : s.Usable (.deviceBuffer, b)) :
      OwnershipStep .bufferDestroy s (s.bufferDestroy b).collect
  | buildSBT (s : Ownership) (id : ℕ) (b b' b'' : Ptr) (hid : .context id ∈ s.live)
      (hfresh : s.Fresh [(.deviceBuffer, b), (.deviceBuffer, b'), (.deviceBuffer, b'')]) :
      OwnershipStep .buildSBT s (s.buildSBT id b b' b'').collect
  | other (s : Ownership) : OwnershipStep .other s s

/-! ## Classes -/

/-- The place of a class in the order in which members point. -/
def ObjectClass.rank : ObjectClass → ℕ
  | .deviceBuffer | .texture .image2Ds | .object .shaderModule => 0
  | .texture .samplers | .object .shaderProgram => 1
  | .object (.progType _) | .object .geomType => 2
  | .object (.prog _) | .object .geom => 3
  | .object .geomAccel => 4
  | .object .instanceAccel => 5

/-- The place of a node. -/
def Node.rank : Node → ℕ
  | .driverHandle => 0
  | .physicalDevice _ => 1
  | .logicalDevice _ => 2
  | .object r => r.1.rank + 3
  | .context _ => 9
  | .driverInstance => 10

namespace Ownership

variable {s : Ownership}

/-- What holds between calls. -/
structure Invariant (s : Ownership) : Prop where
  closed : s.graph.Closed
  members : ∀ r, .object r ∈ s.live → ∀ r', some r' ∈ (s.objects r).members →
    r'.1.rank < r.1.rank
  contexts : ∀ id, .context id ∈ s.live →
    id ∈ s.contextsOnThisDevice (s.contexts id).device ∧ (s.contexts id).device ∈ s.devices
  driverInstance : .driverInstance ∈ s.live
  selfReference : s.selfReference = true

/-! ## What pointers there are -/

/-- The wrappers at a place hold their device only. -/
theorem mem_wrapperRefs {device : ℕ} {n : Node} :
    n ∈ wrapperRefs device ↔ n = .logicalDevice device := by
  simp [wrapperRefs]

/-- So do those in the pipeline of a context. -/
theorem mem_rtPipelineRefs {device : ℕ} {n : Node} :
    n ∈ rtPipelineRefs device ↔ n = .logicalDevice device := by
  simp [rtPipelineRefs, mem_wrapperRefs]

/-- A context holds its device, itself until it is terminated, and objects. -/
theorem mem_contextRefs {id : ℕ} {c : ContextMembers} {n : Node} :
    n ∈ c.refs id ↔ n = .logicalDevice c.device ∨ (c.selfReference = true ∧ n = .context id) ∨
      ∃ r ∈ c.objects, n = .object r := by
  simp only [ContextMembers.refs, List.mem_append, List.mem_cons, mem_rtPipelineRefs,
    mem_wrapperRefs, List.mem_map, List.mem_ite_nil_right, List.not_mem_nil, or_false, or_self,
    or_assoc, eq_comm (b := n)]

/-- An object holds its device and its members. -/
theorem mem_objectRefs {k : ObjectClass} {o : ObjectMembers} {n : Node} :
    n ∈ o.refs k ↔ n = .logicalDevice o.device ∨ ∃ r, some r ∈ o.members ∧ n = .object r := by
  simp only [ObjectMembers.refs, List.mem_append, List.mem_cons, List.mem_map,
    List.reduceOption_mem_iff, List.mem_ite_nil_right, List.not_mem_nil, or_false,
    eq_comm (b := n)]
  constructor
  · rintro (⟨-, h⟩ | h)
    · exact Or.inl h
    · exact h
  · exact Or.inr

/-- The objects that a context holds: the three buffers of records, those with references of
the application, and the default sampler and image. -/
theorem mem_objects {c : ContextMembers} {r : ObjectRef} :
    r ∈ c.objects ↔
      (r.1 = .deviceBuffer ∧ (c.rayGenRecordsBuffer = some r.2 ∨
        c.missProgRecordsBuffer = some r.2 ∨ c.hitGroupRecordsBuffer = some r.2)) ∨
      r ∈ c.appUseCount ∨ (r.1 = .texture .samplers ∧ c.defaultSampler = some r.2) ∨
      (r.1 = .texture .image2Ds ∧ c.defaultImage = some r.2) := by
  obtain ⟨k, p⟩ := r
  have hmember : ∀ (k' : ObjectClass) (member : Option Ptr),
      (k, p) ∈ member.toList.map (k', ·) ↔ k = k' ∧ member = some p := by
    intro k' member
    cases member <;> simp [eq_comm]
  simp only [ContextMembers.objects, List.mem_append, hmember, and_or_left, or_assoc]

/-- What dies in a state dies in its graph of pointers. -/
theorem graph_collect (s : Ownership) : s.collect.graph = s.graph.collect :=
  RefGraph.ext rfl s.graph.refs_collect.symm s.graph.roots_collect.symm

/-! ## What keeps the invariant -/

namespace Invariant

/-- One object changes, or is new. -/
theorem closed_updateObject (h : s.Invariant) {l : Finset Node} {r : ObjectRef} {o : ObjectMembers}
    (hl : s.live ⊆ l) (hl' : ∀ m ∈ l, m = .object r ∨ m ∈ s.live)
    (ho : .object r ∈ l → ∀ n ∈ o.refs r.1, n ∈ l) :
    { s with live := l, objects := Function.update s.objects r o : Ownership }.graph.Closed := by
  refine h.closed.update hl (fun m hm => ?_) fun n hn => hl (h.closed.roots n hn)
  by_cases hr : m = .object r
  · right
    subst hr
    simpa only [graph, refs, Function.update_self] using ho hm
  · left
    refine ⟨(hl' m hm).resolve_left hr, ?_⟩
    cases m with
    | object r' =>
      have hne : r' ≠ r := fun heq => hr (by rw [heq])
      simp only [graph, refs, Function.update_of_ne hne]
    | _ => rfl

/-- One context changes, or is new. -/
theorem closed_updateContext (h : s.Invariant) {l : Finset Node} {id : ℕ} {c : ContextMembers}
    (contextsOnThisDevice : ℕ → List ℕ) (hl : s.live ⊆ l)
    (hl' : ∀ m ∈ l, m = .context id ∨ m ∈ s.live)
    (hc : .context id ∈ l → ∀ n ∈ c.refs id, n ∈ l) :
    { s with live := l, contextsOnThisDevice,
             contexts := Function.update s.contexts id c : Ownership }.graph.Closed := by
  refine h.closed.update hl (fun m hm => ?_) fun n hn => hl (h.closed.roots n hn)
  by_cases hid : m = .context id
  · right
    subst hid
    simpa only [graph, refs, Function.update_self] using hc hm
  · left
    refine ⟨(hl' m hm).resolve_left hid, ?_⟩
    cases m with
    | context id' =>
      have hne : id' ≠ id := fun heq => hid (by rw [heq])
      simp only [graph, refs, Function.update_of_ne hne]
    | _ => rfl

/-- The device of a live context is alive. -/
theorem device_live (h : s.Invariant) {id : ℕ} (hid : .context id ∈ s.live) :
    .logicalDevice (s.contexts id).device ∈ s.live :=
  h.closed.refs _ hid _ (mem_contextRefs.mpr (Or.inl rfl))

/-- A new object points to live objects of classes below its own. -/
theorem newObject (h : s.Invariant) {context : ℕ} (hcontext : .context context ∈ s.live)
    (r : ObjectRef) {members : List (Option ObjectRef)}
    (hmembers : ∀ r', some r' ∈ members → .object r' ∈ s.live ∧ r'.1.rank < r.1.rank) :
    (s.newObject context r members).Invariant where
  closed := by
    refine h.closed_updateObject (Finset.subset_insert _ _) (fun m hm => Finset.mem_insert.mp hm)
      fun _ n hn => ?_
    rcases mem_objectRefs.mp hn with rfl | ⟨r', hr', rfl⟩
    · exact Finset.mem_insert_of_mem (h.device_live hcontext)
    · exact Finset.mem_insert_of_mem (hmembers r' hr').1
  members := by
    intro r₁ hr₁ r' hr'
    simp only [Ownership.newObject, Function.update_apply] at hr₁ hr'
    split_ifs at hr' with heq
    · exact heq ▸ (hmembers r' hr').2
    · refine h.members r₁ (Finset.mem_of_mem_insert_of_ne hr₁ ?_) r' hr'
      simpa using heq
  contexts := by
    intro id hid
    exact h.contexts id (Finset.mem_of_mem_insert_of_ne hid (by simp))
  driverInstance := Finset.mem_insert_of_mem h.driverInstance
  selfReference := h.selfReference

/-- The context may point to live objects only. -/
theorem updateContext (h : s.Invariant) {id : ℕ} {f : ContextMembers → ContextMembers}
    (hdevice : (f (s.contexts id)).device = (s.contexts id).device)
    (hobjects : .context id ∈ s.live → ∀ r ∈ (f (s.contexts id)).objects, .object r ∈ s.live) :
    (s.updateContext id f).Invariant where
  closed := by
    refine h.closed_updateContext _ (Finset.Subset.refl _) (fun m hm => Or.inr hm)
      fun hid n hn => ?_
    rcases mem_contextRefs.mp hn with rfl | ⟨-, rfl⟩ | ⟨r, hr, rfl⟩
    · rw [hdevice]
      exact h.device_live hid
    · exact hid
    · exact hobjects hid r hr
  members := h.members
  contexts := by
    intro id' hid'
    have hsame : ((s.updateContext id f).contexts id').device = (s.contexts id').device := by
      simp only [Ownership.updateContext, Function.update_apply]
      split_ifs with heq
      · rw [heq, hdevice]
      · rfl
    rw [hsame]
    exact h.contexts id' hid'
  driverInstance := h.driverInstance
  selfReference := h.selfReference

/-- A member that is replaced by a live object of a class below. -/
theorem setMember (h : s.Invariant) {r m : ObjectRef} (hm : .object m ∈ s.live)
    (hrank : m.1.rank < r.1.rank) (i : ℕ) : (s.setMember r i m).Invariant := by
  have hmem : ∀ r', some r' ∈ (s.objects r).members.set i (some m) →
      some r' ∈ (s.objects r).members ∨ r' = m := fun r' hr' => by
    rcases List.mem_or_eq_of_mem_set hr' with hr' | hr'
    · exact Or.inl hr'
    · exact Or.inr (Option.some.inj hr')
  refine ⟨?_, ?_, h.contexts, h.driverInstance, h.selfReference⟩
  · refine h.closed_updateObject (Finset.Subset.refl _) (fun m hm => Or.inr hm) fun hr n hn => ?_
    rcases mem_objectRefs.mp hn with rfl | ⟨r', hr', rfl⟩
    · exact h.closed.refs _ hr _ (mem_objectRefs.mpr (Or.inl rfl))
    · rcases hmem r' hr' with hr' | rfl
      · exact h.closed.refs _ hr _ (mem_objectRefs.mpr (Or.inr ⟨r', hr', rfl⟩))
      · exact hm
  · intro r₁ hr₁ r' hr'
    simp only [Ownership.setMember, Function.update_apply] at hr'
    split_ifs at hr' with heq
    · subst heq
      rcases hmem r' hr' with hr' | rfl
      · exact h.members r₁ hr₁ r' hr'
      · exact hrank
    · exact h.members r₁ hr₁ r' hr'

/-- Static variables for a device that is alive. -/
theorem uniformBuffers (h : s.Invariant) {device : ℕ} (hdevice : .logicalDevice device ∈ s.live) :
    { s with uniformBuffers := some device : Ownership }.Invariant :=
  { h with
    closed := by
      refine h.closed.update (Finset.Subset.refl _) (fun m hm => Or.inl ⟨hm, rfl⟩) fun n hn => ?_
      simp only [graph, Option.toList_some, List.flatMap_singleton, mem_wrapperRefs] at hn
      exact hn ▸ hdevice }

/-- What is left points to live nodes. -/
theorem collect (h : s.Invariant) : s.collect.Invariant where
  closed := by
    rw [graph_collect]
    exact h.closed.collect
  members := fun r hr => h.members r (s.graph.live_collect_subset hr)
  contexts := by
    intro id hid
    obtain ⟨hmem, hdevice⟩ := h.contexts id (s.graph.live_collect_subset hid)
    exact ⟨List.mem_filter.mpr ⟨hmem, decide_eq_true hid⟩, hdevice⟩
  driverInstance := by
    have hself : s.graph.Anchored .driverInstance := by
      right
      simp [graph, refs, h.selfReference]
    exact hself.collect h.driverInstance
  selfReference := h.selfReference

/-- An object without members. -/
theorem newLeaf (h : s.Invariant) {context : ℕ} (hcontext : .context context ∈ s.live)
    (r : ObjectRef) : (s.newObject context r []).Invariant :=
  h.newObject hcontext r fun _ hr' => absurd hr' List.not_mem_nil

/-- A context holds live objects. -/
theorem objects_live (h : s.Invariant) {id : ℕ} (hid : .context id ∈ s.live) {r : ObjectRef}
    (hr : r ∈ (s.contexts id).objects) : .object r ∈ s.live :=
  h.closed.refs _ hid _ (mem_contextRefs.mpr (Or.inr (Or.inr ⟨r, hr, rfl⟩)))

/-- The application gets a reference to a live object. -/
theorem addAppRef (h : s.Invariant) {r : ObjectRef} (hr : .object r ∈ s.live) (id : ℕ) :
    (s.addAppRef id r).Invariant := by
  refine h.updateContext rfl fun hid r' hr' => ?_
  -- `appUseCount` has one pointer more
  rcases mem_objects.mp hr' with hbuffer | happ | hdefault
  · exact h.objects_live hid (mem_objects.mpr (Or.inl hbuffer))
  · rcases List.mem_cons.mp happ with rfl | happ
    · exact hr
    · exact h.objects_live hid (mem_objects.mpr (Or.inr (Or.inl happ)))
  · exact h.objects_live hid (mem_objects.mpr (Or.inr (Or.inr hdefault)))

/-- A new object that the application holds. -/
theorem create (h : s.Invariant) {context : ℕ} (hcontext : .context context ∈ s.live)
    (r : ObjectRef) {members : List (Option ObjectRef)}
    (hmembers : ∀ r', some r' ∈ members → .object r' ∈ s.live ∧ r'.1.rank < r.1.rank) :
    (s.create context r members).Invariant :=
  (h.newObject hcontext r hmembers).addAppRef (Finset.mem_insert_self _ _) context

/-- The program from `get` is alive. -/
theorem get (h : s.Invariant) {m : Ptr} (hm : s.Usable (.object .shaderModule, m)) (q : Ptr) :
    (s.get m q).Invariant ∧ .object (.object .shaderProgram, q) ∈ (s.get m q).live ∧
      s.live ⊆ (s.get m q).live := by
  unfold Ownership.get
  split_ifs with hq
  · exact ⟨h, hq, Finset.Subset.refl _⟩
  · refine ⟨h.newObject hm.2 _ ?_, Finset.mem_insert_self _ _, Finset.subset_insert _ _⟩
    intro r' hr'
    obtain rfl := Option.some.inj (List.mem_singleton.mp hr')
    exact ⟨hm.1, by simp [ObjectClass.rank]⟩

/-- A compute kernel points to its module. -/
theorem newCompute (h : s.Invariant) {m : Ptr} (hm : s.Usable (.object .shaderModule, m))
    (q : Ptr) : (s.newCompute m q).Invariant := by
  refine (h.newObject hm.2 _ ?_).uniformBuffers ?_
  · intro r' hr'
    obtain rfl := Option.some.inj (List.mem_singleton.mp hr')
    exact ⟨hm.1, by simp [ObjectClass.rank]⟩
  · refine Finset.mem_insert_of_mem ?_
    cases hu : s.uniformBuffers with
    | none => exact h.device_live hm.2
    | some d =>
      refine h.closed.roots _ ?_
      simp only [graph, hu, Option.toList_some, List.flatMap_singleton, mem_wrapperRefs,
        Option.getD_some]

/-- The device gets to know the new context, which holds itself. -/
theorem trackContext (h : s.Invariant) {device : ℕ} (hdevice : device ∈ s.devices) (id : ℕ) :
    (s.trackContext device id).Invariant where
  closed := by
    refine h.closed_updateContext _ (Finset.subset_insert _ _)
      (fun m hm => Finset.mem_insert.mp hm) fun _ n hn => ?_
    rcases mem_contextRefs.mp hn with rfl | ⟨hself, -⟩ | ⟨r, hr, -⟩
    · refine Finset.mem_insert_of_mem (h.closed.refs _ h.driverInstance _ ?_)
      simp [graph, refs, hdevice]
    · cases hself
    · exact absurd hr (by simp [ContextMembers.objects])
  members := fun r hr => h.members r (Finset.mem_of_mem_insert_of_ne hr (by simp))
  contexts := by
    intro id' hid'
    simp only [Ownership.trackContext, Function.update_apply]
    by_cases heq : id' = id
    · subst heq
      simpa using hdevice
    · have hold := h.contexts id' (Finset.mem_of_mem_insert_of_ne hid' (by simpa using heq))
      rw [if_neg heq]
      refine ⟨?_, hold.2⟩
      split_ifs with hd
      · exact List.mem_cons_of_mem _ (hd ▸ hold.1)
      · exact hold.1
  driverInstance := Finset.mem_insert_of_mem h.driverInstance
  selfReference := h.selfReference

/-- A context with its two buffers, its image and the sampler of it. -/
theorem newContext (h : s.Invariant) {device : ℕ} (hdevice : device ∈ s.devices) (id : ℕ)
    (b b' image sampler : Ptr) : (s.newContext device id b b' image sampler).Invariant := by
  have h₁ := h.trackContext hdevice id
  have hlive : .context id ∈ (s.trackContext device id).live := Finset.mem_insert_self _ _
  have h₂ := h₁.newLeaf hlive (.deviceBuffer, b)
  have h₃ := h₂.newLeaf (Finset.mem_insert_of_mem hlive) (.deviceBuffer, b')
  have h₄ := h₃.newLeaf (Finset.mem_insert_of_mem (Finset.mem_insert_of_mem hlive))
    (.texture .image2Ds, image)
  have h₅ := h₄.newObject
    (Finset.mem_insert_of_mem (Finset.mem_insert_of_mem (Finset.mem_insert_of_mem hlive)))
    (.texture .samplers, sampler)
    fun r' (hr' : some r' ∈ [some ((.texture .image2Ds, image) : ObjectRef)]) => by
      obtain rfl := Option.some.inj (List.mem_singleton.mp hr')
      exact ⟨Finset.mem_insert_self _ _, by simp [ObjectClass.rank]⟩
  unfold Ownership.newContext
  refine h₅.updateContext rfl fun hid' r hr => ?_
  obtain ⟨k, p⟩ := r
  rcases mem_objects.mp hr with ⟨rfl, hb | hm | hb⟩ | ha | ⟨rfl, hs⟩ | ⟨rfl, hi⟩
  · obtain rfl := Option.some.inj hb
    simp [Ownership.newObject]
  · exact h₅.objects_live hid' (mem_objects.mpr (Or.inl ⟨rfl, Or.inr (Or.inl hm)⟩))
  · obtain rfl := Option.some.inj hb
    simp [Ownership.newObject]
  · exact h₅.objects_live hid' (mem_objects.mpr (Or.inr (Or.inl ha)))
  · obtain rfl := Option.some.inj hs
    simp [Ownership.newObject]
  · obtain rfl := Option.some.inj hi
    simp [Ownership.newObject]

/-- The buffers of `buildSBT`. -/
theorem buildSBT (h : s.Invariant) {id : ℕ} (hid : .context id ∈ s.live) (b b' b'' : Ptr) :
    (s.buildSBT id b b' b'').Invariant := by
  have h₁ := h.newLeaf hid (.deviceBuffer, b)
  have h₂ := h₁.newLeaf (Finset.mem_insert_of_mem hid) (.deviceBuffer, b')
  have h₃ := h₂.newLeaf (Finset.mem_insert_of_mem (Finset.mem_insert_of_mem hid))
    (.deviceBuffer, b'')
  unfold Ownership.buildSBT
  refine h₃.updateContext rfl fun hid' r hr => ?_
  obtain ⟨k, p⟩ := r
  rcases mem_objects.mp hr with ⟨rfl, hb⟩ | hr
  · -- the buffers that were made last come first
    simp only [Option.some.injEq] at hb
    simp only [Ownership.newObject, Finset.mem_insert, Node.object.injEq, Prod.mk.injEq, true_and]
    rcases hb with rfl | rfl | rfl
    · exact Or.inr (Or.inr (Or.inl rfl))
    · exact Or.inr (Or.inl rfl)
    · exact Or.inl rfl
  · exact h₃.objects_live hid' (mem_objects.mpr (Or.inr hr))

/-- A type with its program from the module, and one program of the type. -/
theorem newProg (h : s.Invariant) {id : ℕ} (hid : .context id ∈ s.live) (k : ProgKind) {m : Ptr}
    (hm : s.Usable (.object .shaderModule, m)) (q t p : Ptr) :
    (s.newProg id k m q t p).Invariant := by
  obtain ⟨h₁, hq, hsub⟩ := h.get hm q
  have h₂ := h₁.newObject (hsub hid) (.object (.progType k), t)
    fun r' (hr' : some r' ∈ [some ((.object .shaderProgram, q) : ObjectRef)]) => by
      obtain rfl := Option.some.inj (List.mem_singleton.mp hr')
      exact ⟨hq, by simp [ObjectClass.rank]⟩
  refine h₂.create (Finset.mem_insert_of_mem (hsub hid)) _ fun r' hr' => ?_
  obtain rfl := Option.some.inj (List.eq_of_mem_replicate hr')
  exact ⟨Finset.mem_insert_self _ _, by simp [ObjectClass.rank]⟩

/-- A geometry type gets a program from the module. -/
theorem setHitProg (h : s.Invariant) {m : Ptr} (hm : s.Usable (.object .shaderModule, m))
    (t : Ptr) (role : HitRole) (q : Ptr) : (s.setHitProg t role m q).Invariant := by
  obtain ⟨h₁, hq, -⟩ := h.get hm q
  exact h₁.setMember hq (by simp [ObjectClass.rank]) _

/-- A geometry type gets a kernel of the module. -/
theorem setBoundsProg (h : s.Invariant) {m : Ptr} (hm : s.Usable (.object .shaderModule, m))
    (t q : Ptr) : (s.setBoundsProg t m q).Invariant :=
  (h.newCompute hm q).setMember (Finset.mem_insert_self _ _) (by simp [ObjectClass.rank]) 3

/-- A geometry points to its type. -/
theorem newGeom (h : s.Invariant) {t : Ptr} (ht : s.Usable (.object .geomType, t)) (g : Ptr) :
    (s.newGeom t g).Invariant := by
  refine h.create ht.2 _ fun r' hr' => ?_
  obtain rfl := Option.some.inj (List.eq_of_mem_replicate hr')
  exact ⟨ht.1, by simp [ObjectClass.rank]⟩

/-- An accel points to its geometries. -/
theorem newGeomAccel (h : s.Invariant) {id : ℕ} (hid : .context id ∈ s.live) (a : Ptr)
    {geoms : List (Option Ptr)}
    (hgeoms : ∀ g, some g ∈ geoms → .object (.object .geom, g) ∈ s.live) :
    (s.newGeomAccel id a geoms).Invariant := by
  refine h.create hid _ fun r' hr' => ?_
  simp only [List.mem_cons, reduceCtorEq, List.mem_map, Option.map_eq_some_iff, false_or] at hr'
  obtain ⟨_, hg, g, rfl, rfl⟩ := hr'
  exact ⟨hgeoms g hg, by simp [ObjectClass.rank]⟩

/-- An instance accel points to its accels. -/
theorem newInstanceAccel (h : s.Invariant) {id : ℕ} (hid : .context id ∈ s.live) (a : Ptr)
    {accels : List (Option Ptr)}
    (haccels : ∀ a', some a' ∈ accels → .object (.object .geomAccel, a') ∈ s.live) :
    (s.newInstanceAccel id a accels).Invariant := by
  refine h.create hid _ fun r' hr' => ?_
  simp only [List.mem_append, List.mem_replicate, reduceCtorEq, and_false, List.mem_map,
    Option.map_eq_some_iff, false_or] at hr'
  obtain ⟨_, ha, a', rfl, rfl⟩ := hr'
  exact ⟨haccels a' ha, by simp [ObjectClass.rank]⟩

/-- A new buffer in an accel. -/
theorem setBuffer (h : s.Invariant) {k : ObjectKind} {a : Ptr} (ha : s.Usable (.object k, a))
    (hk : 0 < (ObjectClass.object k).rank) (i : ℕ) (b : Ptr) : (s.setBuffer k a i b).Invariant :=
  (h.newLeaf ha.2 (.deviceBuffer, b)).setMember (r := (.object k, a)) (Finset.mem_insert_self _ _)
    hk i

/-- The accel is as usable as it was. -/
theorem usable_setBuffer {k : ObjectKind} {a : Ptr} (ha : s.Usable (.object k, a)) (i : ℕ)
    (b : Ptr) : (s.setBuffer k a i b).Usable (.object k, a) := by
  have hcontext : ((s.setBuffer k a i b).objects (.object k, a)).context =
      (s.objects (.object k, a)).context := by
    simp [Ownership.setBuffer, Ownership.setMember, Ownership.newObject]
  exact ⟨Finset.mem_insert_of_mem ha.1, Finset.mem_insert_of_mem (hcontext ▸ ha.2)⟩

/-- The three buffers of an accel are below it. -/
theorem buildInstanceAccel (h : s.Invariant) {a : Ptr} (ha : s.Usable (.object .instanceAccel, a))
    (b b' b'' : Ptr) : (s.buildInstanceAccel a b b' b'').Invariant := by
  have hrank : 0 < (ObjectClass.object .instanceAccel).rank := by decide
  have h₁ := h.setBuffer ha hrank 1 b'
  have h₂ := h₁.setBuffer (usable_setBuffer ha 1 b') hrank 2 b''
  exact h₂.setBuffer (usable_setBuffer (usable_setBuffer ha 1 b') 2 b'') hrank 0 b

/-- A sampler points to its image. -/
theorem newSampler (h : s.Invariant) {image : Ptr} (hi : s.Usable (.texture .image2Ds, image))
    (p : Ptr) : (s.newSampler image p).Invariant := by
  refine h.create hi.2 _ fun r' hr' => ?_
  obtain rfl := Option.some.inj (List.mem_singleton.mp hr')
  exact ⟨hi.1, by simp [ObjectClass.rank]⟩

/-- The references of the application to a buffer are dropped. -/
theorem bufferDestroy (h : s.Invariant) (b : Ptr) : (s.bufferDestroy b).Invariant := by
  unfold Ownership.bufferDestroy freeAllRefs
  refine h.updateContext rfl fun hid r hr => h.objects_live hid ?_
  rcases mem_objects.mp hr with hb | ha | hr
  · exact mem_objects.mpr (Or.inl hb)
  · exact mem_objects.mpr (Or.inr (Or.inl (List.mem_of_mem_erase ha)))
  · exact mem_objects.mpr (Or.inr (Or.inr hr))

/-- A driver instance without contexts. -/
theorem init (numDevices : ℕ) : (vknInitialize numDevices).Invariant where
  closed := by
    refine ⟨fun m hm n hn => ?_, fun n hn => absurd hn List.not_mem_nil⟩
    simp only [graph, vknInitialize, Finset.mem_union, Finset.mem_insert, Finset.mem_singleton,
      Finset.mem_image, Finset.mem_range] at hm hn ⊢
    rcases hm with ((rfl | rfl) | ⟨i, hi, rfl⟩) | ⟨i, hi, rfl⟩
    · simp only [refs, if_true, List.singleton_append, List.mem_cons, List.mem_map,
        List.mem_range] at hn
      rcases hn with rfl | rfl | ⟨i, hi, rfl⟩
      · exact Or.inl (Or.inl (Or.inl rfl))
      · exact Or.inl (Or.inl (Or.inr rfl))
      · exact Or.inr ⟨i, hi, rfl⟩
    · exact absurd hn List.not_mem_nil
    · obtain rfl := List.mem_singleton.mp hn
      exact Or.inl (Or.inl (Or.inr rfl))
    · obtain rfl := List.mem_singleton.mp hn
      exact Or.inl (Or.inr ⟨i, hi, rfl⟩)
  members := fun r hr => by simp [vknInitialize] at hr
  contexts := fun id hid => by simp [vknInitialize] at hid
  driverInstance := by simp [vknInitialize]
  selfReference := rfl

end Invariant

end Ownership

open Ownership in
/-- **Step lemma**: every call keeps the invariant. -/
theorem OwnershipStep.invariant {call : ApiCall} {s s' : Ownership}
    (hstep : OwnershipStep call s s') (h : s.Invariant) : s'.Invariant := by
  have hempty : ∀ {r : ObjectRef} (r' : ObjectRef), some r' ∈ ([] : List (Option ObjectRef)) →
      .object r' ∈ s.live ∧ r'.1.rank < r.1.rank := fun r' hr' => absurd hr' List.not_mem_nil
  cases hstep with
  | contextCreate _ device id b b' image sampler hdevice _ _ =>
    exact (h.newContext hdevice id b b' image sampler).collect
  | shaderModuleCreate _ id m hid _ => exact (h.create hid _ hempty).collect
  | computeCreate _ id m q hid hm _ =>
    exact ((h.newCompute hm q).addAppRef (Finset.mem_insert_self _ _) id).collect
  | progCreate _ id k m q t p hid hm _ => exact (h.newProg hid k hm q t p).collect
  | geomTypeCreate _ id t hid _ =>
    refine (h.create hid _ fun r' hr' => ?_).collect
    cases (List.eq_of_mem_replicate hr')
  | geomTypeSetProg _ t role m q _ hm => exact (h.setHitProg hm t role q).collect
  | geomTypeSetBoundsProg _ t m q _ hm _ => exact (h.setBoundsProg hm t q).collect
  | geomCreate _ t g ht _ => exact (h.newGeom ht g).collect
  | geomAccelCreate _ id a geoms hid hgeoms _ => exact (h.newGeomAccel hid a hgeoms).collect
  | instanceAccelCreate _ id a accels hid haccels _ =>
    exact (h.newInstanceAccel hid a haccels).collect
  | geomAccelBuild _ a b ha _ => exact (h.setBuffer ha (by decide) 0 b).collect
  | instanceAccelBuild _ a b b' b'' ha _ => exact (h.buildInstanceAccel ha b b' b'').collect
  | imageCreate _ id p hid _ => exact (h.create hid _ hempty).collect
  | samplerCreate _ image p himage _ => exact (h.newSampler himage p).collect
  | deviceBufferCreate _ id b hid _ => exact (h.create hid _ hempty).collect
  | bufferDestroy _ b _ => exact (h.bufferDestroy b).collect
  | buildSBT _ id b b' b'' hid _ => exact (h.buildSBT hid b b' b'').collect
  | other => exact h

namespace Ownership

variable {s s' : Ownership}

/-- Only the calls that make a `Compute` set up its static variables. -/
theorem uniformBuffers_step {call : ApiCall} (hstep : OwnershipStep call s s') :
    s'.uniformBuffers.isSome ↔ s.uniformBuffers.isSome ∨ call.MakesCompute := by
  have hget : ∀ m q, (s.get m q).uniformBuffers = s.uniformBuffers := fun m q => by
    unfold Ownership.get
    split_ifs <;> rfl
  cases hstep with
  | computeCreate | geomTypeSetBoundsProg =>
    exact ⟨fun _ => Or.inr (by decide), fun _ => rfl⟩
  | progCreate _ id k m q t p =>
    have hsame : (s.newProg id k m q t p).collect.uniformBuffers = s.uniformBuffers := hget m q
    rw [hsame]
    exact ⟨Or.inl, fun h => h.resolve_right (by decide)⟩
  | geomTypeSetProg _ t role m q =>
    have hsame : (s.setHitProg t role m q).collect.uniformBuffers = s.uniformBuffers := hget m q
    rw [hsame]
    exact ⟨Or.inl, fun h => h.resolve_right (by decide)⟩
  | _ => exact ⟨Or.inl, fun h => h.resolve_right (by decide)⟩

/-- **Run lemma**: after every run the invariant holds, and the static variables are set
up if and only if a compute kernel was made. -/
theorem invariant_of_trace {numDevices : ℕ} {calls : List ApiCall}
    (htrace : Trace OwnershipStep (vknInitialize numDevices) calls s) :
    s.Invariant ∧ (s.uniformBuffers.isSome ↔ ∃ call ∈ calls, call.MakesCompute) := by
  refine ⟨htrace.invariant (.init numDevices) fun _ _ _ hstep => hstep.invariant, ?_⟩
  induction htrace with
  | nil => simp [vknInitialize]
  | snoc _ hstep ih =>
    rw [uniformBuffers_step hstep, ih]
    simp only [List.mem_append, List.mem_singleton, or_and_right, exists_or, exists_eq_left]

/-! ## Termination of the contexts -/

/-- From `s` to `s'` nodes have died, and contexts have lost pointers. -/
structure Shrinks (s s' : Ownership) : Prop where
  invariant : s'.Invariant
  live : s'.live ⊆ s.live
  device : ∀ id, (s'.contexts id).device = (s.contexts id).device
  devices : s'.devices = s.devices
  uniformBuffers : s'.uniformBuffers = s.uniformBuffers

/-- No node has died. -/
theorem Invariant.shrinks_refl (h : s.Invariant) : Shrinks s s :=
  ⟨h, Finset.Subset.refl _, fun _ => rfl, rfl, rfl⟩

/-- Nodes die in one step, and more in the next. -/
theorem Shrinks.trans {s'' : Ownership} (h : Shrinks s s') (h' : Shrinks s' s'') :
    Shrinks s s'' :=
  ⟨h'.invariant, h'.live.trans h.live, fun id => (h'.device id).trans (h.device id),
    h'.devices.trans h.devices, h'.uniformBuffers.trans h.uniformBuffers⟩

/-- A loop whose steps make nodes die, each the ones it is about. -/
theorem shrinks_foldl {α : Type} {f : Ownership → α → Ownership} (gone : α → Ownership → Prop)
    (hf : ∀ s a, s.Invariant → Shrinks s (f s a) ∧ gone a (f s a))
    (hgone : ∀ a s s', Shrinks s s' → gone a s → gone a s') (as : List α) (h : s.Invariant) :
    Shrinks s (as.foldl f s) ∧ ∀ a ∈ as, gone a (as.foldl f s) := by
  induction as generalizing s with
  | nil => exact ⟨h.shrinks_refl, fun a ha => absurd ha List.not_mem_nil⟩
  | cons a as ih =>
    obtain ⟨hshrinks, hfirst⟩ := hf s a h
    obtain ⟨hrest, hall⟩ := ih hshrinks.invariant
    refine ⟨hshrinks.trans hrest, fun a' ha' => ?_⟩
    rcases List.mem_cons.mp ha' with rfl | ha'
    · exact hgone a' _ _ hrest hfirst
    · exact hall a' ha'

/-- A context that loses some of its pointers. -/
theorem Invariant.shrinks_updateContext (h : s.Invariant) (id : ℕ)
    {f : ContextMembers → ContextMembers} (hdevice : ∀ c, (f c).device = c.device)
    (hobjects : ∀ c, (f c).objects ⊆ c.objects) : Shrinks s (s.updateContext id f).collect where
  invariant :=
    (h.updateContext (hdevice _) fun hid _ hr => h.objects_live hid (hobjects _ hr)).collect
  live := RefGraph.live_collect_subset _
  device := by
    intro id'
    simp only [Ownership.collect, Ownership.updateContext, Function.update_apply]
    split_ifs with heq
    · rw [hdevice, heq]
    · rfl
  devices := rfl
  uniformBuffers := rfl

/-- Only a context points to itself. -/
theorem context_mem_refs {m : Node} {id : ℕ} (hm : .context id ∈ s.refs m) :
    m = .context id ∧ (s.contexts id).selfReference = true := by
  cases m with
  | driverInstance => exact absurd hm (by simp [refs])
  | driverHandle => exact absurd hm List.not_mem_nil
  | physicalDevice i => exact absurd hm (by simp [refs])
  | logicalDevice i => exact absurd hm (by simp [refs])
  | context id' =>
    rcases mem_contextRefs.mp hm with hm | ⟨hself, hm⟩ | ⟨r, -, hm⟩
    · cases hm
    · obtain rfl := Node.context.inj hm
      exact ⟨rfl, hself⟩
    · cases hm
  | object r =>
    rcases mem_objectRefs.mp hm with hm | ⟨r', -, hm⟩
    · cases hm
    · cases hm

/-- The only root is the device of the static wrappers. -/
theorem mem_roots {n : Node} :
    n ∈ s.graph.roots ↔ ∃ d, s.uniformBuffers = some d ∧ n = .logicalDevice d := by
  simp only [graph, List.mem_flatMap, Option.mem_toList, mem_wrapperRefs]

/-- **`Context::terminate`** leaves nothing of the context. -/
theorem shrinks_contextTerminate (s : Ownership) (id : ℕ) (h : s.Invariant) :
    Shrinks s (s.contextTerminate id) ∧ .context id ∉ (s.contextTerminate id).live := by
  -- first the references of the application, then the reference to itself
  have h₁ := h.shrinks_updateContext id (f := fun c => { c with appUseCount := [] })
    (fun _ => rfl) fun c r hr => by
      rcases mem_objects.mp hr with hb | ha | hr
      · exact mem_objects.mpr (Or.inl hb)
      · exact absurd ha List.not_mem_nil
      · exact mem_objects.mpr (Or.inr (Or.inr hr))
  have h₂ := h₁.invariant.shrinks_updateContext id
    (f := fun c => { c with selfReference := false }) (fun _ => rfl) fun _ => List.Subset.refl _
  refine ⟨h₁.trans h₂, fun hlive => ?_⟩
  -- a context that is alive has a pointer to it, which only the context itself can hold
  have hsettled := RefGraph.settled_collect _ _ hlive
  rcases RefGraph.useCount_ne_zero_iff.mp hsettled with hroot | ⟨m, -, hm⟩
  · rw [RefGraph.roots_collect] at hroot
    obtain ⟨d, -, hd⟩ := mem_roots.mp hroot
    cases hd
  · rw [RefGraph.refs_collect] at hm
    obtain ⟨-, hself⟩ := context_mem_refs hm
    simp [updateContext] at hself

/-- **`LogicalDevice::terminate`** leaves no context of the device. -/
theorem shrinks_deviceTerminate (s : Ownership) (i : ℕ) (h : s.Invariant) :
    Shrinks s (s.deviceTerminate i) ∧
      ∀ id, .context id ∈ (s.deviceTerminate i).live → (s.contexts id).device ≠ i := by
  obtain ⟨hshrinks, hgone⟩ := shrinks_foldl (fun id s => .context id ∉ s.live)
    shrinks_contextTerminate (fun _ _ _ hs hid hlive => hid (hs.live hlive))
    (s.contextsOnThisDevice i) h
  refine ⟨hshrinks, fun id hid hi => ?_⟩
  exact hgone id (hi ▸ (h.contexts id (hshrinks.live hid)).1) hid

/-- The loop of `DriverInstance::terminate` leaves no context. -/
theorem Invariant.shrinks_devices (h : s.Invariant) :
    Shrinks s (s.devices.foldl deviceTerminate s) ∧
      ∀ id, .context id ∉ (s.devices.foldl deviceTerminate s).live := by
  have hstep : ∀ s i, s.Invariant → Shrinks s (s.deviceTerminate i) ∧
      ∀ id, .context id ∈ (s.deviceTerminate i).live →
        ((s.deviceTerminate i).contexts id).device ≠ i := by
    intro s i h
    obtain ⟨hshrinks, hgone⟩ := shrinks_deviceTerminate s i h
    exact ⟨hshrinks, fun id hid => hshrinks.device id ▸ hgone id hid⟩
  obtain ⟨hshrinks, hgone⟩ := shrinks_foldl
    (fun i s => ∀ id, .context id ∈ s.live → (s.contexts id).device ≠ i) hstep
    (fun _ _ _ hs hall id hid => hs.device id ▸ hall id (hs.live hid)) s.devices h
  refine ⟨hshrinks, fun id hid => ?_⟩
  have hdevice := (hshrinks.invariant.contexts id hid).2
  rw [hshrinks.devices] at hdevice
  exact hgone _ hdevice id hid rfl

/-! ## What is left -/

/-- Pointers to other nodes lead down. -/
theorem Invariant.ranked (h : s.Invariant) : s.graph.Ranked Node.rank := by
  intro m hm n hn
  -- objects are between devices and contexts
  have hrank : ∀ r : ObjectRef, r.1.rank < 6 := by
    rintro ⟨k, p⟩
    rcases k with (_ | _ | _ | _ | _ | _ | _ | _) | (_ | _) | _ <;> simp [ObjectClass.rank]
  cases m with
  | driverInstance =>
    simp only [graph, refs, List.mem_append, List.mem_ite_nil_right, List.mem_cons, List.mem_map,
      List.not_mem_nil, or_false] at hn
    rcases hn with ⟨-, rfl⟩ | rfl | ⟨i, -, rfl⟩
    · exact Or.inl rfl
    · exact Or.inr (by decide)
    · exact Or.inr (by simp [Node.rank])
  | driverHandle => exact absurd hn List.not_mem_nil
  | physicalDevice i =>
    obtain rfl := List.mem_singleton.mp hn
    exact Or.inr (by simp [Node.rank])
  | logicalDevice i =>
    obtain rfl := List.mem_singleton.mp hn
    exact Or.inr (by simp [Node.rank])
  | context id =>
    rcases mem_contextRefs.mp hn with rfl | ⟨-, rfl⟩ | ⟨r, -, rfl⟩
    · exact Or.inr (by simp [Node.rank])
    · exact Or.inl rfl
    · have hr := hrank r
      exact Or.inr (by simp only [Node.rank]; omega)
  | object r =>
    rcases mem_objectRefs.mp hn with rfl | ⟨r', hr', rfl⟩
    · exact Or.inr (by simp only [Node.rank]; omega)
    · have hlt := h.members r hm r' hr'
      exact Or.inr (by simp only [Node.rank]; omega)

/-- Without contexts and devices of the driver instance, only the driver instance and
what static variables point to can live on. -/
def Remains (s : Ownership) (n : Node) : Prop :=
  n = .driverInstance ∨ n = .driverHandle ∨
    ∃ d, s.uniformBuffers = some d ∧ (n = .logicalDevice d ∨ n = .physicalDevice d)

/-- Such nodes lead to such nodes only. -/
theorem remains_of_reaches (hdevices : s.devices = []) {a n : Node} (ha : s.Remains a)
    (hn : s.graph.Reaches a n) : s.Remains n := by
  induction hn with
  | refl => exact ha
  | tail _ hstep ih =>
    rcases ih with rfl | rfl | ⟨d, hd, rfl | rfl⟩
    · simp only [graph, refs, hdevices, List.map_nil, List.mem_append, List.mem_ite_nil_right,
        List.mem_cons, List.not_mem_nil, or_false] at hstep
      rcases hstep with ⟨-, rfl⟩ | rfl
      · exact Or.inl rfl
      · exact Or.inr (Or.inl rfl)
    · exact absurd hstep List.not_mem_nil
    · exact Or.inr (Or.inr ⟨d, hd, Or.inr (List.mem_singleton.mp hstep)⟩)
    · exact Or.inr (Or.inl (List.mem_singleton.mp hstep))

/-- Without contexts the driver instance can forget its devices. -/
theorem Invariant.dropDevices (h : s.Invariant) (hcontexts : ∀ id, .context id ∉ s.live) :
    { s with devices := [] : Ownership }.Invariant where
  closed := by
    refine h.closed.update (Finset.Subset.refl _) (fun m hm => ?_) h.closed.roots
    cases m with
    | driverInstance =>
      right
      intro n hn
      refine h.closed.refs _ hm n ?_
      simp only [graph, refs, List.map_nil, List.mem_append, List.mem_cons, List.not_mem_nil,
        or_false] at hn ⊢
      exact hn.imp_right Or.inl
    | _ => exact Or.inl ⟨hm, rfl⟩
  members := h.members
  contexts := fun id hid => absurd hid (hcontexts id)
  driverInstance := h.driverInstance
  selfReference := h.selfReference

/-- Then only the driver instance is anchored, and what static variables point to. -/
theorem Invariant.remains_of_live (h : s.Invariant) (hcontexts : ∀ id, .context id ∉ s.live)
    (hdevices : s.devices = []) {n : Node} (hn : n ∈ s.collect.live) : s.Remains n := by
  -- what is alive can be reached from a root or from a node that points to itself
  obtain ⟨a, ha, hanchor, hreach⟩ := (RefGraph.mem_live_collect_iff h.closed h.ranked n).mp hn
  refine remains_of_reaches hdevices ?_ hreach
  rcases hanchor with hroot | hself
  · obtain ⟨d, hd, rfl⟩ := mem_roots.mp hroot
    exact Or.inr (Or.inr ⟨d, hd, Or.inl rfl⟩)
  · cases a with
    | driverInstance => exact Or.inl rfl
    | driverHandle => exact Or.inr (Or.inl rfl)
    | physicalDevice i => cases (List.mem_singleton.mp hself)
    | logicalDevice i => cases (List.mem_singleton.mp hself)
    | context id => exact absurd ha (hcontexts id)
    | object r =>
      rcases mem_objectRefs.mp hself with hd | ⟨r', hr', hr⟩
      · cases hd
      · obtain rfl := Node.object.inj hr
        exact absurd (h.members r ha r hr') (lt_irrefl _)

/-- Only the driver instance points to itself. -/
theorem driverInstance_mem_refs {m : Node} (hm : .driverInstance ∈ s.refs m) :
    s.selfReference = true := by
  cases m with
  | driverInstance => simpa [refs] using hm
  | driverHandle => exact absurd hm List.not_mem_nil
  | physicalDevice i => cases (List.mem_singleton.mp hm)
  | logicalDevice i => cases (List.mem_singleton.mp hm)
  | context id =>
    rcases mem_contextRefs.mp hm with hm | ⟨-, hm⟩ | ⟨r, -, hm⟩ <;> cases hm
  | object r =>
    rcases mem_objectRefs.mp hm with hm | ⟨r', -, hm⟩ <;> cases hm

/-- What `DriverInstance::~DriverInstance` and the application expect: the driver handle
is used once, and the devices and contexts are gone. -/
structure TornDown (s : Ownership) : Prop where
  unique : s.graph.useCount .driverHandle = 1
  devices : ∀ i, .logicalDevice i ∉ s.live
  contexts : ∀ id, .context id ∉ s.live

/-- Terminating leaves the static variables alone. -/
theorem Invariant.uniformBuffers_terminate (h : s.Invariant) :
    s.terminate.uniformBuffers = s.uniformBuffers :=
  h.shrinks_devices.1.uniformBuffers

/-- Nothing points to the driver instance when its destructor runs, and nothing is alive
but the driver instance and what static variables point to. -/
theorem Invariant.live_terminate (h : s.Invariant) :
    s.terminate.graph.useCount .driverInstance = 0 ∧ .driverInstance ∈ s.terminate.live ∧
    (∀ n ∈ s.terminate.live, s.Remains n) ∧
    ∀ d, s.uniformBuffers = some d → .logicalDevice d ∈ s.terminate.live := by
  obtain ⟨hshrinks, hcontexts⟩ := h.shrinks_devices
  have h₁ := hshrinks.invariant.dropDevices hcontexts
  refine ⟨?_, h₁.collect.driverInstance, fun n hn => ?_, fun d hd => ?_⟩
  · by_contra hcount
    rcases RefGraph.useCount_ne_zero_iff.mp hcount with hroot | ⟨m, -, hm⟩
    · obtain ⟨d, -, hd⟩ := mem_roots.mp hroot
      cases hd
    · cases (driverInstance_mem_refs hm)
  · have hremains := h₁.remains_of_live hcontexts rfl hn
    simpa only [Remains, hshrinks.uniformBuffers] using hremains
  · exact h₁.collect.closed.roots _ (mem_roots.mpr ⟨d, h.uniformBuffers_terminate.trans hd, rfl⟩)

/-- Without static variables the driver instance has the only pointer to the handle. -/
theorem Invariant.useCount_driverHandle (h : s.Invariant) (hnone : s.uniformBuffers = none)
    (honly : ∀ n ∈ s.terminate.live, n = .driverInstance ∨ n = .driverHandle) :
    s.terminate.graph.useCount .driverHandle = 1 := by
  obtain ⟨-, hinstance, -⟩ := h.live_terminate
  have hroots : s.terminate.graph.roots = [] := by
    simp only [graph, h.uniformBuffers_terminate, hnone, Option.toList_none, List.flatMap_nil]
  have hrefs : s.terminate.graph.refs .driverInstance = [.driverHandle] := rfl
  rw [RefGraph.useCount, hroots, List.count_nil, Nat.zero_add]
  calc ∑ m ∈ s.terminate.graph.live, (s.terminate.graph.refs m).count .driverHandle
      = (s.terminate.graph.refs .driverInstance).count .driverHandle := by
        refine Finset.sum_eq_single_of_mem _ hinstance fun m hm hne => ?_
        obtain rfl := (honly m hm).resolve_left hne
        exact List.count_nil
    _ = 1 := by rw [hrefs, List.count_singleton_self]

/-- The destructor finds everything torn down if no static variable was set up. -/
theorem Invariant.tornDown_iff (h : s.Invariant) :
    s.terminate.TornDown ↔ s.uniformBuffers = none := by
  obtain ⟨-, -, hremains, hdevice⟩ := h.live_terminate
  constructor
  · intro htorn
    by_contra hsome
    obtain ⟨d, hd⟩ := Option.ne_none_iff_exists'.mp hsome
    exact htorn.devices d (hdevice d hd)
  · intro hnone
    have honly : ∀ n ∈ s.terminate.live, n = .driverInstance ∨ n = .driverHandle := by
      intro n hn
      rcases hremains n hn with hn | hn | ⟨d, hd, -⟩
      · exact Or.inl hn
      · exact Or.inr hn
      · cases (hnone.symm.trans hd)
    refine ⟨h.useCount_driverHandle hnone honly, fun i hi => ?_, fun id hid => ?_⟩
    · rcases honly _ hi with heq | heq <;> cases heq
    · rcases honly _ hid with heq | heq <;> cases heq

/-- **Everything is torn down exactly if no compute kernel was made.**  The destructor of
the driver instance always runs: nothing points to it after `vknTerminate`. -/
theorem tornDown_terminate_iff {numDevices : ℕ} {calls : List ApiCall}
    (htrace : Trace OwnershipStep (vknInitialize numDevices) calls s) :
    s.terminate.graph.useCount .driverInstance = 0 ∧
    (s.terminate.TornDown ↔ ∀ call ∈ calls, ¬ call.MakesCompute) := by
  obtain ⟨h, huniform⟩ := invariant_of_trace htrace
  refine ⟨h.live_terminate.1, ?_⟩
  rw [h.tornDown_iff, ← Option.not_isSome_iff_eq_none, huniform]
  simp only [not_exists, not_and]

/-- A context on the only device, with a shader module. -/
def sampleModule : Ownership :=
  (((vknInitialize 1).newContext 0 0 0 1 2 3).collect.create 0 (.object .shaderModule, 4)
    []).collect

/-- Then a ray generation program. -/
def sampleRayGen : Ownership := (sampleModule.newProg 0 .rayGen 4 5 6 7).collect

/-- Or a compute kernel. -/
def sampleCompute : Ownership :=
  ((sampleModule.newCompute 4 5).addAppRef 0 (.object .shaderProgram, 5)).collect

/-- The run of the sample. -/
theorem trace_sampleModule :
    Trace OwnershipStep (vknInitialize 1) [.contextCreate, .shaderModuleCreate] sampleModule :=
  .snoc (.single (.contextCreate _ 0 0 0 1 2 3 (by decide) (by decide) ⟨by decide, by decide⟩))
    (.shaderModuleCreate _ 0 4 (by decide +kernel) ⟨by decide, by decide +kernel⟩)

/-- Without a compute kernel everything is torn down. -/
theorem tornDown_terminate_iff_sampleRayGen : sampleRayGen.terminate.TornDown := by
  have htrace : Trace OwnershipStep (vknInitialize 1)
      [.contextCreate, .shaderModuleCreate, .progCreate] sampleRayGen :=
    trace_sampleModule.snoc (.progCreate _ 0 .rayGen 4 5 6 7 (by decide +kernel)
      ⟨by decide +kernel, by decide +kernel⟩ ⟨by decide, by decide +kernel⟩)
  exact (tornDown_terminate_iff htrace).2.mpr (by decide)

/-- One compute kernel, and the handle is still in use by the physical device, which the
logical device holds, which the static variables hold. -/
theorem terminate_compute :
    Trace OwnershipStep (vknInitialize 1) [.contextCreate, .shaderModuleCreate, .computeCreate]
      sampleCompute ∧
    sampleCompute.terminate.graph.useCount .driverHandle = 2 ∧
    .logicalDevice 0 ∈ sampleCompute.terminate.live ∧ ¬ sampleCompute.terminate.TornDown := by
  have hlive : .logicalDevice 0 ∈ sampleCompute.terminate.live := by decide +kernel
  refine ⟨?_, by decide +kernel, hlive, fun h => h.devices 0 hlive⟩
  exact trace_sampleModule.snoc (.computeCreate _ 0 4 5 (by decide +kernel)
    ⟨by decide +kernel, by decide +kernel⟩ ⟨by decide, by decide +kernel⟩)

end Ownership

end Vulkanite
