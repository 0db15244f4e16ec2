/-
# What lives and what dies

Between calls an object is alive exactly if it can be reached from a live context along
the members of objects (`reachable_iff_of_trace`).

The application can let go of buffers only, and only the members that hold a buffer or a
device function are ever overwritten (`memberClass` says what each member holds).  Every
other object has a pointer in its context that stays, or is the type of a program that
has one.  So nothing but buffers and device functions dies before `vknTerminate`, and
only at the calls that drop such pointers (`dies_of_trace`).
-/
import Vulkanite.Teardown

namespace Vulkanite

/-- The classes to which a call can drop pointers. -/
def ApiCall.Drops : ApiCall → ObjectClass → Prop
  | .geomTypeSetProg, k | .geomTypeSetBoundsProg, k => k = .object .shaderProgram
  | .geomAccelBuild, k | .instanceAccelBuild, k | .bufferDestroy, k | .buildSBT, k =>
    k = .deviceBuffer
  | _, _ => False

namespace ObjectClass

/-- The classes of which objects come and go. -/
def Passing (k : ObjectClass) : Prop := k = .deviceBuffer ∨ k = .object .shaderProgram

/-- The class of what member `i` holds, in the order of `ObjectMembers`. -/
def memberClass : ObjectClass → ℕ → Option ObjectClass
  | .deviceBuffer, _ | .texture .image2Ds, _ | .object .shaderModule, _ => none
  | .texture .samplers, _ => some (.texture .image2Ds)
  | .object .shaderProgram, _ => some (.object .shaderModule)
  | .object (.progType _), _ | .object .geomType, _ => some (.object .shaderProgram)
  | .object (.prog k), _ => some (.object (.progType k))
  | .object .geom, _ => some (.object .geomType)
  | .object .geomAccel, i => some (if i < 1 then .deviceBuffer else .object .geom)
  | .object .instanceAccel, i => some (if i < 3 then .deviceBuffer else .object .geomAccel)

end ObjectClass

open ObjectClass

/-- Only device buffers and device functions can be dropped by a call. -/
theorem ApiCall.Drops.passing {call : ApiCall} {k : ObjectClass} (h : call.Drops k) :
    k.Passing := by
  cases call <;> simp only [ApiCall.Drops] at h
  all_goals first | exact .inl h | exact .inr h

namespace Ownership

variable {s t u : Ownership}

/-! ## What holds an object -/

/-- A member of the first object points to the second. -/
def PointsTo (s : Ownership) (r r' : ObjectRef) : Prop := some r' ∈ (s.objects r).members

/-- A live context points to the object. -/
def InContext (s : Ownership) (r : ObjectRef) : Prop :=
  ∃ id, .context id ∈ s.live ∧ r ∈ (s.contexts id).objects

/-- Only contexts and objects point to an object. -/
theorem object_mem_refs {m : Node} {r : ObjectRef} (h : .object r ∈ s.refs m) :
    (∃ id, m = .context id ∧ r ∈ (s.contexts id).objects) ∨
      ∃ r₀, m = .object r₀ ∧ s.PointsTo r₀ r := by
  cases m with
  | driverInstance => exact absurd h (by simp [refs])
  | driverHandle => exact absurd h List.not_mem_nil
  | physicalDevice i => exact absurd h (by simp [refs])
  | logicalDevice i => exact absurd h (by simp [refs])
  | context id =>
    rcases mem_contextRefs.mp h with heq | ⟨-, heq⟩ | ⟨r', hr', heq⟩
    · cases heq
    · cases heq
    · exact .inl ⟨id, rfl, Node.object.inj heq ▸ hr'⟩
  | object r₀ =>
    rcases mem_objectRefs.mp h with heq | ⟨r', hr', heq⟩
    · cases heq
    · exact .inr ⟨r₀, rfl, Node.object.inj heq ▸ hr'⟩

/-- The members of an object hold what their types say. -/
def TypedMembers (k : ObjectClass) (members : List (Option ObjectRef)) : Prop :=
  ∀ i r', members[i]? = some (some r') → k.memberClass i = some r'.1

/-- So do all. -/
def Typed (s : Ownership) : Prop :=
  ∀ r, .object r ∈ s.live → TypedMembers r.1 (s.objects r).members

/-- What keeps a node alive until `vknTerminate`, buffers and device functions apart. -/
def Lasting (s : Ownership) : Node → Prop
  | .driverInstance | .driverHandle => True
  | .physicalDevice i | .logicalDevice i => i ∈ s.devices
  | .context id => (s.contexts id).selfReference = true
  | .object r => r.1.Passing ∨ s.InContext r ∨
      ∃ k p, .object (.object (.prog k), p) ∈ s.live ∧ s.InContext (.object (.prog k), p) ∧
        s.PointsTo (.object (.prog k), p) r

/-- What holds between calls, beyond `Invariant`. -/
structure Sound (s : Ownership) : Prop where
  invariant : s.Invariant
  typed : s.Typed
  lasting : ∀ n ∈ s.live, s.Lasting n

/-- Buffers point to no object, and device functions to their module. -/
theorem not_pointsTo_of_passing (h : s.Typed) {r r' : ObjectRef} (hlive : .object r ∈ s.live)
    (hr : r.1.Passing) (hr' : r'.1.Passing) : ¬ s.PointsTo r r' := by
  intro hpoints
  obtain ⟨i, hi⟩ := List.mem_iff_getElem?.mp hpoints
  have hclass := h r hlive i r' hi
  rcases hr with hk | hk
  · rw [hk] at hclass
    cases hclass
  · rcases hr' with hk' | hk'
    · rw [hk, hk'] at hclass
      cases hclass
    · rw [hk, hk'] at hclass
      cases hclass

/-! ## What a call leaves as it was -/

/-- From `s` to `t` objects and contexts were made and pointers stored.  The pointers that
were dropped led to objects of certain classes. -/
structure Makes (drops : ObjectClass → Prop) (s t : Ownership) : Prop where
  live : s.live ⊆ t.live
  devices : t.devices = s.devices
  selfReference : ∀ id, .context id ∈ s.live →
    (t.contexts id).selfReference = (s.contexts id).selfReference
  objects : ∀ id, .context id ∈ s.live → ∀ r ∈ (s.contexts id).objects,
    r ∈ (t.contexts id).objects ∨ drops r.1
  members : ∀ r, .object r ∈ s.live → ∀ r', s.PointsTo r r' → t.PointsTo r r' ∨ drops r'.1
  typed : t.Typed

/-- Moreover, what was made has something that keeps it. -/
structure Grows (drops : ObjectClass → Prop) (s t : Ownership) : Prop extends Makes drops s t where
  lasting : ∀ n ∈ t.live, n ∈ s.live ∨ t.Lasting n

section Grows

variable {drops : ObjectClass → Prop}

/-- Nothing was made and nothing dropped. -/
theorem Makes.refl (h : s.Typed) : Makes drops s s where
  live := Finset.Subset.refl _
  devices := rfl
  selfReference := fun _ _ => rfl
  objects := fun _ _ _ hr => .inl hr
  members := fun _ _ _ hr => .inl hr
  typed := h

/-- One change after another. -/
theorem Makes.trans (h : Makes drops s t) (h' : Makes drops t u) : Makes drops s u where
  live := h.live.trans h'.live
  devices := h'.devices.trans h.devices
  selfReference := fun id hid => (h'.selfReference id (h.live hid)).trans (h.selfReference id hid)
  objects := fun id hid r hr => (h.objects id hid r hr).elim (h'.objects id (h.live hid) r) .inr
  members := fun r hr r' hr' => (h.members r hr r' hr').elim (h'.members r (h.live hr) r') .inr
  typed := h'.typed

/-- What a context holds it still holds, unless the call drops it. -/
theorem Makes.inContext (h : Makes drops s t) {r : ObjectRef} (hr : s.InContext r)
    (hdrops : ¬ drops r.1) : t.InContext r := by
  obtain ⟨id, hid, hmem⟩ := hr
  exact ⟨id, h.live hid, (h.objects id hid r hmem).resolve_right hdrops⟩

/-- What keeps a node alive is not dropped. -/
theorem Makes.lasting_of (h : Makes drops s t) (hdrops : ∀ k, drops k → k.Passing) {n : Node}
    (hn : s.Lasting n) (hlive : n ∈ s.live) : t.Lasting n := by
  cases n with
  | driverInstance | driverHandle => trivial
  | physicalDevice i | logicalDevice i => exact (congrArg (i ∈ ·) h.devices).mpr hn
  | context id => exact (h.selfReference id hlive).trans hn
  | object r =>
    rcases hn with hpassing | hcontext | ⟨k, p, hp, hcontext, hpoints⟩
    · exact .inl hpassing
    · by_cases hr : drops r.1
      · exact .inl (hdrops _ hr)
      · exact .inr (.inl (h.inContext hcontext hr))
    · have hprog : ¬ drops (.object (.prog k)) := fun hk => by
        rcases hdrops _ hk with hk | hk <;> cases hk
      rcases h.members _ hp r hpoints with hpoints | hr
      · exact .inr (.inr ⟨k, p, h.live hp, h.inContext hcontext hprog, hpoints⟩)
      · exact .inl (hdrops _ hr)

/-- One change after another: what the first one keeps, the second one does not drop. -/
theorem Grows.trans (hdrops : ∀ k, drops k → k.Passing) (h : Grows drops s t)
    (h' : Grows drops t u) : Grows drops s u where
  toMakes := h.toMakes.trans h'.toMakes
  lasting := by
    intro n hn
    rcases h'.lasting n hn with hn | hn
    · exact (h.lasting n hn).imp_right fun hlast => h'.lasting_of hdrops hlast hn
    · exact .inr hn

/-! ## Single changes -/

/-- A new object, whose members have the classes that their types say. -/
theorem Makes.newObject (h : s.Typed) {r : ObjectRef} (hr : .object r ∉ s.live) (context : ℕ)
    {members : List (Option ObjectRef)} (hmembers : TypedMembers r.1 members) :
    Makes drops s (s.newObject context r members) where
  live := Finset.subset_insert _ _
  devices := rfl
  selfReference := fun _ _ => rfl
  objects := fun _ _ _ hr => .inl hr
  members := by
    intro r₁ hr₁ r' hr'
    have hne : r₁ ≠ r := fun heq => hr (heq ▸ hr₁)
    left
    simpa only [PointsTo, Ownership.newObject, Function.update_of_ne hne] using hr'
  typed := by
    intro r₁ hr₁
    simp only [Ownership.newObject, Function.update_apply] at hr₁ ⊢
    split_ifs with heq
    · exact heq ▸ hmembers
    · exact h r₁ (Finset.mem_of_mem_insert_of_ne hr₁ (by simpa using heq))

/-- Buffers and device functions need nothing that keeps them. -/
theorem Grows.newObject (h : s.Typed) {r : ObjectRef} (hr : .object r ∉ s.live) (context : ℕ)
    {members : List (Option ObjectRef)} (hmembers : TypedMembers r.1 members)
    (hpassing : r.1.Passing) : Grows drops s (s.newObject context r members) where
  toMakes := .newObject h hr context hmembers
  lasting := by
    intro n hn
    rcases Finset.mem_insert.mp hn with rfl | hn
    · exact .inr (.inl hpassing)
    · exact .inl hn

/-- A context whose members change keeps its objects, except for those dropped. -/
theorem Grows.updateContext (h : s.Typed) {id : ℕ} {f : ContextMembers → ContextMembers}
    (hself : (f (s.contexts id)).selfReference = (s.contexts id).selfReference)
    (hobjects : ∀ r ∈ (s.contexts id).objects, r ∈ (f (s.contexts id)).objects ∨ drops r.1) :
    Grows drops s (s.updateContext id f) where
  live := Finset.Subset.refl _
  devices := rfl
  selfReference := by
    intro id' _
    simp only [Ownership.updateContext, Function.update_apply]
    split_ifs with heq
    · rw [heq, hself]
    · rfl
  objects := by
    intro id' _ r hr
    simp only [Ownership.updateContext, Function.update_apply]
    split_ifs with heq
    · exact hobjects r (heq ▸ hr)
    · exact .inl hr
  members := fun _ _ _ hr => .inl hr
  typed := h
  lasting := fun _ hn => .inl hn

/-- A context that was made on the way may change as it likes. -/
theorem Makes.updateNew (h : Makes drops s t) {id : ℕ} (hid : .context id ∉ s.live)
    (f : ContextMembers → ContextMembers) : Makes drops s (t.updateContext id f) := by
  have hsame : ∀ id', .context id' ∈ s.live →
      (t.updateContext id f).contexts id' = t.contexts id' := fun id' hid' =>
    Function.update_of_ne (by rintro rfl; exact hid hid') _ _
  exact { h with
    selfReference := fun id' hid' => hsame id' hid' ▸ h.selfReference id' hid'
    objects := fun id' hid' => hsame id' hid' ▸ h.objects id' hid' }

/-- A new context leaves the other nodes alone. -/
theorem Makes.trackContext (h : s.Typed) (device : ℕ) {id : ℕ} (hid : .context id ∉ s.live) :
    Makes drops s (s.trackContext device id) := by
  have hsame : ∀ id', .context id' ∈ s.live →
      (s.trackContext device id).contexts id' = s.contexts id' := fun id' hid' =>
    Function.update_of_ne (by rintro rfl; exact hid hid') _ _
  exact
    { live := Finset.subset_insert _ _
      devices := rfl
      selfReference := fun id' hid' => by rw [hsame id' hid']
      objects := fun id' hid' r hr => .inl (by rwa [hsame id' hid'])
      members := fun _ _ _ hr => .inl hr
      typed := fun r hr => h r (Finset.mem_of_mem_insert_of_ne hr (by simp)) }

/-- What a member held before was of the same class. -/
theorem Grows.setMember (h : s.Typed) {r m : ObjectRef} {i : ℕ}
    (hm : r.1.memberClass i = some m.1) (hdrops : drops m.1) :
    Grows drops s (s.setMember r i m) where
  live := Finset.Subset.refl _
  devices := rfl
  selfReference := fun _ _ => rfl
  objects := fun _ _ _ hr => .inl hr
  members := by
    intro r₁ hr₁ r' hr'
    by_cases heq : r₁ = r
    · subst heq
      obtain ⟨j, hj⟩ := List.mem_iff_getElem?.mp hr'
      by_cases hij : i = j
      · subst hij
        have hclass : some m.1 = some r'.1 := hm.symm.trans (h r₁ hr₁ i r' hj)
        exact .inr (Option.some.inj hclass ▸ hdrops)
      · left
        refine List.mem_iff_getElem?.mpr ⟨j, ?_⟩
        simpa only [Ownership.setMember, Function.update_self, List.getElem?_set_ne hij] using hj
    · left
      simpa only [PointsTo, Ownership.setMember, Function.update_of_ne heq] using hr'
  typed := by
    intro r₁ hr₁
    simp only [Ownership.setMember, Function.update_apply]
    split_ifs with heq
    · subst heq
      intro j r' hj
      rw [List.getElem?_set] at hj
      split_ifs at hj with hij
      · obtain rfl := Option.some.inj (Option.some.inj hj)
        exact hij ▸ hm
      · exact h r₁ hr₁ j r' hj
    · exact h r₁ hr₁
  lasting := fun _ hn => .inl hn

/-! ## What calls make -/

/-- A reference of the application is one more member of the context. -/
theorem Grows.addAppRef (h : s.Typed) (id : ℕ) (r : ObjectRef) :
    Grows drops s (s.addAppRef id r) :=
  .updateContext h rfl fun r' hr' => by
    rcases mem_objects.mp hr' with hbuffer | happ | hdefault
    · exact .inl (mem_objects.mpr (.inl hbuffer))
    · exact .inl (mem_objects.mpr (.inr (.inl (List.mem_cons_of_mem _ happ))))
    · exact .inl (mem_objects.mpr (.inr (.inr hdefault)))

/-- An object with a reference of the application is held by its context. -/
theorem inContext_addAppRef {id : ℕ} (hid : .context id ∈ s.live) (r : ObjectRef) :
    (s.addAppRef id r).InContext r := by
  refine ⟨id, hid, mem_objects.mpr (.inr (.inl ?_))⟩
  simp [Ownership.addAppRef, Ownership.updateContext]

/-- An object that is made for the application, with its reference. -/
theorem Grows.create (h : s.Typed) {context : ℕ} (hcontext : .context context ∈ s.live)
    {r : ObjectRef} (hr : .object r ∉ s.live) {members : List (Option ObjectRef)}
    (hmembers : TypedMembers r.1 members) : Grows drops s (s.create context r members) := by
  have hnew : Makes drops s (s.newObject context r members) := .newObject h hr context hmembers
  refine ⟨hnew.trans (Grows.addAppRef hnew.typed context r).toMakes, fun n hn => ?_⟩
  rcases Finset.mem_insert.mp hn with rfl | hn
  · exact .inr (.inr (.inl (inContext_addAppRef (hnew.live hcontext) r)))
  · exact .inl hn

/-- No members, as device buffers and images have. -/
theorem typedMembers_nil (k : ObjectClass) : TypedMembers k [] := fun i r' hr' => by simp at hr'

/-- Members that all hold the same class. -/
theorem typedMembers_of_forall {k : ObjectClass} {members : List (Option ObjectRef)}
    (h : ∀ r', some r' ∈ members → ∀ i, k.memberClass i = some r'.1) : TypedMembers k members :=
  fun i r' hr' => h r' (List.mem_of_getElem? hr') i

/-- Null members, and then members that all hold the same class. -/
theorem typedMembers_append {k : ObjectClass} {a : ℕ} {members : List (Option ObjectRef)}
    (h : ∀ r', some r' ∈ members → ∀ i, a ≤ i → k.memberClass i = some r'.1) :
    TypedMembers k (List.replicate a none ++ members) := by
  intro i r' hr'
  rcases lt_or_ge i a with hi | hi
  · rw [List.getElem?_append_left (by simpa using hi)] at hr'
    cases List.eq_of_mem_replicate (List.mem_of_getElem? hr')
  · rw [List.getElem?_append_right (by simpa using hi)] at hr'
    exact h r' (List.mem_of_getElem? hr') i hi

/-- One member, of the class that its type says. -/
theorem typedMembers_singleton {k : ObjectClass} {r : ObjectRef}
    (h : ∀ i, k.memberClass i = some r.1) : TypedMembers k [some r] :=
  typedMembers_of_forall fun r' hr' => by
    obtain rfl := Option.some.inj (List.mem_singleton.mp hr')
    exact h

/-- `ShaderModule::get` makes at most one program. -/
theorem Grows.get (h : s.Typed) (m q : Ptr) : Grows drops s (s.get m q) := by
  unfold Ownership.get
  split_ifs with hq
  · exact ⟨.refl h, fun _ hn => .inl hn⟩
  · exact .newObject h hq _ (typedMembers_singleton fun _ => rfl) (.inr rfl)

/-- A compute kernel is a program of its own, past the cache of the module. -/
theorem Grows.newCompute (h : s.Typed) (m : Ptr) {q : Ptr}
    (hq : .object (.object .shaderProgram, q) ∉ s.live) : Grows drops s (s.newCompute m q) :=
  { Grows.newObject h hq (s.objects (.object .shaderModule, m)).context
      (typedMembers_singleton (r := (.object .shaderModule, m)) fun _ => rfl) (.inr rfl) with }

/-- A type with its program, and one program of the type. -/
theorem Grows.newProg (hdrops : ∀ k, drops k → k.Passing) (h : s.Typed) {id : ℕ}
    (hid : .context id ∈ s.live) (k : ProgKind) (m q : Ptr) {t p : Ptr}
    (ht : .object (.object (.progType k), t) ∉ s.live)
    (hp : .object (.object (.prog k), p) ∉ s.live) : Grows drops s (s.newProg id k m q t p) := by
  have hfresh : ∀ r : ObjectRef, r.1 ≠ .object .shaderProgram → .object r ∉ s.live →
      .object r ∉ (s.get m q).live := by
    intro r hne hr
    unfold Ownership.get
    split_ifs with hq
    · exact hr
    · simp only [Ownership.newObject, Finset.mem_insert, not_or]
      exact ⟨fun heq => hne (congrArg Prod.fst (Node.object.inj heq)), hr⟩
  have hget : Grows drops s (s.get m q) := .get h m q
  have htype : Makes drops (s.get m q) ((s.get m q).newObject id (.object (.progType k), t)
      [some (.object .shaderProgram, q)]) :=
    .newObject hget.typed (hfresh _ (by simp) ht) id (typedMembers_singleton fun _ => rfl)
  have hmembers : TypedMembers (.object (.prog k))
      (List.replicate 2 (some (.object (.progType k), t))) :=
    typedMembers_of_forall fun r' hr' i => by
      obtain rfl := Option.some.inj (List.eq_of_mem_replicate hr')
      rfl
  have hp' : .object (.object (.prog k), p) ∉ ((s.get m q).newObject id
      (.object (.progType k), t) [some (.object .shaderProgram, q)]).live := by
    simp only [Ownership.newObject, Finset.mem_insert, not_or]
    exact ⟨by simp, hfresh _ (by simp) hp⟩
  have hprog : Grows drops _ (Ownership.create _ id (.object (.prog k), p) _) :=
    .create htype.typed (htype.live (hget.live hid)) hp' hmembers
  refine ⟨hget.toMakes.trans (htype.trans hprog.toMakes), fun n hn => ?_⟩
  rcases hprog.lasting n hn with hn | hlast
  · rcases Finset.mem_insert.mp hn with rfl | hn
    · -- the program keeps its type
      refine .inr (.inr (.inr ⟨k, p, Finset.mem_insert_self _ _, ?_, ?_⟩))
      · exact inContext_addAppRef (Finset.mem_insert_of_mem (htype.live (hget.live hid))) _
      · simp [PointsTo, Ownership.newProg, Ownership.create, Ownership.addAppRef,
          Ownership.updateContext, Ownership.newObject]
    · exact (hget.lasting n hn).imp_right fun hlast =>
        (htype.trans hprog.toMakes).lasting_of hdrops hlast hn
  · exact .inr hlast

/-- A context comes with two buffers, an image and a sampler of it. -/
theorem Grows.newContext (h : s.Typed) (device : ℕ) {id : ℕ} (hid : .context id ∉ s.live)
    {b b' image sampler : Ptr} (hfresh : s.Fresh [(.deviceBuffer, b), (.deviceBuffer, b'),
      (.texture .image2Ds, image), (.texture .samplers, sampler)]) :
    Grows drops s (s.newContext device id b b' image sampler) := by
  obtain ⟨hnodup, hnew⟩ := hfresh
  simp only [List.mem_cons, List.not_mem_nil, or_false, forall_eq_or_imp, forall_eq,
    List.nodup_cons, Prod.mk.injEq, true_and, not_or] at hnodup hnew
  obtain ⟨hb, hb', himage, hsampler⟩ := hnew
  have htrack : Makes drops s (s.trackContext device id) := .trackContext h device hid
  have h₁ := htrack.trans (.newObject (r := (.deviceBuffer, b)) htrack.typed
    (by simpa [Ownership.trackContext] using hb) id (typedMembers_nil _))
  have h₂ := h₁.trans (.newObject (r := (.deviceBuffer, b')) h₁.typed
    (by simpa [Ownership.newObject, Ownership.trackContext, eq_comm (a := b')] using
      ⟨hnodup.1.1, hb'⟩) id (typedMembers_nil _))
  have h₃ := h₂.trans (.newObject (r := (.texture .image2Ds, image)) h₂.typed
    (by simpa [Ownership.newObject, Ownership.trackContext] using himage) id (typedMembers_nil _))
  have h₄ := h₃.trans (.newObject (r := (.texture .samplers, sampler)) h₃.typed
    (by simpa [Ownership.newObject, Ownership.trackContext] using hsampler) id
    (typedMembers_singleton (r := (.texture .image2Ds, image)) fun _ => rfl))
  refine ⟨?_, fun n hn => ?_⟩
  · unfold Ownership.newContext
    exact h₄.updateNew hid _
  -- the context keeps itself, its default image and its default sampler
  have hcontext : ∀ r, r = (.texture .image2Ds, image) ∨ r = (.texture .samplers, sampler) →
      (s.newContext device id b b' image sampler).InContext r := by
    intro r hr
    refine ⟨id, by simp [Ownership.newContext, Ownership.updateContext, Ownership.newObject,
      Ownership.trackContext], mem_objects.mpr (.inr (.inr ?_))⟩
    rcases hr with rfl | rfl
    · exact .inr ⟨rfl, by simp [Ownership.newContext, Ownership.updateContext]⟩
    · exact .inl ⟨rfl, by simp [Ownership.newContext, Ownership.updateContext]⟩
  simp only [Ownership.newContext, Ownership.updateContext, Ownership.newObject,
    Ownership.trackContext, Finset.mem_insert] at hn
  rcases hn with rfl | rfl | rfl | rfl | rfl | hn
  · exact .inr (.inr (.inl (hcontext _ (.inr rfl))))
  · exact .inr (.inr (.inl (hcontext _ (.inl rfl))))
  · exact .inr (.inl (.inl rfl))
  · exact .inr (.inl (.inl rfl))
  · right
    simp [Lasting, Ownership.newContext, Ownership.updateContext]
  · exact .inl hn

/-- A new buffer in an accel, in place of the old one. -/
theorem Grows.setBuffer (h : s.Typed) {k : ObjectKind} {a b : Ptr} {i : ℕ}
    (hi : (ObjectClass.object k).memberClass i = some .deviceBuffer)
    (hb : .object (.deviceBuffer, b) ∉ s.live) :
    Grows (· = .deviceBuffer) s (s.setBuffer k a i b) := by
  have hnew : Grows (· = .deviceBuffer) s
      (s.newObject (s.objects (.object k, a)).context (.deviceBuffer, b) []) :=
    .newObject h hb _ (typedMembers_nil _) (.inl rfl)
  exact hnew.trans (fun _ => .inl) (.setMember (r := (.object k, a)) hnew.typed hi rfl)

/-- A build replaces the three buffers of the accel, and drops those before. -/
theorem Grows.buildInstanceAccel (h : s.Typed) (a : Ptr) {b b' b'' : Ptr}
    (hfresh : s.Fresh [(.deviceBuffer, b), (.deviceBuffer, b'), (.deviceBuffer, b'')]) :
    Grows (· = .deviceBuffer) s (s.buildInstanceAccel a b b' b'') := by
  obtain ⟨hnodup, hnew⟩ := hfresh
  simp only [List.mem_cons, List.not_mem_nil, or_false, forall_eq_or_imp, forall_eq,
    List.nodup_cons, Prod.mk.injEq, true_and, not_or] at hnodup hnew
  obtain ⟨hb, hb', hb''⟩ := hnew
  have h₁ := Grows.setBuffer (k := .instanceAccel) (a := a) (i := 1) h rfl hb'
  have h₂ := Grows.setBuffer (k := .instanceAccel) (a := a) (i := 2) (b := b'') h₁.typed rfl
    (by simpa [Ownership.setBuffer, Ownership.setMember, Ownership.newObject,
      eq_comm (a := b'')] using ⟨hnodup.2.1, hb''⟩)
  have h₃ := Grows.setBuffer (k := .instanceAccel) (a := a) (i := 0) (b := b) h₂.typed rfl
    (by simpa [Ownership.setBuffer, Ownership.setMember, Ownership.newObject] using
      ⟨hnodup.1.2, hnodup.1.1, hb⟩)
  exact (h₁.trans (fun _ => .inl) h₂).trans (fun _ => .inl) h₃

/-- Setting a program drops the pointer to the one before. -/
theorem Grows.setHitProg (h : s.Typed) (t : Ptr) (role : HitRole) (m q : Ptr) :
    Grows (· = .object .shaderProgram) s (s.setHitProg t role m q) := by
  have hget : Grows (· = .object .shaderProgram) s (s.get m q) := .get h m q
  exact hget.trans (fun _ => .inr) (.setMember hget.typed rfl rfl)

/-- Setting the bounds program drops the pointer to the kernel before. -/
theorem Grows.setBoundsProg (h : s.Typed) (t m : Ptr) {q : Ptr}
    (hq : .object (.object .shaderProgram, q) ∉ s.live) :
    Grows (· = .object .shaderProgram) s (s.setBoundsProg t m q) := by
  have hnew : Grows (· = .object .shaderProgram) s (s.newCompute m q) := .newCompute h m hq
  exact hnew.trans (fun _ => .inr) (.setMember hnew.typed rfl rfl)

/-- A geometry points to its type. -/
theorem Grows.newGeom (h : s.Typed) {t g : Ptr} (ht : s.Usable (.object .geomType, t))
    (hg : .object (.object .geom, g) ∉ s.live) : Grows drops s (s.newGeom t g) :=
  .create h ht.2 hg (typedMembers_of_forall fun r' hr' i => by
    obtain rfl := Option.some.inj (List.eq_of_mem_replicate hr')
    rfl)

/-- An accel points to the geometries of the list that are not null. -/
theorem Grows.newGeomAccel (h : s.Typed) {id : ℕ} (hid : .context id ∈ s.live) {a : Ptr}
    (ha : .object (.object .geomAccel, a) ∉ s.live) (geoms : List (Option Ptr)) :
    Grows drops s (s.newGeomAccel id a geoms) :=
  .create h hid ha (typedMembers_append (a := 1) fun r' hr' i hi => by
    obtain ⟨g, -, hg⟩ := List.mem_map.mp hr'
    obtain ⟨g, rfl, rfl⟩ := Option.map_eq_some_iff.mp hg
    rw [memberClass, if_neg (by omega)])

/-- An instance accel points to the accels of the list that are not null. -/
theorem Grows.newInstanceAccel (h : s.Typed) {id : ℕ} (hid : .context id ∈ s.live) {a : Ptr}
    (ha : .object (.object .instanceAccel, a) ∉ s.live) (accels : List (Option Ptr)) :
    Grows drops s (s.newInstanceAccel id a accels) :=
  .create h hid ha (typedMembers_append (a := 3) fun r' hr' i hi => by
    obtain ⟨g, -, hg⟩ := List.mem_map.mp hr'
    obtain ⟨g, rfl, rfl⟩ := Option.map_eq_some_iff.mp hg
    rw [memberClass, if_neg (by omega)])

/-- A sampler points to its image. -/
theorem Grows.newSampler (h : s.Typed) {image p : Ptr}
    (himage : s.Usable (.texture .image2Ds, image))
    (hp : .object (.texture .samplers, p) ∉ s.live) : Grows drops s (s.newSampler image p) :=
  .create h himage.2 hp (typedMembers_singleton fun _ => rfl)

/-- Destroying a buffer drops all references of the application to it. -/
theorem Grows.bufferDestroy (h : s.Typed) (b : Ptr) :
    Grows (· = .deviceBuffer) s (s.bufferDestroy b) := by
  unfold Ownership.bufferDestroy freeAllRefs
  refine .updateContext h rfl fun r hr => ?_
  by_cases heq : r = (.deviceBuffer, b)
  · right
    rw [heq]
  · left
    rcases mem_objects.mp hr with hbuffer | happ | hdefault
    · exact mem_objects.mpr (.inl hbuffer)
    · exact mem_objects.mpr (.inr (.inl ((List.mem_erase_of_ne heq).mpr happ)))
    · exact mem_objects.mpr (.inr (.inr hdefault))

/-- The three buffers of records are replaced, and those before dropped. -/
theorem Grows.buildSBT (h : s.Typed) (id : ℕ) {b b' b'' : Ptr}
    (hfresh : s.Fresh [(.deviceBuffer, b), (.deviceBuffer, b'), (.deviceBuffer, b'')]) :
    Grows (· = .deviceBuffer) s (s.buildSBT id b b' b'') := by
  obtain ⟨hnodup, hnew⟩ := hfresh
  simp only [List.mem_cons, List.not_mem_nil, or_false, forall_eq_or_imp, forall_eq,
    List.nodup_cons, Prod.mk.injEq, true_and, not_or] at hnodup hnew
  obtain ⟨hb, hb', hb''⟩ := hnew
  have h₁ : Grows (· = .deviceBuffer) s (s.newObject id (.deviceBuffer, b) []) :=
    .newObject h hb id (typedMembers_nil _) (.inl rfl)
  have h₂ := h₁.trans (fun _ => .inl) (.newObject (r := (.deviceBuffer, b')) h₁.typed
    (by simpa [Ownership.newObject, eq_comm (a := b')] using ⟨hnodup.1.1, hb'⟩) id
    (typedMembers_nil _) (.inl rfl))
  have h₃ := h₂.trans (fun _ => .inl) (.newObject (r := (.deviceBuffer, b'')) h₂.typed
    (by simpa [Ownership.newObject, eq_comm (a := b'')] using ⟨hnodup.2.1, hnodup.1.2, hb''⟩) id
    (typedMembers_nil _) (.inl rfl))
  refine h₃.trans (fun _ => .inl) ?_
  unfold Ownership.buildSBT
  refine .updateContext h₃.typed rfl fun r hr => ?_
  rcases mem_objects.mp hr with ⟨hbuffer, -⟩ | hr
  · exact .inr hbuffer
  · exact .inl (mem_objects.mpr (.inr hr))

end Grows

/-! ## What dies -/

/-- What a live context points to is alive. -/
theorem InContext.live (h : s.Invariant) {r : ObjectRef} (hr : s.InContext r) :
    .object r ∈ s.live := by
  obtain ⟨id, hid, hmem⟩ := hr
  exact h.objects_live hid hmem

/-- A context that points to itself survives. -/
theorem context_live_collect {id : ℕ} (hid : .context id ∈ t.live)
    (hself : (t.contexts id).selfReference = true) : .context id ∈ t.collect.live := by
  have hanchor : t.graph.Anchored (.context id) :=
    .inr (mem_contextRefs.mpr (.inr (.inl ⟨hself, rfl⟩)))
  exact hanchor.collect hid

section Collect

variable (hlasting : ∀ n ∈ t.live, t.Lasting n) (h : t.collect.Invariant)
include hlasting

/-- A context that points to an object survives, and still points to it. -/
theorem InContext.collect {r : ObjectRef} (hr : t.InContext r) : t.collect.InContext r := by
  obtain ⟨id, hid, hmem⟩ := hr
  exact ⟨id, context_live_collect hid (hlasting _ hid), hmem⟩

include h

/-- Everything but buffers and device functions survives. -/
theorem mem_live_collect {n : Node} (hn : n ∈ t.live) :
    n ∈ t.collect.live ∨ ∃ r, n = .object r ∧ r.1.Passing := by
  have hrefs := h.closed.refs
  have hdevice : ∀ i ∈ t.devices, .logicalDevice i ∈ t.collect.live := fun i hi =>
    hrefs _ h.driverInstance _ (by simp [graph, refs, Ownership.collect, hi])
  cases n with
  | driverInstance => exact .inl h.driverInstance
  | driverHandle => exact .inl (hrefs _ h.driverInstance _ (by simp [graph, refs]))
  | logicalDevice i => exact .inl (hdevice i (hlasting _ hn))
  | physicalDevice i =>
    exact .inl (hrefs _ (hdevice i (hlasting _ hn)) _ (by simp [graph, refs]))
  | context id => exact .inl (context_live_collect hn (hlasting _ hn))
  | object r =>
    rcases hlasting _ hn with hpassing | hr | ⟨k, p, -, hp, hpoints⟩
    · exact .inr ⟨r, rfl, hpassing⟩
    · exact .inl ((hr.collect hlasting).live h)
    · have hprog := (hp.collect hlasting).live h
      exact .inl (hrefs _ hprog _ (mem_objectRefs.mpr (.inr ⟨r, hpoints, rfl⟩)))

/-- What is left has what it needs. -/
theorem lasting_collect {n : Node} (hn : n ∈ t.collect.live) : t.collect.Lasting n := by
  have hlast := hlasting n (t.graph.live_collect_subset hn)
  cases n with
  | object r =>
    rcases hlast with hpassing | hr | ⟨k, p, -, hp, hpoints⟩
    · exact .inl hpassing
    · exact .inr (.inl (hr.collect hlasting))
    · have hp' := hp.collect hlasting
      exact .inr (.inr ⟨k, p, hp'.live h, hp', hpoints⟩)
  | _ => exact hlast

end Collect

section Dies

variable {drops : ObjectClass → Prop} (hdrops : ∀ k, drops k → k.Passing)
include hdrops

/-- After a change every live node has something that keeps it. -/
theorem Grows.lasting_all (h : Grows drops s t) (hs : s.Sound) : ∀ n ∈ t.live, t.Lasting n :=
  fun n hn => (h.lasting n hn).elim (fun hn => h.lasting_of hdrops (hs.lasting n hn) hn) id

/-- To what dies a pointer was dropped. -/
theorem Grows.drops_of_dies (h : Grows drops s t) (hs : s.Sound) (hsettled : s.graph.Settled)
    (ht : t.collect.Invariant) {n : Node} (hn : n ∈ s.live) (hdead : n ∉ t.collect.live) :
    ∃ r, n = .object r ∧ drops r.1 := by
  have hsurvives : ∀ m ∈ s.live, m ∈ t.collect.live ∨ ∃ r, m = .object r ∧ r.1.Passing :=
    fun m hm => mem_live_collect (h.lasting_all hdrops hs) ht (h.live hm)
  have hrefs := ht.closed.refs
  obtain ⟨r, rfl, hr⟩ := (hsurvives n hn).resolve_left hdead
  refine ⟨r, rfl, ?_⟩
  by_contra hkept
  -- something pointed to it, and still does
  rcases RefGraph.useCount_ne_zero_iff.mp (hsettled _ hn) with hroot | ⟨m, hm, hmn⟩
  · obtain ⟨d, -, hd⟩ := mem_roots.mp hroot
    cases hd
  rcases object_mem_refs hmn with ⟨id, rfl, hmem⟩ | ⟨r₀, rfl, hpoints⟩
  · have hmem' := (h.objects id hm r hmem).resolve_right hkept
    have hid := context_live_collect (h.live hm) (h.lasting_all hdrops hs _ (h.live hm))
    exact hdead (hrefs _ hid _ (mem_contextRefs.mpr (.inr (.inr ⟨r, hmem', rfl⟩))))
  · have hpoints' := (h.members r₀ hm r hpoints).resolve_right hkept
    rcases hsurvives _ hm with hlive | ⟨_, heq, hr₀⟩
    · exact hdead (hrefs _ hlive _ (mem_objectRefs.mpr (.inr ⟨r, hpoints', rfl⟩)))
    · obtain rfl := Node.object.inj heq
      exact not_pointsTo_of_passing hs.typed hm hr₀ hr hpoints

/-- Once everything without a pointer to it has died, what holds between calls does again. -/
theorem Grows.sound_collect (h : Grows drops s t) (hs : s.Sound) (ht : t.collect.Invariant) :
    t.collect.Sound where
  invariant := ht
  typed := fun r hr => h.typed r (t.graph.live_collect_subset hr)
  lasting := fun _ hn => lasting_collect (h.lasting_all hdrops hs) ht hn

end Dies

end Ownership

open Ownership in
/-- Every call makes objects and stores pointers, and then everything dies that has no
pointer to it left. -/
theorem OwnershipStep.grows {call : ApiCall} {s s' : Ownership} (hstep : OwnershipStep call s s')
    (h : s.Typed) : s' = s ∨ ∃ t, s' = t.collect ∧ Grows call.Drops s t := by
  have hnew : ∀ {r : ObjectRef}, s.Fresh [r] → .object r ∉ s.live := fun hfresh =>
    hfresh.2 _ (List.mem_singleton_self _)
  have hdrops : ∀ {call : ApiCall}, ∀ k, call.Drops k → k.Passing := fun _ => ApiCall.Drops.passing
  cases hstep with
  | contextCreate _ device id b b' image sampler _ hid hfresh =>
    exact .inr ⟨_, rfl, .newContext h device hid hfresh⟩
  | shaderModuleCreate _ id m hid hfresh =>
    exact .inr ⟨_, rfl, .create h hid (hnew hfresh) (typedMembers_nil _)⟩
  | computeCreate _ id m q hid hm hfresh =>
    have hcompute : Grows (ApiCall.Drops .computeCreate) s (s.newCompute m q) :=
      .newCompute h m (hnew hfresh)
    exact .inr ⟨_, rfl, hcompute.trans hdrops (.addAppRef hcompute.typed id _)⟩
  | progCreate _ id k m q t p hid hm hfresh =>
    refine .inr ⟨_, rfl, .newProg hdrops h hid k m q (hfresh.2 _ ?_) (hfresh.2 _ ?_)⟩ <;> simp
  | geomTypeCreate _ id t hid hfresh =>
    refine .inr ⟨_, rfl, .create h hid (hnew hfresh) (typedMembers_of_forall fun r' hr' => ?_)⟩
    cases List.eq_of_mem_replicate hr'
  | geomTypeSetProg _ t role m q _ hm => exact .inr ⟨_, rfl, .setHitProg h t role m q⟩
  | geomTypeSetBoundsProg _ t m q _ hm hfresh =>
    exact .inr ⟨_, rfl, .setBoundsProg h t m (hnew hfresh)⟩
  | geomCreate _ t g ht hfresh => exact .inr ⟨_, rfl, .newGeom h ht (hnew hfresh)⟩
  | geomAccelCreate _ id a geoms hid _ hfresh =>
    exact .inr ⟨_, rfl, .newGeomAccel h hid (hnew hfresh) geoms⟩
  | instanceAccelCreate _ id a accels hid _ hfresh =>
    exact .inr ⟨_, rfl, .newInstanceAccel h hid (hnew hfresh) accels⟩
  | geomAccelBuild _ a b ha hfresh =>
    exact .inr ⟨_, rfl, .setBuffer (k := .geomAccel) h rfl (hnew hfresh)⟩
  | instanceAccelBuild _ a b b' b'' ha hfresh =>
    exact .inr ⟨_, rfl, .buildInstanceAccel h a hfresh⟩
  | imageCreate _ id p hid hfresh =>
    exact .inr ⟨_, rfl, .create h hid (hnew hfresh) (typedMembers_nil _)⟩
  | samplerCreate _ image p himage hfresh =>
    exact .inr ⟨_, rfl, .newSampler h himage (hnew hfresh)⟩
  | deviceBufferCreate _ id b hid hfresh =>
    exact .inr ⟨_, rfl, .create h hid (hnew hfresh) (typedMembers_nil _)⟩
  | bufferDestroy _ b _ => exact .inr ⟨_, rfl, .bufferDestroy h b⟩
  | buildSBT _ id b b' b'' hid hfresh => exact .inr ⟨_, rfl, .buildSBT h id hfresh⟩
  | other => exact .inl rfl

open Ownership in
/-- **Step lemma**: what holds between calls still does, nothing is left without a pointer
to it, and only that is gone to which the call dropped one. -/
theorem OwnershipStep.sound {call : ApiCall} {s s' : Ownership} (hstep : OwnershipStep call s s')
    (hs : s.Sound) (hsettled : s.graph.Settled) : s'.Sound ∧ s'.graph.Settled ∧
      ∀ n ∈ s.live, n ∉ s'.live → ∃ r, n = .object r ∧ call.Drops r.1 := by
  have ht := hstep.invariant hs.invariant
  rcases hstep.grows hs.typed with rfl | ⟨t, rfl, hgrows⟩
  · exact ⟨hs, hsettled, fun n hn hdead => absurd hn hdead⟩
  · have hdrops : ∀ k, call.Drops k → k.Passing := fun _ => ApiCall.Drops.passing
    refine ⟨hgrows.sound_collect hdrops hs ht, ?_, fun n hn hdead =>
      hgrows.drops_of_dies hdrops hs hsettled ht hn hdead⟩
    rw [graph_collect]
    exact t.graph.settled_collect

namespace Ownership

variable {s s' : Ownership}

/-- There are no objects yet. -/
theorem sound_vknInitialize (numDevices : ℕ) : (vknInitialize numDevices).Sound where
  invariant := .init numDevices
  typed := fun r hr => by simp [vknInitialize] at hr
  lasting := by
    intro n hn
    cases n with
    | context id => simp [vknInitialize] at hn
    | object r => simp [vknInitialize] at hn
    | driverInstance | driverHandle => trivial
    | physicalDevice i | logicalDevice i => simpa [Lasting, vknInitialize] using hn

/-- The driver instance holds itself, its handle and the devices, and a device holds its
physical device. -/
theorem settled_vknInitialize (numDevices : ℕ) : (vknInitialize numDevices).graph.Settled := by
  have hdriver := (Invariant.init numDevices).driverInstance
  intro n hn
  refine RefGraph.useCount_ne_zero_iff.mpr (.inr ?_)
  cases n with
  | context id => simp [graph, vknInitialize] at hn
  | object r => simp [graph, vknInitialize] at hn
  | driverInstance | driverHandle => exact ⟨_, hdriver, by simp [graph, refs, vknInitialize]⟩
  | logicalDevice i =>
    have hi : i < numDevices := by simpa [graph, vknInitialize] using hn
    exact ⟨_, hdriver, by simp [graph, refs, vknInitialize, hi]⟩
  | physicalDevice i =>
    have hi : i < numDevices := by simpa [graph, vknInitialize] using hn
    exact ⟨.logicalDevice i, by simp [graph, vknInitialize, hi], by simp [graph, refs]⟩

/-- Run lemma: no node is left without a pointer to it, besides what holds between calls. -/
theorem sound_of_trace {numDevices : ℕ} {calls : List ApiCall}
    (htrace : Trace OwnershipStep (vknInitialize numDevices) calls s) :
    s.Sound ∧ s.graph.Settled :=
  htrace.invariant (P := fun s => s.Sound ∧ s.graph.Settled)
    ⟨sound_vknInitialize numDevices, settled_vknInitialize numDevices⟩
    fun _ _ _ hstep h => ⟨(hstep.sound h.1 h.2).1, (hstep.sound h.1 h.2).2.1⟩

/-- **Only buffers and device functions die, and only at the calls that drop pointers to
them**: everything else that was alive in a run still is. -/
theorem dies_of_trace {numDevices : ℕ} {calls calls' : List ApiCall}
    (htrace : Trace OwnershipStep (vknInitialize numDevices) calls s)
    (htrace' : Trace OwnershipStep s calls' s') {n : Node} (hn : n ∈ s.live) :
    n ∈ s'.live ∨ ∃ r, n = .object r ∧ ∃ call ∈ calls', call.Drops r.1 := by
  have hs := sound_of_trace htrace
  suffices h : (s'.Sound ∧ s'.graph.Settled) ∧
      (n ∈ s'.live ∨ ∃ r, n = .object r ∧ ∃ call ∈ calls', call.Drops r.1) from h.2
  induction htrace' with
  | nil => exact ⟨hs, .inl hn⟩
  | @snoc calls' call s₁ s₂ _ hstep ih =>
    obtain ⟨hs₁, hn₁⟩ := ih
    obtain ⟨hsound, hsettled, hdies⟩ := hstep.sound hs₁.1 hs₁.2
    refine ⟨⟨hsound, hsettled⟩, ?_⟩
    rcases hn₁ with hn₁ | ⟨r, rfl, call', hcall', hdrops⟩
    · by_cases hlive : n ∈ s₂.live
      · exact .inl hlive
      · obtain ⟨r, rfl, hdrops⟩ := hdies n hn₁ hlive
        exact .inr ⟨r, rfl, call, by simp, hdrops⟩
    · exact .inr ⟨r, rfl, call', by simp [hcall'], hdrops⟩

/-- A buffer is made and destroyed in the context of `sampleModule`; the module survives. -/
theorem dies_of_trace_sampleModule : .object (.object .shaderModule, 4) ∈
    (((sampleModule.create 0 (.deviceBuffer, 5) []).collect).bufferDestroy 5).collect.live := by
  have htrace : Trace OwnershipStep sampleModule [.deviceBufferCreate, .bufferDestroy] _ :=
    .snoc (.single (.deviceBufferCreate _ 0 5 (by decide +kernel)
      ⟨by decide, by decide +kernel⟩)) (.bufferDestroy _ 5 ⟨by decide +kernel, by decide +kernel⟩)
  refine (dies_of_trace trace_sampleModule htrace (by decide +kernel)).resolve_right ?_
  rintro ⟨r, heq, call, hcall, hdrops⟩
  obtain rfl := Node.object.inj heq
  simp only [List.mem_cons, List.not_mem_nil, or_false] at hcall
  rcases hcall with rfl | rfl <;> cases hdrops

/-! ## What is alive -/

/-- A path to an object ends in members, behind a pointer of a context. -/
theorem reaches_object {n : Node} {r : ObjectRef} (h : s.graph.Reaches n (.object r)) :
    (∃ id r', n = .context id ∧ r' ∈ (s.contexts id).objects ∧
      Relation.ReflTransGen s.PointsTo r' r) ∨
    ∃ r', n = .object r' ∧ Relation.ReflTransGen s.PointsTo r' r := by
  induction h using Relation.ReflTransGen.head_induction_on with
  | refl => exact .inr ⟨r, rfl, .refl⟩
  | @head m n hmn _ ih =>
    rcases ih with ⟨id, r', rfl, hr', hpath⟩ | ⟨r', rfl, hpath⟩
    · obtain ⟨rfl, -⟩ := context_mem_refs hmn
      exact .inl ⟨id, r', rfl, hr', hpath⟩
    · rcases object_mem_refs hmn with ⟨id, rfl, hmem⟩ | ⟨r₀, rfl, hpoints⟩
      · exact .inl ⟨id, r', rfl, hmem, hpath⟩
      · exact .inr ⟨r₀, rfl, hpath.head hpoints⟩

/-- An object is alive if and only if a path from a context leads to it. -/
theorem Invariant.object_live_iff (h : s.Invariant) (hsettled : s.graph.Settled) (r : ObjectRef) :
    .object r ∈ s.live ↔ ∃ r', s.InContext r' ∧ Relation.ReflTransGen s.PointsTo r' r := by
  constructor
  · intro hr
    obtain ⟨a, ha, hanchor, hreach⟩ := hsettled.reached h.ranked hr
    rcases reaches_object hreach with ⟨id, r', rfl, hr', hpath⟩ | ⟨r', rfl, -⟩
    · exact ⟨r', ⟨id, ha, hr'⟩, hpath⟩
    · -- no static variable points to an object, and no object to itself
      exfalso
      rcases hanchor with hroot | hself
      · obtain ⟨d, -, hd⟩ := mem_roots.mp hroot
        cases hd
      · rcases mem_objectRefs.mp hself with heq | ⟨r₁, hr₁, heq⟩
        · cases heq
        · obtain rfl := Node.object.inj heq
          exact absurd (h.members r' ha r' hr₁) (lt_irrefl _)
  · rintro ⟨r', hr', hpath⟩
    induction hpath with
    | refl => exact hr'.live h
    | tail _ hpoints ih =>
      exact h.closed.refs _ ih _ (mem_objectRefs.mpr (.inr ⟨_, hpoints, rfl⟩))

/-- **Objects live exactly as long as they can be reached from a context.** -/
theorem reachable_iff_of_trace {numDevices : ℕ} {calls : List ApiCall}
    (htrace : Trace OwnershipStep (vknInitialize numDevices) calls s) (r : ObjectRef) :
    .object r ∈ s.live ↔ ∃ r', s.InContext r' ∧ Relation.ReflTransGen s.PointsTo r' r :=
  (sound_of_trace htrace).1.invariant.object_live_iff (sound_of_trace htrace).2 r

/-- The type of a ray generation program is alive because the context has the program. -/
theorem reachable_iff_of_trace_sampleRayGen :
    .object (.object (.progType .rayGen), 6) ∈ sampleRayGen.live := by
  have htrace : Trace OwnershipStep (vknInitialize 1)
      [.contextCreate, .shaderModuleCreate, .progCreate] sampleRayGen :=
    trace_sampleModule.snoc (.progCreate _ 0 .rayGen 4 5 6 7 (by decide +kernel)
      ⟨by decide +kernel, by decide +kernel⟩ ⟨by decide, by decide +kernel⟩)
  refine (reachable_iff_of_trace htrace _).mpr
    ⟨(.object (.prog .rayGen), 7), ⟨0, ?_, ?_⟩, .single ?_⟩
  · decide +kernel
  · decide +kernel
  · show some _ ∈ _
    decide +kernel

end Ownership

end Vulkanite
