/-
# Runs of the textures of a context

`TextureStep` is one operation on samplers, images and descriptor sets, and
`Textures.Invariant` what holds between operations: every live object is in the slot
it stores.  The converse fails, because an image whose constructor throws keeps its
slot.

The descriptors are written by `build` alone: `DSHelper::update` does nothing, and
nothing reads the flag `dirty`.  So what a launch binds is current exactly if no live
sampler or image was made since the last `build` (`bind_current_iff`).
-/
import Vulkanite.Lib.MapM
import Vulkanite.Lib.Traces
import Vulkanite.Textures

namespace Vulkanite

open TypedHeap

/-! ## Steps -/

/-- The operations, by name. -/
inductive TextureOp where
  | newImage
  | newSampler
  | deleteObj
  | build
  | launch
  | computeLaunch
  deriving DecidableEq, Repr

/-- One operation.  A sampler is made for a live image, an object is destroyed when no
`shared_ptr` leads to it, and launches find the static variable of
`rebuildDescriptors` in any state. -/
inductive TextureStep : TextureOp → Textures → Textures → Prop
  | newImage (s : Textures) (texelFormat : TexelFormat) (p : Ptr)
      (hp : s.heap .image2Ds p = none) : TextureStep .newImage s (s.newImage texelFormat p)
  | newSampler (s : Textures) (image p : Ptr) (himage : (s.heap .image2Ds image).isSome)
      (hp : s.heap .samplers p = none) : TextureStep .newSampler s (s.newSampler image p)
  | deleteObj (s : Textures) (k : DSKind) (o : DSObj k) (p : Ptr) (ho : s.heap k p = some o)
      (hp : ¬ Owned DSKind.refs s.heap (k, p)) : TextureStep .deleteObj s (s.deleteObj k o p)
  | build (s s' : Textures) (hbuild : s.build = some s') : TextureStep .build s s'
  | launch (s : Textures) (created : Bool) : TextureStep .launch s (s.launch created).2
  | computeLaunch (s : Textures) (created : Bool) :
      TextureStep .computeLaunch s (s.computeLaunch created).2

namespace Textures

/-- The states of the runs from a new context. -/
def Reachable (s : Textures) : Prop :=
  ∃ context device defaultImage defaultSampler ops,
    Trace TextureStep (create context device defaultImage defaultSampler) ops s

/-! ## The invariant -/

/-- What holds of the objects of one kind: the live ones are in their slots, and their
handles have been made. -/
structure HelperInvariant (h : DSHelper) (k : DSKind) (objs : Ptr → Option (DSObj k))
    (handles : ℕ) : Prop where
  wellFormed : h.objects.WellFormed
  slot : ∀ p o, objs p = some o → h.objects.get? (k.ID o) = some p
  handle_lt : ∀ p o, objs p = some o → k.handle o < handles
  dsSize : h.dsSize = 0

namespace HelperInvariant

variable {h : DSHelper} {k : DSKind} {heap : DSHeap} {handles : ℕ}

/-- More handles were made since. -/
theorem mono {objs : Ptr → Option (DSObj k)} (hi : HelperInvariant h k objs handles)
    {handles' : ℕ} (hle : handles ≤ handles') : HelperInvariant h k objs handles' :=
  { hi with handle_lt := fun p o ho => (hi.handle_lt p o ho).trans_le hle }

/-- A slot for an object that is not there, as after a constructor that throws. -/
theorem insert {objs : Ptr → Option (DSObj k)} (hi : HelperInvariant h k objs handles) (p : Ptr) :
    HelperInvariant (h.insert p).2 k objs handles where
  wellFormed := hi.wellFormed.insert p
  slot := by
    intro q o ho
    have hq := hi.slot q o ho
    -- a slot that is handed out is no slot of a live object
    have hne : k.ID o ≠ (h.objects.insert p).1 := by
      intro heq
      rw [heq, SlotTable.get?_insert_fst hi.wellFormed] at hq
      cases hq
    simp only [DSHelper.insert]
    rw [SlotTable.get?_insert hi.wellFormed, if_neg hne]
    exact hq
  handle_lt := hi.handle_lt
  dsSize := hi.dsSize

/-- An object that stores the slot it was given and has the next handle. -/
theorem insert_set (hi : HelperInvariant h k (heap k) handles) {p : Ptr} {o : DSObj k}
    (hID : k.ID o = (h.insert p).1) (hhandle : k.handle o = handles) :
    HelperInvariant (h.insert p).2 k (set heap k p (some o) k) (handles + 1) where
  wellFormed := hi.wellFormed.insert p
  slot := by
    intro q o' ho'
    rw [set_apply] at ho'
    split_ifs at ho' with hq
    · obtain rfl := Option.some.inj ho'
      simp only [DSHelper.insert] at hID ⊢
      rw [SlotTable.get?_insert hi.wellFormed, if_pos hID, hq]
    · exact (hi.insert p).slot q o' ho'
  handle_lt := by
    intro q o' ho'
    rw [set_apply] at ho'
    split_ifs at ho'
    · obtain rfl := Option.some.inj ho'
      omega
    · exact (hi.handle_lt q o' ho').trans (Nat.lt_succ_self handles)
  dsSize := hi.dsSize

/-- An object that leaves its slot. -/
theorem remove_set (hi : HelperInvariant h k (heap k) handles) {p : Ptr} {o : DSObj k}
    (ho : heap k p = some o) :
    HelperInvariant (h.remove (k.ID o)) k (set heap k p none k) handles where
  wellFormed := hi.wellFormed.release (hi.slot p o ho)
  slot := by
    intro q o' ho'
    rw [set_apply] at ho'
    split_ifs at ho' with hq
    have hget := hi.slot q o' ho'
    have hne : k.ID o' ≠ k.ID o := by
      intro heq
      rw [heq, hi.slot p o ho] at hget
      exact hq (Option.some.inj hget).symm
    simp only [DSHelper.remove]
    rw [SlotTable.get?_release (hi.slot p o ho), if_neg hne]
    exact hget
  handle_lt := by
    intro q o' ho'
    rw [set_apply] at ho'
    split_ifs at ho'
    exact hi.handle_lt q o' ho'
  dsSize := hi.dsSize

end HelperInvariant

/-- The invariant of both helpers. -/
def Numbered (s : Textures) : Prop :=
  ∀ k, HelperInvariant (s.helpers k) k (s.heap k) s.handles

/-- What holds between operations. -/
structure Invariant (s : Textures) : Prop where
  numbered : s.Numbered
  nonempty : ∀ k, (s.helpers k).objects.elements ≠ []

/-- An operation on the objects of one kind. -/
theorem Numbered.update {s s' : Textures} (h : s.Numbered) (k : DSKind)
    (hk : HelperInvariant (s'.helpers k) k (s'.heap k) s'.handles)
    (hhelpers : ∀ k', k' ≠ k → s'.helpers k' = s.helpers k')
    (hheap : ∀ k', k' ≠ k → s'.heap k' = s.heap k') (hhandles : s.handles ≤ s'.handles) :
    s'.Numbered := by
  intro k'
  by_cases hne : k' = k
  · exact hne ▸ hk
  · rw [hhelpers k' hne, hheap k' hne]
    exact (h k').mono hhandles

variable {s : Textures}

/-- A new image has the slot that it stores, if its format does not throw. -/
theorem Numbered.newImage (h : s.Numbered) (texelFormat : TexelFormat) (p : Ptr) :
    (s.newImage texelFormat p).Numbered := by
  unfold Textures.newImage
  cases texelFormat.toVulkan with
  | none =>
    refine h.update .image2Ds ?_ (fun k' hk => Function.update_of_ne hk _ _) (fun _ _ => rfl) le_rfl
    simp only [setHelper, Function.update_self]
    exact (h .image2Ds).insert p
  | some _ =>
    refine h.update .image2Ds ?_ (fun k' hk => Function.update_of_ne hk _ _)
      (fun k' hk => set_of_kind_ne _ _ _ hk) (Nat.le_succ _)
    simp only [setHelper, Function.update_self]
    exact (h .image2Ds).insert_set rfl rfl

/-- A new sampler has the slot that it stores. -/
theorem Numbered.newSampler (h : s.Numbered) (image p : Ptr) :
    (s.newSampler image p).Numbered := by
  refine h.update .samplers ?_ (fun k' hk => Function.update_of_ne hk _ _)
    (fun k' hk => set_of_kind_ne _ _ _ hk) (Nat.le_succ _)
  simp only [Textures.newSampler, setHelper, Function.update_self]
  exact (h .samplers).insert_set rfl rfl

/-- An object that dies leaves its slot. -/
theorem Numbered.deleteObj (h : s.Numbered) {k : DSKind} {o : DSObj k} {p : Ptr}
    (ho : s.heap k p = some o) : (s.deleteObj k o p).Numbered := by
  refine h.update k ?_ (fun k' hk => Function.update_of_ne hk _ _)
    (fun k' hk => set_of_kind_ne _ _ _ hk) le_rfl
  simp only [Textures.deleteObj, setHelper, Function.update_self]
  exact (h k).remove_set ho

/-! ### What `build` does -/

/-- Writing as many descriptors as there are. -/
theorem write_replicate {infos : List DescriptorInfo} (context device : ℕ) {n : ℕ}
    (hn : infos.length = n) :
    ({ context, device, descriptors := List.replicate n none : DescriptorSet }.write infos) =
      { context, device, descriptors := infos.map some } := by
  simp [DescriptorSet.write, hn]

/-- The helper once its layout and its descriptor set are made. -/
def helperBuilt (h : DSHelper) (context device : ℕ) (infos : List DescriptorInfo) : DSHelper :=
  { h with
    layout := some h.objects.elements.length
    descriptorSet := some { context, device, descriptors := infos.map some } }

/-- What `createLayout` and `createDS` leave in a helper. -/
theorem buildHelper_eq_some {s' : Textures} {k : DSKind} (hsize : (s.helpers k).dsSize = 0)
    (hne : (s.helpers k).objects.elements ≠ []) (hbuild : s.buildHelper k = some s') :
    ∃ infos, (s.helpers k).descriptorInfos (s.info k) = some infos ∧
      s' = s.setHelper k (helperBuilt (s.helpers k) s.context s.device infos) := by
  have hpos : 0 < (s.helpers k).objects.elements.length := List.length_pos_iff.mpr hne
  have hmax : max 1 (s.helpers k).objects.elements.length =
      (s.helpers k).objects.elements.length := by omega
  -- `dsSize` is never set, so the guard of `createDS` never stops it
  have hsizes : (s.helpers k).dsSize ≠ (s.helpers k).objects.elements.length := by omega
  simp only [buildHelper, DSHelper.createDS, DSHelper.createLayout, hmax, if_pos hsizes,
    Option.bind_eq_bind, Option.bind_some, Option.bind_eq_some_iff] at hbuild
  obtain ⟨h, ⟨infos, hinfos, hh⟩, hs'⟩ := hbuild
  rw [write_replicate _ _ (List.length_of_mapM hinfos)] at hh
  obtain rfl := Option.some.inj hh
  exact ⟨infos, hinfos, (Option.some.inj hs').symm⟩

/-- **What `build` does**: each helper gets a set of the descriptors of its objects,
as long as all its pointers lead to objects. -/
theorem build_eq_some {s' : Textures} (h : s.Invariant) (hbuild : s.build = some s') :
    ∃ infos : DSKind → List DescriptorInfo,
      (∀ k, (s.helpers k).descriptorInfos (s.info k) = some (infos k)) ∧
      s' = { s with
        helpers := fun k => helperBuilt (s.helpers k) s.context s.device (infos k)
        layout := some [1, (s.helpers .samplers).objects.elements.length,
          (s.helpers .image2Ds).objects.elements.length] } := by
  simp only [build, Option.bind_eq_bind, Option.bind_eq_some_iff] at hbuild
  obtain ⟨s₁, h₁, s₂, h₂, n, hn, m, hm, hs'⟩ := hbuild
  obtain ⟨samplers, hsamplers, rfl⟩ :=
    buildHelper_eq_some (h.numbered .samplers).dsSize (h.nonempty .samplers) h₁
  -- the second helper is as it was
  have hother : (s.setHelper .samplers
      (helperBuilt (s.helpers .samplers) s.context s.device samplers)).helpers .image2Ds =
        s.helpers .image2Ds := rfl
  obtain ⟨image2Ds, himage2Ds, rfl⟩ :=
    buildHelper_eq_some (hother ▸ (h.numbered .image2Ds).dsSize) (hother ▸ h.nonempty .image2Ds) h₂
  obtain rfl := Option.some.inj hn
  obtain rfl := Option.some.inj hm
  refine ⟨fun k => if k = .samplers then samplers else image2Ds, fun k => ?_, ?_⟩
  · cases k with
    | samplers => exact hsamplers
    | image2Ds => exact himage2Ds
  rw [← Option.some.inj hs']
  simp only [setHelper, Textures.mk.injEq, true_and, and_true]
  refine ⟨funext fun k => by cases k <;> rfl, ?_⟩
  rfl

/-! ### What launches do -/

/-- The set for the uniform buffer is made if there is none and none was ever made. -/
theorem requireUniformBuffers_eq (created : Bool) (s : Textures) :
    s.requireUniformBuffers created =
      if s.uniformBuffersDS = none ∧ created = false then
        (true, { s with uniformBuffersDS := some ⟨s.context, s.device, [none]⟩ })
      else (created, s) := by
  unfold requireUniformBuffers rebuildDescriptors
  cases created with
  | true => simp
  | false => simp

/-- `update` changes nothing, so a launch only makes the set for the uniform buffer. -/
theorem launch_eq (created : Bool) (s : Textures) :
    s.launch created = s.requireUniformBuffers created := by
  have hself : s.setHelper .samplers (s.helpers .samplers).update = s := by
    simp [setHelper, DSHelper.update]
  rw [launch, hself]

/-- The second test finds nothing to do. -/
theorem computeLaunch_eq (created : Bool) (s : Textures) :
    s.computeLaunch created = s.requireUniformBuffers created := by
  rw [computeLaunch, requireUniformBuffers_eq created s]
  split_ifs with h
  · rw [requireUniformBuffers_eq, if_neg (by simp)]
  · rw [requireUniformBuffers_eq, if_neg h]

/-- A launch changes nothing but the set for the uniform buffer. -/
theorem requireUniformBuffers_snd (created : Bool) (s : Textures) :
    ∃ ds, (s.requireUniformBuffers created).2 = { s with uniformBuffersDS := ds } := by
  rw [requireUniformBuffers_eq]
  split_ifs
  · exact ⟨_, rfl⟩
  · exact ⟨s.uniformBuffersDS, rfl⟩

/-! ### Every run -/

theorem numbered_init (context device : ℕ) : Numbered { context, device } := fun _ =>
  ⟨SlotTable.wellFormed_empty, by rintro _ _ ⟨⟩, by rintro _ _ ⟨⟩, rfl⟩

/-- The default image and the default sampler are in the first slots. -/
theorem invariant_create (context device : ℕ) (defaultImage defaultSampler : Ptr) :
    (create context device defaultImage defaultSampler).Invariant where
  numbered := ((numbered_init context device).newImage _ _).newSampler _ _
  nonempty := by
    intro k
    cases k with
    | samplers => exact List.cons_ne_nil _ _
    | image2Ds => exact List.cons_ne_nil _ _

/-- Changing one helper, without taking slots away. -/
theorem nonempty_setHelper (h : s.Invariant) {k : DSKind} {x : DSHelper}
    (hx : (s.helpers k).objects.elements.length ≤ x.objects.elements.length) (k' : DSKind) :
    ((s.setHelper k x).helpers k').objects.elements ≠ [] := by
  have hk' := h.nonempty k'
  rw [← List.length_pos_iff] at hk' ⊢
  simp only [setHelper, Function.update_apply]
  split_ifs with hk
  · subst hk
    omega
  · exact hk'

end Textures

open Textures in
/-- **Step lemma**: every operation keeps the invariant. -/
theorem TextureStep.invariant {op : TextureOp} {s s' : Textures} (hstep : TextureStep op s s')
    (h : s.Invariant) : s'.Invariant := by
  cases hstep with
  | newImage _ texelFormat p _ =>
    refine ⟨h.numbered.newImage texelFormat p, ?_⟩
    have hne := nonempty_setHelper h (k := .image2Ds) (x := ((s.helpers .image2Ds).insert p).2)
      (SlotTable.length_le_insert (s.helpers .image2Ds).objects p)
    unfold Textures.newImage
    cases texelFormat.toVulkan with
    | none => exact hne
    | some _ => exact hne
  | newSampler _ image p _ _ =>
    exact ⟨h.numbered.newSampler image p,
      nonempty_setHelper h (SlotTable.length_le_insert (s.helpers .samplers).objects p)⟩
  | deleteObj _ k o p ho _ =>
    exact ⟨h.numbered.deleteObj ho,
      nonempty_setHelper h (SlotTable.length_release (s.helpers k).objects (k.ID o)).ge⟩
  | build _ _ hbuild =>
    obtain ⟨infos, -, rfl⟩ := build_eq_some h hbuild
    exact ⟨fun k => { h.numbered k with }, h.nonempty⟩
  | launch _ created =>
    obtain ⟨ds, hds⟩ := requireUniformBuffers_snd created s
    rw [launch_eq, hds]
    exact ⟨h.numbered, h.nonempty⟩
  | computeLaunch _ created =>
    obtain ⟨ds, hds⟩ := requireUniformBuffers_snd created s
    rw [computeLaunch_eq, hds]
    exact ⟨h.numbered, h.nonempty⟩

/-- What the operations other than launches leave alone. -/
theorem TextureStep.frame {op : TextureOp} {s s' : Textures} (hstep : TextureStep op s s')
    (h : s.Invariant) (hop : op ∉ [TextureOp.launch, .computeLaunch]) :
    s'.context = s.context ∧ s'.device = s.device ∧ s'.uniformBuffersDS = s.uniformBuffersDS := by
  cases hstep with
  | newImage _ texelFormat p _ =>
    unfold Textures.newImage
    cases texelFormat.toVulkan with
    | none => exact ⟨rfl, rfl, rfl⟩
    | some _ => exact ⟨rfl, rfl, rfl⟩
  | newSampler => exact ⟨rfl, rfl, rfl⟩
  | deleteObj => exact ⟨rfl, rfl, rfl⟩
  | build _ _ hbuild =>
    obtain ⟨infos, -, rfl⟩ := Textures.build_eq_some h hbuild
    exact ⟨rfl, rfl, rfl⟩
  | launch => exact absurd (by simp) hop
  | computeLaunch => exact absurd (by simp) hop

namespace Textures

/-- **Run lemma**: the invariant holds in every reachable state. -/
theorem Reachable.invariant {s : Textures} (h : s.Reachable) : s.Invariant := by
  obtain ⟨context, device, image, sampler, ops, htrace⟩ := h
  exact htrace.invariant (invariant_create context device image sampler)
    fun _ _ _ hstep => hstep.invariant

/-! ## What is left of a build -/

/-- From the state after a build to a later one: the descriptors are as they were, and
the objects that were made since have later handles. -/
structure SinceBuild (s₁ s : Textures) : Prop where
  descriptorSet : ∀ k, (s.helpers k).descriptorSet = (s₁.helpers k).descriptorSet
  layout : s.layout = s₁.layout
  handles_le : s₁.handles ≤ s.handles
  objects : ∀ k p o, s.heap k p = some o → s₁.heap k p = some o ∨ s₁.handles ≤ k.handle o

theorem SinceBuild.refl (s : Textures) : SinceBuild s s :=
  ⟨fun _ => rfl, rfl, le_rfl, fun _ _ _ ho => Or.inl ho⟩

variable {s₁ s : Textures}

/-- An operation that makes at most one object, with the next handle. -/
theorem SinceBuild.update {s' : Textures} (h : SinceBuild s₁ s)
    (hset : ∀ k, (s'.helpers k).descriptorSet = (s.helpers k).descriptorSet)
    (hlayout : s'.layout = s.layout) (hhandles : s.handles ≤ s'.handles)
    (hobjects : ∀ k p o, s'.heap k p = some o → s.heap k p = some o ∨ k.handle o = s.handles) :
    SinceBuild s₁ s' where
  descriptorSet := fun k => (hset k).trans (h.descriptorSet k)
  layout := hlayout.trans h.layout
  handles_le := h.handles_le.trans hhandles
  objects := by
    intro k p o ho
    rcases hobjects k p o ho with hold | hnew
    · exact h.objects k p o hold
    · exact Or.inr (hnew ▸ h.handles_le)

/-- Changing the objects of a helper. -/
theorem descriptorSet_setHelper (s : Textures) {k : DSKind} {x : DSHelper}
    (hx : x.descriptorSet = (s.helpers k).descriptorSet) (k' : DSKind) :
    ((s.setHelper k x).helpers k').descriptorSet = (s.helpers k').descriptorSet := by
  simp only [setHelper, Function.update_apply]
  split_ifs with hk
  · exact hk ▸ hx
  · rfl

/-- A new object is the only new one. -/
theorem heap_set_or {heap : DSHeap} {k k' : DSKind} {p q : Ptr} {o : Option (DSObj k)}
    {o' : DSObj k'} (ho' : set heap k p o k' q = some o') {n : ℕ}
    (hn : ∀ x, o = some x → k.handle x = n) : heap k' q = some o' ∨ k'.handle o' = n := by
  by_cases hk : k' = k
  · subst hk
    rw [set_apply] at ho'
    split_ifs at ho'
    · exact Or.inr (hn o' ho')
    · exact Or.inl ho'
  · rw [set_of_kind_ne _ _ _ hk] at ho'
    exact Or.inl ho'

/-- **Step lemma**: only `build` writes descriptors. -/
theorem SinceBuild.step {op : TextureOp} {s' : Textures} (h : SinceBuild s₁ s)
    (hop : op ≠ .build) (hstep : TextureStep op s s') : SinceBuild s₁ s' := by
  cases hstep with
  | newImage _ texelFormat p _ =>
    have hset := descriptorSet_setHelper s (k := .image2Ds)
      (x := ((s.helpers .image2Ds).insert p).2) rfl
    unfold Textures.newImage
    cases texelFormat.toVulkan with
    | none => exact h.update hset rfl le_rfl fun _ _ _ ho => Or.inl ho
    | some _ =>
      refine h.update hset rfl (Nat.le_succ _) fun k q o ho => heap_set_or ho fun x hx => ?_
      rw [← Option.some.inj hx]
      rfl
  | newSampler _ image p _ _ =>
    refine h.update (descriptorSet_setHelper s rfl) rfl (Nat.le_succ _)
      fun k q o ho => heap_set_or ho fun x hx => ?_
    rw [← Option.some.inj hx]
    rfl
  | deleteObj _ k o p _ _ =>
    exact h.update (descriptorSet_setHelper s rfl) rfl le_rfl
      fun k q o ho => heap_set_or ho fun x hx => by cases hx
  | build => exact absurd rfl hop
  | launch _ created =>
    obtain ⟨ds, hds⟩ := requireUniformBuffers_snd created s
    rw [launch_eq, hds]
    exact { h with }
  | computeLaunch _ created =>
    obtain ⟨ds, hds⟩ := requireUniformBuffers_snd created s
    rw [computeLaunch_eq, hds]
    exact { h with }

/-- Run lemma. -/
theorem SinceBuild.trace {ops : List TextureOp} (htrace : Trace TextureStep s₁ ops s)
    (hops : .build ∉ ops) : SinceBuild s₁ s := by
  have hallowed : ∀ op ∈ ops, op ≠ .build := fun op hop heq => hops (heq ▸ hop)
  exact htrace.preserves hallowed (.refl s₁) fun _ _ _ hop hstep h => h.step hop hstep

/-! ## What a launch binds -/

end Textures

/-- The set layout of the kind has a descriptor `i`, and that descriptor of the set is
`info`. -/
def BindDescriptorSets.Holds (call : BindDescriptorSets) (k : DSKind) (i : ℕ)
    (info : DescriptorInfo) : Prop :=
  (∃ layout count, call.layout = some layout ∧ layout[k.set]? = some count ∧ i < count) ∧
    ∃ ds, call.descriptorSets[k.set]? = some (some ds) ∧ ds.descriptors[i]? = some (some info)

/-- Every live sampler and image has its own descriptor at its `ID`. -/
def BindDescriptorSets.Current (call : BindDescriptorSets) (s : Textures) : Prop :=
  ∀ k p o, s.heap k p = some o → call.Holds k (k.ID o) (k.getDescriptorInfo o)

namespace Textures

/-- What a launch binds after a build are the descriptors of the objects of then. -/
theorem bind_launch_holds_iff {s₀ s₁ s : Textures} (h₀ : s₀.Reachable)
    (hbuild : s₀.build = some s₁) (hsince : SinceBuild s₁ s) (created : Bool) (k : DSKind) (i : ℕ)
    (info : DescriptorInfo) : (s.launch created).2.bind.Holds k i info ↔
      (s₁.helpers k).objects.elements[i]?.bind (DSHelper.entryInfo (s₁.info k)) = some info := by
  obtain ⟨infos, hinfos, hs₁⟩ := build_eq_some h₀.invariant hbuild
  obtain ⟨ds, hds⟩ := requireUniformBuffers_snd created s
  rw [launch_eq]
  have hsets : (s.requireUniformBuffers created).2.bind.descriptorSets[k.set]? =
      some (some ⟨s₀.context, s₀.device, (infos k).map some⟩) := by
    rw [hds]
    have hset := hsince.descriptorSet k
    rw [hs₁] at hset
    cases k <;> exact congrArg some hset
  have hlayout : (s.requireUniformBuffers created).2.bind.layout = s₁.layout := by
    rw [hds]
    exact hsince.layout
  have hcount : ∃ layout, s₁.layout = some layout ∧
      layout[k.set]? = some (s₁.helpers k).objects.elements.length := by
    rw [hs₁]
    cases k <;> exact ⟨_, rfl, rfl⟩
  have hinfo : (s₁.helpers k).objects.elements[i]?.bind (DSHelper.entryInfo (s₁.info k)) =
      (infos k)[i]? := by
    rw [List.getElem?_mapM (hinfos k) i, hs₁]
    rfl
  rw [hinfo]
  constructor
  · rintro ⟨-, ds', hds', hi⟩
    rw [hsets, Option.some.injEq, Option.some.injEq] at hds'
    rw [← hds', List.getElem?_map] at hi
    obtain ⟨info', hinfo', heq⟩ := Option.map_eq_some_iff.mp hi
    rw [hinfo', Option.some.inj heq]
  · intro hi
    obtain ⟨layout, hl, hk⟩ := hcount
    refine ⟨⟨layout, _, hlayout.trans hl, hk, ?_⟩, _, hsets, by rw [List.getElem?_map, hi]; rfl⟩
    rw [← hinfo] at hi
    obtain ⟨x, hx, -⟩ := Option.bind_eq_some_iff.mp hi
    exact (List.getElem?_eq_some_iff.mp hx).1

/-- **What a launch binds is current exactly if** every sampler and image that is alive
was already alive when the pipeline was built. -/
theorem bind_current_iff {s₀ s₁ s : Textures} (h₀ : s₀.Reachable) (hbuild : s₀.build = some s₁)
    {ops : List TextureOp} (htrace : Trace TextureStep s₁ ops s) (hops : .build ∉ ops)
    (created : Bool) : (s.launch created).2.bind.Current s ↔
      ∀ k p o, s.heap k p = some o → s₁.heap k p = some o := by
  have hsince := SinceBuild.trace htrace hops
  have h₁ := (TextureStep.build s₀ s₁ hbuild).invariant h₀.invariant
  constructor
  · intro hcurrent k p o ho
    refine (hsince.objects k p o ho).resolve_right fun hnew => ?_
    obtain ⟨x, -, hinfo⟩ := Option.bind_eq_some_iff.mp
      ((bind_launch_holds_iff h₀ hbuild hsince created k _ _).mp (hcurrent k p o ho))
    -- the bound descriptor was written from an entry of then, whose handle is older
    cases x with
    | none =>
      have hhandle := congrArg k.infoHandle (Option.some.inj hinfo)
      simp at hhandle
    | some q =>
      obtain ⟨o', ho', hinfo'⟩ := Option.map_eq_some_iff.mp hinfo
      have hhandle := congrArg k.infoHandle hinfo'
      simp only [DSKind.infoHandle_getDescriptorInfo, Option.some.injEq] at hhandle
      have hold := (h₁.numbered k).handle_lt q o' ho'
      omega
  · intro hold k p o ho
    have ho₁ := hold k p o ho
    have hslot := SlotTable.get?_eq_some.mp ((h₁.numbered k).slot p o ho₁)
    rw [bind_launch_holds_iff h₀ hbuild hsince, hslot, Option.bind_some, DSHelper.entryInfo, info,
      ho₁, Option.map_some]

/-! ## Runs of a context -/

/-- A new context. -/
def sampleTextures : Textures := create 0 0 1 2

/-- The new context, once its pipeline is built. -/
def sampleTexturesBuilt : Textures := (sampleTextures.build).getD sampleTextures

theorem sampleTextures_reachable : sampleTextures.Reachable := ⟨0, 0, 1, 2, [], .nil⟩

theorem sampleTextures_build : sampleTextures.build = some sampleTexturesBuilt := rfl

/-- An image that is made after the build has no descriptor in the launch. -/
theorem launch_stale_image : ∃ s, sampleTextures.Reachable ∧
    sampleTextures.build = some sampleTexturesBuilt ∧
    Trace TextureStep sampleTexturesBuilt [.newImage] s ∧ ¬ (s.launch false).2.bind.Current s := by
  refine ⟨sampleTexturesBuilt.newImage .RGBA8 3, sampleTextures_reachable, sampleTextures_build,
    .single (.newImage _ .RGBA8 3 rfl), fun h => ?_⟩
  obtain ⟨⟨layout, count, hlayout, hcount, hlt⟩, -⟩ := h .image2Ds 3 _ rfl
  have hl : layout = [1, 1, 1] := (Option.some.inj hlayout).symm
  subst hl
  have hc : count = 1 := (Option.some.inj hcount).symm
  subst hc
  exact absurd hlt (by decide)

/-- Nothing refers to a sampler. -/
theorem not_owned_sampler (heap : DSHeap) (p : Ptr) :
    ¬ Owned DSKind.refs heap (.samplers, p) := by
  rintro ⟨k, q, o, -, hr⟩
  cases k with
  | samplers => cases (Prod.mk.inj (List.mem_singleton.mp hr)).1
  | image2Ds => cases hr

/-- Nothing refers to an image that no sampler is for. -/
theorem not_owned_image {heap : DSHeap} {p : Ptr}
    (hp : ∀ q o, heap .samplers q = some o → o.image ≠ p) :
    ¬ Owned DSKind.refs heap (.image2Ds, p) := by
  rintro ⟨k, q, o, ho, hr⟩
  cases k with
  | samplers => exact hp q o ho (Prod.mk.inj (List.mem_singleton.mp hr)).2.symm
  | image2Ds => cases hr

/-- Two images, and a sampler of the second in the slot of an earlier one of the first;
then the first image dies. -/
def sampleReused : Textures :=
  let s := (sampleTextures.newImage .RGBA8 3).newImage .BGRA8 5
  let s := ((s.newSampler 3 4).deleteObj .samplers ⟨4, 3, 1⟩ 4).newSampler 5 6
  s.deleteObj .image2Ds ⟨2, .GENERAL, 1⟩ 3

/-- The samplers of `sampleReused`. -/
theorem sampleReused_samplers (p : Ptr) : sampleReused.heap .samplers p =
    if p = 6 then some ⟨5, 5, 1⟩ else if p = 2 then some ⟨1, 1, 0⟩ else none := by
  let heap := ((sampleTextures.newImage .RGBA8 3).newImage .BGRA8 5).heap
  have hheap : sampleReused.heap .samplers =
      set (set (set heap .samplers 4 (some ⟨4, 3, 1⟩)) .samplers 4 none) .samplers 6
        (some ⟨5, 5, 1⟩) .samplers := rfl
  have hfirst : heap .samplers p =
      set (fun _ _ => none : DSHeap) .samplers 2 (some ⟨1, 1, 0⟩) .samplers p := rfl
  rw [hheap, set_set_none rfl, set_apply, hfirst, set_apply]

/-- Its samplers are for the image of the constructor and for the second image. -/
theorem sampleReused_unused {p : Ptr} (hp : p ∉ [1, 5]) (q : Ptr) (o : Sampler)
    (ho : sampleReused.heap .samplers q = some o) : o.image ≠ p := by
  rw [sampleReused_samplers] at ho
  split_ifs at ho
  all_goals
    obtain rfl := Option.some.inj ho
    rintro rfl
    exact hp (by decide)

theorem sampleReused_reachable : sampleReused.Reachable := by
  have h₁ := Trace.single (TextureStep.newImage sampleTextures .RGBA8 3 rfl)
  have h₂ := h₁.snoc (.newImage _ .BGRA8 5 rfl)
  have h₃ := h₂.snoc (.newSampler _ 3 4 rfl rfl)
  have h₄ := h₃.snoc (.deleteObj _ .samplers ⟨4, 3, 1⟩ 4 rfl (not_owned_sampler _ _))
  have h₅ := h₄.snoc (.newSampler _ 5 6 rfl rfl)
  exact ⟨0, 0, 1, 2, _, h₅.snoc (.deleteObj _ .image2Ds ⟨2, .GENERAL, 1⟩ 3 rfl
    (not_owned_image (sampleReused_unused (by decide))))⟩

/-- `sampleReused`, once its pipeline is built. -/
def sampleReusedBuilt : Textures := (sampleReused.build).getD sampleReused

theorem sampleReused_build : sampleReused.build = some sampleReusedBuilt := rfl

/-- Another image takes the free slot, and a sampler is made for it. -/
def sampleStale : Textures := (sampleReusedBuilt.newImage .RGBA32F 7).newSampler 7 8

/-- The sampler dies, and then another one that had taken its slot. -/
def sampleDropped : Textures :=
  let s := (sampleStale.deleteObj .samplers ⟨7, 7, 2⟩ 8).newSampler 5 9
  s.deleteObj .samplers ⟨8, 5, 2⟩ 9

/-- The image dies as well. -/
def samplePassed : Textures := sampleDropped.deleteObj .image2Ds ⟨6, .GENERAL, 1⟩ 7

/-- Only the later image is left of what was made since the build. -/
theorem sampleDropped_heap : sampleDropped.heap =
    set sampleReusedBuilt.heap .image2Ds 7 (some ⟨6, .GENERAL, 1⟩) := by
  let heap := set sampleReusedBuilt.heap .image2Ds 7 (some ⟨6, .GENERAL, 1⟩)
  show set (set (set (set heap .samplers 8 (some ⟨7, 7, 2⟩)) .samplers 8 none)
    .samplers 9 (some ⟨8, 5, 2⟩)) .samplers 9 none = heap
  have h₈ : heap .samplers 8 = none := rfl
  have h₉ : heap .samplers 9 = none := rfl
  rw [set_set_none h₈, set_set_none h₉]

/-- The live objects are those of the build again. -/
theorem samplePassed_heap : samplePassed.heap = sampleReusedBuilt.heap := by
  have h₇ : sampleReusedBuilt.heap .image2Ds 7 = none := rfl
  show set sampleDropped.heap .image2Ds 7 none = _
  rw [sampleDropped_heap, set_set_none h₇]

theorem sampleStale_trace :
    Trace TextureStep sampleReusedBuilt [.newImage, .newSampler] sampleStale :=
  (Trace.single (.newImage _ .RGBA32F 7 rfl)).snoc (.newSampler _ 7 8 rfl rfl)

theorem samplePassed_trace : Trace TextureStep sampleReusedBuilt
    [.newImage, .newSampler, .deleteObj, .newSampler, .deleteObj, .deleteObj] samplePassed := by
  have h₁ := sampleStale_trace.snoc
    (.deleteObj _ .samplers ⟨7, 7, 2⟩ 8 rfl (not_owned_sampler _ _))
  have h₂ := h₁.snoc (.newSampler _ 5 9 rfl rfl)
  have h₃ := h₂.snoc (.deleteObj _ .samplers ⟨8, 5, 2⟩ 9 rfl (not_owned_sampler _ _))
  have hsamplers : sampleDropped.heap .samplers = sampleReused.heap .samplers := by
    rw [sampleDropped_heap, set_of_kind_ne _ _ _ (by decide)]
    rfl
  refine h₃.snoc (.deleteObj sampleDropped .image2Ds ⟨6, .GENERAL, 1⟩ 7 rfl ?_)
  exact not_owned_image (hsamplers ▸ sampleReused_unused (by decide))

/-- What is bound is not current while the later image is alive, and current after it. -/
theorem bind_current_iff_samplePassed :
    ¬ (sampleStale.launch false).2.bind.Current sampleStale ∧
      (samplePassed.launch true).2.bind.Current samplePassed := by
  constructor
  · rw [bind_current_iff sampleReused_reachable sampleReused_build sampleStale_trace (by decide)]
    intro hold
    cases hold .image2Ds 7 ⟨6, .GENERAL, 1⟩ rfl
  · rw [bind_current_iff sampleReused_reachable sampleReused_build samplePassed_trace (by decide),
      samplePassed_heap]
    exact fun k p o ho => ho

end Textures

end Vulkanite
