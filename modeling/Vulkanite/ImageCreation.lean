/-
# The creation of images

`Image::Image` takes its slot before it looks at the texel format.  When `toVulkan`
throws, `vknImage2DCreate` returns null, but no destructor runs, and the slot keeps the
address of an object that never was (`newImage_throws`).  The next `RTPipeline::build`
follows it.

As long as the format of every image is one that `toVulkan` knows, each entry of both
tables leads to an object and `build` succeeds (`HeldTextures.Reachable.build_isSome`).
-/
import Vulkanite.TextureObjects

namespace Vulkanite

open TypedHeap

namespace Textures

variable {s : Textures}

/-! ## What `build` follows -/

/-- Every pointer in the table of the kind leads to an object. -/
def EntriesLive (s : Textures) (k : DSKind) : Prop :=
  ∀ (ID : ℕ) (p : Ptr), (s.helpers k).objects.get? ID = some p → (s.heap k p).isSome

theorem descriptorInfos_isSome_iff (k : DSKind) :
    ((s.helpers k).descriptorInfos (s.info k)).isSome ↔ s.EntriesLive k := by
  rw [DSHelper.descriptorInfos, List.isSome_mapM]
  constructor
  · intro hall ID p hID
    have hinfo := hall _ (List.mem_of_getElem? (SlotTable.get?_eq_some.mp hID))
    rwa [DSHelper.entryInfo, info, Option.isSome_map] at hinfo
  · intro hlive x hx
    cases x with
    | none => rfl
    | some p =>
      obtain ⟨ID, hID⟩ := List.mem_iff_getElem?.mp hx
      rw [DSHelper.entryInfo, info, Option.isSome_map]
      exact hlive ID p (SlotTable.get?_eq_some.mpr hID)

/-- One helper, when the pointers in its table lead to objects. -/
theorem buildHelper_of_infos {k : DSKind} {infos : List DescriptorInfo}
    (hsize : (s.helpers k).dsSize = 0) (hne : (s.helpers k).objects.elements ≠ [])
    (hinfos : (s.helpers k).descriptorInfos (s.info k) = some infos) :
    ∃ h n, h.layout = some n ∧ s.buildHelper k = some (s.setHelper k h) := by
  have hpos : 0 < (s.helpers k).objects.elements.length := List.length_pos_iff.mpr hne
  have hsizes : (s.helpers k).createLayout.dsSize ≠
      (s.helpers k).createLayout.objects.elements.length := by
    show (s.helpers k).dsSize ≠ (s.helpers k).objects.elements.length
    omega
  have hinfos' : (s.helpers k).createLayout.descriptorInfos (s.info k) = some infos := hinfos
  simp only [buildHelper, DSHelper.createDS, hinfos', if_pos hsizes]
  exact ⟨_, _, rfl, rfl⟩

/-- **`build` goes through exactly if** all pointers in both tables lead to objects. -/
theorem build_isSome_iff (h : s.Invariant) : s.build.isSome ↔ ∀ k, s.EntriesLive k := by
  constructor
  · intro hsome k
    obtain ⟨s', hs'⟩ := Option.isSome_iff_exists.mp hsome
    obtain ⟨infos, hinfos, -⟩ := build_eq_some h hs'
    rw [← descriptorInfos_isSome_iff, hinfos k]
    rfl
  · intro hlive
    have hinfos : ∀ k, ∃ infos, (s.helpers k).descriptorInfos (s.info k) = some infos := fun k =>
      Option.isSome_iff_exists.mp ((descriptorInfos_isSome_iff k).mpr (hlive k))
    obtain ⟨samplers, hsamplers⟩ := hinfos .samplers
    obtain ⟨image2Ds, himage2Ds⟩ := hinfos .image2Ds
    obtain ⟨h₁, n, hn, hbuild₁⟩ :=
      buildHelper_of_infos (h.numbered .samplers).dsSize (h.nonempty .samplers) hsamplers
    -- the second helper and the objects are as they were
    have hother : (s.setHelper .samplers h₁).helpers .image2Ds = s.helpers .image2Ds := rfl
    obtain ⟨h₂, m, hm, hbuild₂⟩ := buildHelper_of_infos (s := s.setHelper .samplers h₁)
      (hother ▸ (h.numbered .image2Ds).dsSize) (hother ▸ h.nonempty .image2Ds) himage2Ds
    have hn' : (((s.setHelper .samplers h₁).setHelper .image2Ds h₂).helpers .samplers).layout =
      some n := hn
    have hm' : (((s.setHelper .samplers h₁).setHelper .image2Ds h₂).helpers .image2Ds).layout =
      some m := hm
    simp only [build, hbuild₁, hbuild₂, hn', hm', Option.bind_eq_bind, Option.bind_some,
      Option.isSome_some]

/-! ## A creation that fails -/

/-- `vknImage2DCreate`: the handle it returns, and the textures then.  The size only goes
to Vulkan and to the copy of the texels. -/
def vknImage2DCreate (s : Textures) (texelFormat : TexelFormat) (_size_x _size_y : UInt32)
    (p : Ptr) : Option Ptr × Textures :=
  (texelFormat.toVulkan.map fun _ => p, s.newImage texelFormat p)

/-- The textures `s'` after a creation from `s` that took the slot `ID`, when it leaves
nothing behind. -/
structure AsBefore (s s' : Textures) (ID : ℕ) : Prop where
  entries : ∀ i, (s'.helpers .image2Ds).objects.get? i = (s.helpers .image2Ds).objects.get? i
  live : s'.EntriesLive .image2Ds
  free : ID ∈ (s'.helpers .image2Ds).objects.freeIDs
  build : s'.build.isSome

/-- An image whose constructor throws. -/
theorem newImage_of_throws {texelFormat : TexelFormat} (hthrows : texelFormat.toVulkan = none)
    (p : Ptr) : s.newImage texelFormat p =
      s.setHelper .image2Ds ((s.helpers .image2Ds).insert p).2 := by
  rw [newImage, hthrows]

/-- **A constructor that throws** leaves a pointer to nothing, in a slot that is not free,
and the next `build` follows it. -/
theorem newImage_throws (h : s.Invariant) {texelFormat : TexelFormat}
    (hthrows : texelFormat.toVulkan = none) {p : Ptr} (hp : s.heap .image2Ds p = none) :
    ((s.newImage texelFormat p).helpers .image2Ds).objects.get?
        ((s.helpers .image2Ds).insert p).1 = some p ∧
      ¬ (s.newImage texelFormat p).EntriesLive .image2Ds ∧
      ((s.helpers .image2Ds).insert p).1 ∉
        ((s.newImage texelFormat p).helpers .image2Ds).objects.freeIDs ∧
      (s.newImage texelFormat p).build = none := by
  have hi : (s.newImage texelFormat p).Invariant :=
    (TextureStep.newImage s texelFormat p hp).invariant h
  have hget : ((s.newImage texelFormat p).helpers .image2Ds).objects.get?
      ((s.helpers .image2Ds).insert p).1 = some p := by
    rw [newImage_of_throws hthrows]
    simp only [setHelper, Function.update_self, DSHelper.insert]
    rw [SlotTable.get?_insert (h.numbered .image2Ds).wellFormed, if_pos rfl]
  have hdead : ¬ (s.newImage texelFormat p).EntriesLive .image2Ds := by
    intro hlive
    have hsome := hlive _ _ hget
    rw [newImage_of_throws hthrows] at hsome
    simp only [setHelper, hp] at hsome
    cases hsome
  refine ⟨hget, hdead, ?_, ?_⟩
  · rw [(hi.numbered .image2Ds).wellFormed.free_iff, SlotTable.get?_eq_some.mp hget]
    simp
  · rw [← Option.not_isSome_iff_eq_none, build_isSome_iff hi]
    exact fun hlive => hdead (hlive .image2Ds)

/-- **A failed creation leaves the textures as before exactly if** there is none: the
format is one that `toVulkan` knows. -/
theorem image2DCreate_asBefore_iff (h : s.Reachable) (texelFormat : TexelFormat)
    (size_x size_y : UInt32) {p : Ptr} (hp : s.heap .image2Ds p = none) :
    ((s.vknImage2DCreate texelFormat size_x size_y p).1 = none →
      AsBefore s (s.vknImage2DCreate texelFormat size_x size_y p).2
        ((s.helpers .image2Ds).insert p).1) ↔
      texelFormat ∈ [TexelFormat.BGRA8, .RGBA8, .RGBA32F, .RGB32F] := by
  have hformat : texelFormat ∈ [TexelFormat.BGRA8, .RGBA8, .RGBA32F, .RGB32F] ↔
      texelFormat.toVulkan ≠ none := by
    cases texelFormat <;> decide
  rw [hformat, vknImage2DCreate, Option.map_eq_none_iff]
  constructor
  · intro hbefore hthrows
    exact (newImage_throws h.invariant hthrows hp).2.1 (hbefore hthrows).live
  · exact fun hknown hthrows => absurd hthrows hknown

/-- A single-channel image in a new context. -/
theorem image2DCreate_R8_not_asBefore : ¬ ∀ (s : Textures) (texelFormat : TexelFormat)
    (size_x size_y : UInt32) (p : Ptr), s.Reachable → s.heap .image2Ds p = none →
      (s.vknImage2DCreate texelFormat size_x size_y p).1 = none →
        AsBefore s (s.vknImage2DCreate texelFormat size_x size_y p).2
          ((s.helpers .image2Ds).insert p).1 := by
  intro hall
  have hbefore := hall sampleTextures .R8 2 2 3 sampleTextures_reachable rfl rfl
  exact absurd (hbefore.live 1 3 rfl) (by decide)

theorem image2DCreate_asBefore_iff_sampleTextures :
    ¬ ((sampleTextures.vknImage2DCreate .R32F 2 2 3).1 = none →
      AsBefore sampleTextures (sampleTextures.vknImage2DCreate .R32F 2 2 3).2 1) :=
  (image2DCreate_asBefore_iff sampleTextures_reachable .R32F 2 2 rfl).not.mpr (by decide)

/-! ## Runs without such a creation -/

/-- Both tables hold the live objects, and nothing else. -/
def Tracked (s : Textures) : Prop :=
  ∀ k, (s.helpers k).objects.Tracks fun p => (s.heap k p).map k.ID

/-- An operation on the objects of one kind. -/
theorem Tracked.update {s' : Textures} (h : s.Tracked) (k : DSKind) {p : Ptr}
    {o : Option (DSObj k)} {x : DSHelper} (hheap : s'.heap = set s.heap k p o)
    (hhelpers : s'.helpers = Function.update s.helpers k x)
    (hk : x.objects.Tracks (Function.update (fun q => (s.heap k q).map k.ID) p (o.map k.ID))) :
    s'.Tracked := by
  intro k'
  rw [hheap, hhelpers]
  by_cases hne : k' = k
  · subst hne
    rw [map_set, Function.update_self]
    exact hk
  · rw [set_of_kind_ne _ _ _ hne, Function.update_of_ne hne]
    exact h k'

theorem Tracked.newImage (h : s.Tracked) {texelFormat : TexelFormat}
    (hformat : texelFormat.toVulkan ≠ none) {p : Ptr} (hp : s.heap .image2Ds p = none) :
    (s.newImage texelFormat p).Tracked := by
  have hhelpers : (s.newImage texelFormat p).helpers =
      Function.update s.helpers .image2Ds ((s.helpers .image2Ds).insert p).2 := by
    unfold Textures.newImage
    cases texelFormat.toVulkan with
    | none => rfl
    | some _ => rfl
  refine h.update .image2Ds (newImage_heap s hformat p) hhelpers ?_
  exact (h .image2Ds).insert (by simp only [hp, Option.map_none])

theorem Tracked.newSampler (h : s.Tracked) (image : Ptr) {p : Ptr}
    (hp : s.heap .samplers p = none) : (s.newSampler image p).Tracked :=
  h.update .samplers rfl rfl ((h .samplers).insert (by simp only [hp, Option.map_none]))

theorem Tracked.deleteObj (h : s.Tracked) {k : DSKind} {o : DSObj k} {p : Ptr}
    (ho : s.heap k p = some o) : (s.deleteObj k o p).Tracked :=
  h.update k rfl rfl ((h k).release (by simp only [ho, Option.map_some]))

theorem tracked_create (context device : ℕ) (defaultImage defaultSampler : Ptr) :
    (create context device defaultImage defaultSampler).Tracked := by
  have hempty : Tracked { context, device } := fun _ => SlotTable.tracks_empty
  exact (hempty.newImage (by decide) rfl).newSampler defaultImage rfl

end Textures

namespace HeldTextures

variable {c c' : HeldTextures}

/-- Step lemma. -/
theorem Step.tracked (hstep : Step c c') (hi : c.Invariant) (h : c.textures.Tracked) :
    c'.textures.Tracked := by
  cases hstep with
  | createImage texelFormat p hformat hp => exact h.newImage hformat hp
  | createSampler image p _ hp => exact h.newSampler image hp
  | freeAllRefs => exact h
  | destroy k o p ho _ => exact h.deleteObj ho
  | other op s hop hstep =>
    obtain ⟨hheap, hobjects⟩ := hstep.eq_of_other hi.textures hop
    intro k
    simp only [hheap, hobjects]
    exact h k

/-- Run lemma. -/
theorem Reachable.tracked (h : c.Reachable) : c.textures.Tracked := by
  obtain ⟨context, device, image, sampler, hrun⟩ := h
  induction hrun with
  | refl => exact Textures.tracked_create context device image sampler
  | tail hpre hstep ih =>
    exact hstep.tracked (Reachable.invariant ⟨context, device, image, sampler, hpre⟩) ih

/-- **Every `build` goes through** in a run whose images have formats that `toVulkan`
knows. -/
theorem Reachable.build_isSome (h : c.Reachable) : c.textures.build.isSome := by
  rw [Textures.build_isSome_iff h.invariant.textures]
  intro k ID p hget
  have hslot := ((h.tracked k).get?_iff ID p).mp hget
  exact Option.isSome_iff_exists.mpr ((Option.map_eq_some_iff.mp hslot).imp fun _ ho => ho.1)

end HeldTextures

end Vulkanite
