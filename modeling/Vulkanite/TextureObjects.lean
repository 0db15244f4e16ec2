/-
# Texture objects

`vknSamplerGetObject` packs the `ID` of a sampler and that of its image into the
64-bit value that shaders get, and `tex2D` takes them apart again.

The runs of this module are those of a context that stays alive, with the
`shared_ptr`s that keep its samplers and images: the members `defaultImage` and
`defaultSampler` of the context, its `appUseCount`, and the member `image` of each
sampler.  The default sampler is never destroyed, so no other sampler has the `ID` zero
(`HeldTextures.Invariant`), and no other texture object is the null one.
-/
import Vulkanite.TextureRuns
import Mathlib.Logic.Relation

namespace Vulkanite

open TypedHeap

/-! ## The encoding -/

/-- The two indices that `tex2D` reads a texture and a sampler with. -/
structure TextureIndices where
  imageID : UInt32
  samplerID : UInt32
  deriving DecidableEq, Repr

/-- The indices in `tex2D`. -/
def tex2D (bits : UInt64) : TextureIndices where
  imageID := (bits >>> 32).toUInt32
  samplerID := bits.toUInt32

/-- `vknSamplerGetObject`; the pointers to the sampler and to its image lead to no
object if the result is `none`. -/
def Textures.vknSamplerGetObject (s : Textures) : Option Ptr → Option UInt64
  | none => some 0
  | some p => do
    let sampler ← s.heap .samplers p
    let image ← s.heap .image2Ds sampler.image
    some (UInt64.ofNat sampler.ID ||| UInt64.ofNat image.ID <<< 32)

/-- Two numbers of 32 bits, one above the other. -/
theorem toNat_or_shiftLeft {a b : ℕ} (ha : a < 2 ^ 32) (hb : b < 2 ^ 32) :
    (UInt64.ofNat a ||| UInt64.ofNat b <<< 32).toNat = b * 2 ^ 32 + a := by
  have hb' : b * 2 ^ 32 < 2 ^ 64 := by omega
  rw [UInt64.toNat_or, UInt64.toNat_shiftLeft, UInt64.toNat_ofNat', UInt64.toNat_ofNat',
    Nat.mod_eq_of_lt (show a < 2 ^ 64 by omega), Nat.mod_eq_of_lt (show b < 2 ^ 64 by omega),
    show (32 : UInt64).toNat % 64 = 32 from rfl, Nat.shiftLeft_eq, Nat.mod_eq_of_lt hb',
    Nat.or_comm, ← Nat.shiftLeft_eq, ← Nat.shiftLeft_add_eq_or_of_lt ha, Nat.shiftLeft_eq]

/-- `tex2D` finds what was packed. -/
theorem tex2D_or_shiftLeft {a b : ℕ} (ha : a < 2 ^ 32) (hb : b < 2 ^ 32) :
    tex2D (UInt64.ofNat a ||| UInt64.ofNat b <<< 32) =
      { imageID := UInt32.ofNat b, samplerID := UInt32.ofNat a } := by
  have hbits := toNat_or_shiftLeft ha hb
  rw [tex2D, TextureIndices.mk.injEq]
  constructor
  · apply UInt32.toNat_inj.mp
    rw [UInt64.toNat_toUInt32, UInt64.toNat_shiftRight, hbits, UInt32.toNat_ofNat',
      show (32 : UInt64).toNat % 64 = 32 from rfl, Nat.shiftRight_eq_div_pow]
    omega
  · apply UInt32.toNat_inj.mp
    rw [UInt64.toNat_toUInt32, hbits, UInt32.toNat_ofNat']
    omega

/-! ## What operations do to the objects -/

/-- What is neither a new image nor a new sampler nor a destroyed object. -/
theorem TextureStep.eq_of_other {op : TextureOp} {s s' : Textures} (h : s.Invariant)
    (hop : op ∈ [TextureOp.build, .launch, .computeLaunch]) (hstep : TextureStep op s s') :
    s'.heap = s.heap ∧ ∀ k, (s'.helpers k).objects = (s.helpers k).objects := by
  cases hstep with
  | newImage => exact absurd hop (by decide)
  | newSampler => exact absurd hop (by decide)
  | deleteObj => exact absurd hop (by decide)
  | build _ _ hbuild =>
    obtain ⟨infos, -, rfl⟩ := Textures.build_eq_some h hbuild
    exact ⟨rfl, fun _ => rfl⟩
  | launch _ created =>
    obtain ⟨ds, hds⟩ := Textures.requireUniformBuffers_snd created s
    rw [Textures.launch_eq, hds]
    exact ⟨rfl, fun _ => rfl⟩
  | computeLaunch _ created =>
    obtain ⟨ds, hds⟩ := Textures.requireUniformBuffers_snd created s
    rw [Textures.computeLaunch_eq, hds]
    exact ⟨rfl, fun _ => rfl⟩

/-- An image whose constructor does not throw. -/
theorem Textures.newImage_heap (s : Textures) {texelFormat : TexelFormat}
    (hformat : texelFormat.toVulkan ≠ none) (p : Ptr) : (s.newImage texelFormat p).heap =
      set s.heap .image2Ds p
        (some { imageView := s.handles, ID := ((s.helpers .image2Ds).insert p).1 }) := by
  unfold Textures.newImage
  cases hvk : texelFormat.toVulkan with
  | none => exact absurd hvk hformat
  | some _ => rfl

/-! ## Runs of a live context -/

/-- The textures of a context, and the `shared_ptr`s to them among its members. -/
structure HeldTextures where
  textures : Textures
  defaultImage : Ptr
  defaultSampler : Ptr
  appUseCount : Finset (DSKind × Ptr) := ∅

namespace HeldTextures

/-- `Context::Context`. -/
def create (context device : ℕ) (defaultImage defaultSampler : Ptr) : HeldTextures where
  textures := Textures.create context device defaultImage defaultSampler
  defaultImage
  defaultSampler

/-- `Context::createImage`, for a format that `toVulkan` knows. -/
def createImage (c : HeldTextures) (texelFormat : TexelFormat) (p : Ptr) : HeldTextures :=
  { c with
    textures := c.textures.newImage texelFormat p
    appUseCount := insert (.image2Ds, p) c.appUseCount }

/-- `Context::createSampler`. -/
def createSampler (c : HeldTextures) (image p : Ptr) : HeldTextures :=
  { c with
    textures := c.textures.newSampler image p
    appUseCount := insert (.samplers, p) c.appUseCount }

/-- `Context::freeAllRefs`. -/
def freeAllRefs (c : HeldTextures) (k : DSKind) (p : Ptr) : HeldTextures :=
  { c with appUseCount := c.appUseCount.erase (k, p) }

/-- The two objects that the context itself holds. -/
def Default (c : HeldTextures) (r : DSKind × Ptr) : Prop :=
  r = (.image2Ds, c.defaultImage) ∨ r = (.samplers, c.defaultSampler)

/-- There is a `shared_ptr` to the object. -/
def Held (c : HeldTextures) (r : DSKind × Ptr) : Prop :=
  c.Default r ∨ r ∈ c.appUseCount ∨ Owned DSKind.refs c.textures.heap r

/-- One operation.  The application may drop its reference to an object at any time, and
an object dies when the last reference to it is gone.  What else happens to textures
neither makes nor destroys objects. -/
inductive Step : HeldTextures → HeldTextures → Prop
  | createImage (c : HeldTextures) (texelFormat : TexelFormat) (p : Ptr)
      (hformat : texelFormat.toVulkan ≠ none) (hp : c.textures.heap .image2Ds p = none) :
      Step c (c.createImage texelFormat p)
  | createSampler (c : HeldTextures) (image p : Ptr)
      (himage : (c.textures.heap .image2Ds image).isSome)
      (hp : c.textures.heap .samplers p = none) :
      Step c (c.createSampler image p)
  | freeAllRefs (c : HeldTextures) (k : DSKind) (p : Ptr) : Step c (c.freeAllRefs k p)
  | destroy (c : HeldTextures) (k : DSKind) (o : DSObj k) (p : Ptr)
      (ho : c.textures.heap k p = some o) (hheld : ¬ c.Held (k, p)) :
      Step c { c with textures := c.textures.deleteObj k o p }
  | other (c : HeldTextures) (op : TextureOp) (s : Textures)
      (hop : op ∈ [TextureOp.build, .launch, .computeLaunch])
      (hstep : TextureStep op c.textures s) : Step c { c with textures := s }

/-- The states of the runs from a new context. -/
def Reachable (c : HeldTextures) : Prop :=
  ∃ context device defaultImage defaultSampler,
    Relation.ReflTransGen Step (create context device defaultImage defaultSampler) c

/-! ## The invariant -/

/-- What holds between operations: no reference dangles, and the default objects are
alive and have the `ID` zero. -/
structure Invariant (c : HeldTextures) : Prop where
  textures : c.textures.Invariant
  closed : Closed DSKind.refs c.textures.heap
  defaultImage : ∃ o, c.textures.heap .image2Ds c.defaultImage = some o ∧ o.ID = 0
  defaultSampler : ∃ o, c.textures.heap .samplers c.defaultSampler = some o ∧
    o.image = c.defaultImage ∧ o.ID = 0

/-! ### What an operation keeps -/

variable {c c' : HeldTextures}

/-- The operations are those of the textures, or none. -/
theorem Step.textures (hstep : Step c c') :
    c'.textures = c.textures ∨ ∃ op, TextureStep op c.textures c'.textures := by
  cases hstep with
  | createImage texelFormat p _ hp => exact Or.inr ⟨_, .newImage _ texelFormat p hp⟩
  | createSampler image p himage hp => exact Or.inr ⟨_, .newSampler _ image p himage hp⟩
  | freeAllRefs => exact Or.inl rfl
  | destroy k o p ho hheld =>
    exact Or.inr ⟨_, .deleteObj _ k o p ho fun howned => hheld (Or.inr (Or.inr howned))⟩
  | other op s _ hstep => exact Or.inr ⟨op, hstep⟩

/-- The context never drops its default objects. -/
theorem Step.default (hstep : Step c c') :
    c'.defaultImage = c.defaultImage ∧ c'.defaultSampler = c.defaultSampler := by
  cases hstep with
  | createImage => exact ⟨rfl, rfl⟩
  | createSampler => exact ⟨rfl, rfl⟩
  | freeAllRefs => exact ⟨rfl, rfl⟩
  | destroy => exact ⟨rfl, rfl⟩
  | other => exact ⟨rfl, rfl⟩

/-- No operation destroys an object that is held, or changes it. -/
theorem Step.heap_held (hstep : Step c c') (h : c.Invariant) {k : DSKind} {q : Ptr}
    {o : DSObj k} (hq : c.textures.heap k q = some o) (hheld : c.Held (k, q)) :
    c'.textures.heap k q = some o := by
  cases hstep with
  | createImage texelFormat p hformat hp =>
    simp only [HeldTextures.createImage, Textures.newImage_heap _ hformat]
    exact set_eq_some_of_none hp hq _
  | createSampler image p _ hp => exact set_eq_some_of_none hp hq _
  | freeAllRefs => exact hq
  | destroy k' o' p _ hnot =>
    -- the destroyed object is another one
    refine set_eq_some hq (fun heq => hnot ?_) none
    exact heq ▸ hheld
  | other op s hop hstep =>
    simp only [(hstep.eq_of_other h.textures hop).1]
    exact hq

/-- **No operation destroys a default object**, or changes it. -/
theorem Step.heap_default (hstep : Step c c') (h : c.Invariant) {k : DSKind} {q : Ptr}
    {o : DSObj k} (hq : c.textures.heap k q = some o) (hdefault : c.Default (k, q)) :
    c'.textures.heap k q = some o :=
  hstep.heap_held h hq (Or.inl hdefault)

/-- No operation leaves a sampler without its image. -/
theorem Step.closed (hstep : Step c c') (h : c.Invariant) :
    Closed DSKind.refs c'.textures.heap := by
  cases hstep with
  | createImage texelFormat p hformat _ =>
    simp only [HeldTextures.createImage, Textures.newImage_heap _ hformat]
    refine h.closed.set_some fun r hr => ?_
    cases hr
  | createSampler image p himage _ =>
    refine h.closed.set_some fun r hr => ?_
    rw [DSKind.refs, List.mem_singleton] at hr
    exact hr ▸ himage
  | freeAllRefs => exact h.closed
  | destroy k o p _ hheld =>
    exact h.closed.set_none fun howned => hheld (Or.inr (Or.inr howned))
  | other op s hop hstep =>
    simp only [(hstep.eq_of_other h.textures hop).1]
    exact h.closed

/-- **Step lemma**: every operation keeps the invariant. -/
theorem Step.invariant (hstep : Step c c') (h : c.Invariant) : c'.Invariant where
  textures := by
    rcases hstep.textures with heq | ⟨op, htexture⟩
    · rw [heq]
      exact h.textures
    · exact htexture.invariant h.textures
  closed := hstep.closed h
  defaultImage := by
    obtain ⟨o, ho, hID⟩ := h.defaultImage
    rw [hstep.default.1]
    exact ⟨o, hstep.heap_default h ho (Or.inl rfl), hID⟩
  defaultSampler := by
    obtain ⟨o, ho, himage, hID⟩ := h.defaultSampler
    rw [hstep.default.1, hstep.default.2]
    exact ⟨o, hstep.heap_default h ho (Or.inr rfl), himage, hID⟩

/-- The two objects of a new context. -/
theorem create_heap (context device : ℕ) (defaultImage defaultSampler : Ptr) :
    (create context device defaultImage defaultSampler).textures.heap =
      set (set (fun _ _ => none) .image2Ds defaultImage (some { imageView := 0, ID := 0 }))
        .samplers defaultSampler (some { handle := 1, image := defaultImage, ID := 0 }) := rfl

theorem invariant_create (context device : ℕ) (defaultImage defaultSampler : Ptr) :
    (create context device defaultImage defaultSampler).Invariant where
  textures := Textures.invariant_create context device defaultImage defaultSampler
  closed := by
    rw [create_heap]
    refine Closed.set_some (Closed.set_some closed_empty fun r hr => by cases hr) fun r hr => ?_
    rw [DSKind.refs, List.mem_singleton] at hr
    rw [hr, set_self]
    rfl
  defaultImage := by
    refine ⟨{ imageView := 0, ID := 0 }, ?_, rfl⟩
    rw [create_heap, set_of_kind_ne _ _ _ (by decide)]
    exact set_self _ _ _ _
  defaultSampler := by
    refine ⟨{ handle := 1, image := defaultImage, ID := 0 }, ?_, rfl, rfl⟩
    rw [create_heap]
    exact set_self _ _ _ _

/-- **Run lemma**: the invariant holds in every reachable state. -/
theorem Reachable.invariant (h : c.Reachable) : c.Invariant := by
  obtain ⟨context, device, image, sampler, hrun⟩ := h
  induction hrun with
  | refl => exact invariant_create context device image sampler
  | tail _ hstep ih => exact hstep.invariant ih

/-! ## Texture objects in a run -/

/-- The objects of one kind, each in its slot. -/
theorem Invariant.elements (h : c.Invariant) {k : DSKind} {p : Ptr} {o : DSObj k}
    (ho : c.textures.heap k p = some o) :
    (c.textures.helpers k).objects.elements[k.ID o]? = some (some p) :=
  SlotTable.get?_eq_some.mp ((h.textures.numbered k).slot p o ho)

/-- Objects of one kind with one `ID` are the same. -/
theorem Invariant.ID_inj (h : c.Invariant) {k : DSKind} {p q : Ptr} {o o' : DSObj k}
    (ho : c.textures.heap k p = some o) (ho' : c.textures.heap k q = some o')
    (hID : k.ID o = k.ID o') : p = q := by
  have hp := h.elements ho
  rw [hID, h.elements ho', Option.some.injEq, Option.some.injEq] at hp
  exact hp.symm

/-- The image of a sampler is alive, whoever else has a reference to it. -/
theorem Invariant.image (h : c.Invariant) {p : Ptr} {o : Sampler}
    (ho : c.textures.heap .samplers p = some o) :
    ∃ image : Image, c.textures.heap .image2Ds o.image = some image :=
  h.closed.get ho List.mem_cons_self

/-- Every `ID` is that of an `int`. -/
def IDsFit (c : HeldTextures) : Prop :=
  ∀ k p (o : DSObj k), c.textures.heap k p = some o → k.ID o < 2 ^ 31

/-- The `ID`s are below the lengths of the tables. -/
theorem Invariant.idsFit (h : c.Invariant)
    (hlength : ∀ k, (c.textures.helpers k).objects.elements.length ≤ 2 ^ 31) : c.IDsFit := by
  intro k p o ho
  have hlt := (List.getElem?_eq_some_iff.mp (h.elements ho)).1
  exact hlt.trans_le (hlength k)

/-- The texture object of a sampler, and what `tex2D` finds in it. -/
theorem Invariant.object (h : c.Invariant) (hfit : c.IDsFit) {p : Ptr} {o : Sampler}
    (ho : c.textures.heap .samplers p = some o) : ∃ (image : Image) (bits : UInt64),
      c.textures.heap .image2Ds o.image = some image ∧
      c.textures.vknSamplerGetObject (some p) = some bits ∧
      bits.toNat = image.ID * 2 ^ 32 + o.ID ∧
      (tex2D bits).samplerID.toNat = o.ID ∧ (tex2D bits).imageID.toNat = image.ID := by
  obtain ⟨image, himage⟩ := h.image ho
  have hID : o.ID < 2 ^ 31 := hfit .samplers p o ho
  have himageID : image.ID < 2 ^ 31 := hfit .image2Ds o.image image himage
  have hobject : c.textures.vknSamplerGetObject (some p) =
      some (UInt64.ofNat o.ID ||| UInt64.ofNat image.ID <<< 32) := by
    simp only [Textures.vknSamplerGetObject, ho, himage, Option.bind_eq_bind, Option.bind_some]
  refine ⟨image, _, himage, hobject, toNat_or_shiftLeft (by omega) (by omega), ?_⟩
  rw [tex2D_or_shiftLeft (by omega) (by omega), UInt32.toNat_ofNat', UInt32.toNat_ofNat']
  exact ⟨Nat.mod_eq_of_lt (by omega), Nat.mod_eq_of_lt (by omega)⟩

/-- The null texture object is that of the default sampler, with the default image. -/
theorem Reachable.defaultSampler_object (h : c.Reachable) :
    c.textures.vknSamplerGetObject (some c.defaultSampler) =
      c.textures.vknSamplerGetObject none := by
  obtain ⟨o, ho, himage, hID⟩ := h.invariant.defaultSampler
  obtain ⟨image, hi, hiID⟩ := h.invariant.defaultImage
  simp only [Textures.vknSamplerGetObject, ho, himage, hi, hID, hiID, Option.bind_eq_bind,
    Option.bind_some]
  rfl

/-- **Texture objects** are not null, tell the samplers apart, and lead back to the
sampler and its image. -/
theorem Reachable.samplerGetObject_spec (h : c.Reachable) (hfit : c.IDsFit) {p : Ptr} {o : Sampler}
    (ho : c.textures.heap .samplers p = some o) (hp : p ≠ c.defaultSampler) :
    ∃ (image : Image) (bits : UInt64), c.textures.heap .image2Ds o.image = some image ∧
      c.textures.vknSamplerGetObject (some p) = some bits ∧ bits ≠ 0 ∧
      (∀ q, (c.textures.heap .samplers q).isSome → q ≠ p →
        c.textures.vknSamplerGetObject (some q) ≠ some bits) ∧
      (tex2D bits).samplerID.toNat = o.ID ∧ (tex2D bits).imageID.toNat = image.ID ∧
      (c.textures.helpers .samplers).objects.elements[(tex2D bits).samplerID.toNat]? =
        some (some p) ∧
      (c.textures.helpers .image2Ds).objects.elements[(tex2D bits).imageID.toNat]? =
        some (some o.image) := by
  have hi := h.invariant
  obtain ⟨image, bits, himage, hobject, hbits, hsamplerID, himageID⟩ := hi.object hfit ho
  refine ⟨image, bits, himage, hobject, ?_, ?_, hsamplerID, himageID, ?_, ?_⟩
  · -- the slot zero belongs to the default sampler
    rintro rfl
    obtain ⟨default, hdefault, -, hzero⟩ := hi.defaultSampler
    have hID : o.ID = 0 := by
      have hsum : (0 : ℕ) = image.ID * 2 ^ 32 + o.ID := hbits
      omega
    exact hp (hi.ID_inj (k := .samplers) ho hdefault (hID.trans hzero.symm))
  · intro q hq hne hsame
    obtain ⟨o', ho'⟩ := Option.isSome_iff_exists.mp hq
    obtain ⟨_, bits', -, hobject', -, hsamplerID', -⟩ := hi.object hfit ho'
    obtain rfl : bits' = bits := Option.some.inj (hobject'.symm.trans hsame)
    exact hne (hi.ID_inj (k := .samplers) ho' ho (hsamplerID'.symm.trans hsamplerID))
  · rw [hsamplerID]
    exact hi.elements ho
  · rw [himageID]
    exact hi.elements himage

/-! ## A run that uses an `ID` again -/

/-- Two images and a sampler of the second one.  The application drops both images. -/
def sampleSampler : HeldTextures :=
  (((((create 0 0 1 2).createImage .RGBA8 3).createImage .BGRA8 4).createSampler 4 5).freeAllRefs
    .image2Ds 3).freeAllRefs .image2Ds 4

/-- The first image dies, and another takes its slot. -/
def sampleReuse : HeldTextures :=
  { sampleSampler with
    textures := sampleSampler.textures.deleteObj .image2Ds { imageView := 2, ID := 1 } 3
  }.createImage .RGBA32F 6

/-- The two samplers. -/
theorem sampleSampler_heap (p : Ptr) : sampleSampler.textures.heap .samplers p =
    if p = 5 then some { handle := 4, image := 4, ID := 1 }
    else if p = 2 then some { handle := 1, image := 1, ID := 0 } else none := by
  have hheap : sampleSampler.textures.heap =
      set (set (set (create 0 0 1 2).textures.heap .image2Ds 3 (some { imageView := 2, ID := 1 }))
        .image2Ds 4 (some { imageView := 3, ID := 2 }))
        .samplers 5 (some { handle := 4, image := 4, ID := 1 }) := rfl
  rw [hheap, set_apply, set_of_kind_ne _ _ _ (by decide), set_of_kind_ne _ _ _ (by decide),
    create_heap, set_apply, set_of_kind_ne _ _ _ (by decide)]

/-- The first image has no reference left. -/
theorem sampleSampler_not_held : ¬ sampleSampler.Held (.image2Ds, 3) := by
  rintro ((hdefault | hdefault) | happ | ⟨k, p, o, ho, hr⟩)
  · exact absurd hdefault (by decide)
  · exact absurd hdefault (by decide)
  · exact absurd happ (by decide)
  · cases k with
    | samplers =>
      rw [DSKind.refs, List.mem_singleton, Prod.mk.injEq] at hr
      rw [sampleSampler_heap] at ho
      split_ifs at ho
      · rw [← Option.some.inj ho] at hr
        exact absurd hr.2 (by decide)
      · rw [← Option.some.inj ho] at hr
        exact absurd hr.2 (by decide)
    | image2Ds => cases hr

theorem sampleSampler_reachable : sampleSampler.Reachable := by
  refine ⟨0, 0, 1, 2, ?_⟩
  have h₁ := Relation.ReflTransGen.single
    (Step.createImage (create 0 0 1 2) .RGBA8 3 (by decide) rfl)
  have h₂ := h₁.tail (Step.createImage _ .BGRA8 4 (by decide) rfl)
  have h₃ := h₂.tail (Step.createSampler _ 4 5 rfl rfl)
  exact (h₃.tail (Step.freeAllRefs _ .image2Ds 3)).tail (Step.freeAllRefs _ .image2Ds 4)

theorem sampleReuse_reachable : sampleReuse.Reachable := by
  obtain ⟨context, device, image, sampler, hrun⟩ := sampleSampler_reachable
  refine ⟨context, device, image, sampler, ?_⟩
  exact (hrun.tail (Step.destroy _ .image2Ds _ 3 rfl sampleSampler_not_held)).tail
    (Step.createImage _ .RGBA32F 6 (by decide) rfl)

/-- The sampler still leads to its own image, not to the one in the slot of the other. -/
theorem samplerGetObject_spec_sampleReuse :
    ∃ bits, sampleReuse.textures.vknSamplerGetObject (some 5) = some bits ∧ bits ≠ 0 ∧
      (tex2D bits).samplerID.toNat = 1 ∧ (tex2D bits).imageID.toNat = 2 := by
  have hfit : sampleReuse.IDsFit := sampleReuse_reachable.invariant.idsFit fun k => by
    cases k <;> decide
  obtain ⟨image, bits, himage, hobject, hne, -, hsamplerID, himageID, -⟩ :=
    sampleReuse_reachable.samplerGetObject_spec hfit (p := 5) rfl (by decide)
  have hID : image = { imageView := 3, ID := 2 } := (Option.some.inj himage).symm
  rw [hID] at himageID
  exact ⟨bits, hobject, hne, hsamplerID, himageID⟩

end HeldTextures

end Vulkanite
