/-
# Texture lookups

What `tex2D` reads in a shader: the texture object of a sampler that is alive is taken
apart, and its halves index the descriptors that the launch has bound.  These are the
descriptors of the last `build`, since nothing else writes any.

`AfterBuild` is what later operations keep.  A sampler from before the build holds on to
its image, so the pair is the one whose descriptors were written; a sampler from after it
has a handle that no descriptor contains (`tex2D_finds_iff`).
-/
import Vulkanite.TextureObjects

namespace Vulkanite

open TypedHeap

/-- The descriptors that `tex2D` reads for a texture object are those of the sampler and
of the image. -/
def BindDescriptorSets.Samples (call : BindDescriptorSets) (bits : UInt64) (sampler : Sampler)
    (image : Image) : Prop :=
  call.Holds .image2Ds (tex2D bits).imageID.toNat (DSKind.getDescriptorInfo .image2Ds image) ∧
    call.Holds .samplers (tex2D bits).samplerID.toNat (DSKind.getDescriptorInfo .samplers sampler)

namespace HeldTextures

variable {c c' c₀ : HeldTextures} {s₁ : Textures}

/-! ## Runs after a build -/

/-- An operation that does not build the pipeline. -/
def LaterStep (c c' : HeldTextures) : Prop :=
  Step c c' ∧ (c'.textures = c.textures ∨
    ∃ op, op ≠ .build ∧ TextureStep op c.textures c'.textures)

/-- The textures of a live context run as textures do. -/
theorem Reachable.textures (h : c.Reachable) : c.textures.Reachable := by
  obtain ⟨context, device, image, sampler, hrun⟩ := h
  refine ⟨context, device, image, sampler, ?_⟩
  induction hrun with
  | refl => exact ⟨[], .nil⟩
  | tail _ hstep ih =>
    obtain ⟨ops, htrace⟩ := ih
    rcases hstep.textures with heq | ⟨op, htexture⟩
    · rw [heq]
      exact ⟨ops, htrace⟩
    · exact ⟨ops ++ [op], htrace.snoc htexture⟩

/-- Nothing writes descriptors. -/
theorem LaterStep.sinceBuild (hstep : LaterStep c c') (h : Textures.SinceBuild s₁ c.textures) :
    Textures.SinceBuild s₁ c'.textures := by
  rcases hstep.2 with heq | ⟨op, hop, htexture⟩
  · rw [heq]
    exact h
  · exact h.step hop htexture

/-- What holds from the build on: the samplers that were there have kept their images. -/
structure AfterBuild (s₁ : Textures) (c : HeldTextures) : Prop where
  invariant : c.Invariant
  since : Textures.SinceBuild s₁ c.textures
  image : ∀ (p : Ptr) (o : Sampler), c.textures.heap .samplers p = some o →
    s₁.heap .samplers p = some o →
      c.textures.heap .image2Ds o.image = s₁.heap .image2Ds o.image

/-- **Step lemma**: later operations keep the images of the samplers. -/
theorem AfterBuild.step (h : AfterBuild s₁ c) (h₁ : s₁.Invariant) (hstep : LaterStep c c') :
    AfterBuild s₁ c' where
  invariant := hstep.1.invariant h.invariant
  since := hstep.sinceBuild h.since
  image := by
    intro p o ho' ho₁
    rcases (hstep.sinceBuild (.refl c.textures)).objects .samplers p o ho' with ho | hnew
    · -- the image has a reference from the sampler
      obtain ⟨image, himage⟩ := h.invariant.image ho
      have hheld : c.Held (.image2Ds, o.image) :=
        Or.inr (Or.inr ⟨.samplers, p, o, ho, List.mem_cons_self⟩)
      have hkept : c'.textures.heap .image2Ds o.image = some image :=
        hstep.1.heap_held h.invariant himage hheld
      rw [hkept, ← h.image p o ho ho₁, himage]
    · -- a new sampler has a handle that was not there at the build
      have hlt := (h₁.numbered .samplers).handle_lt p o ho₁
      have hle := h.since.handles_le
      omega

/-- Run lemma. -/
theorem AfterBuild.run (h : AfterBuild s₁ c) (h₁ : s₁.Invariant)
    (hrun : Relation.ReflTransGen LaterStep c c') : AfterBuild s₁ c' := by
  induction hrun with
  | refl => exact h
  | tail _ hstep ih => exact ih.step h₁ hstep

/-- The build itself. -/
theorem Reachable.afterBuild (h₀ : c₀.Reachable) (hbuild : c₀.textures.build = some s₁) :
    AfterBuild s₁ { c₀ with textures := s₁ } where
  invariant :=
    (Step.other c₀ .build s₁ List.mem_cons_self (.build _ _ hbuild)).invariant h₀.invariant
  since := .refl s₁
  image := fun _ _ _ _ => rfl

/-! ## The descriptors of a texture object -/

/-- An object of the build has its descriptor at its `ID`. -/
theorem AfterBuild.holds_of_old (h₀ : c₀.Reachable) (hbuild : c₀.textures.build = some s₁)
    (h : AfterBuild s₁ c) (created : Bool) {k : DSKind} {p : Ptr} {o : DSObj k}
    (ho₁ : s₁.heap k p = some o) :
    (c.textures.launch created).2.bind.Holds k (k.ID o) (k.getDescriptorInfo o) := by
  have hslot := ((h₀.afterBuild hbuild).invariant).elements ho₁
  rw [Textures.bind_launch_holds_iff h₀.textures hbuild h.since, hslot, Option.bind_some,
    DSHelper.entryInfo, Textures.info, ho₁, Option.map_some]

/-- Descriptors have handles of the time of the build. -/
theorem AfterBuild.old_of_holds (h₀ : c₀.Reachable) (hbuild : c₀.textures.build = some s₁)
    (h : AfterBuild s₁ c) (created : Bool) {k : DSKind} {p : Ptr} {o : DSObj k}
    (ho : c.textures.heap k p = some o) {i : ℕ}
    (hholds : (c.textures.launch created).2.bind.Holds k i (k.getDescriptorInfo o)) :
    s₁.heap k p = some o := by
  rw [Textures.bind_launch_holds_iff h₀.textures hbuild h.since] at hholds
  obtain ⟨x, -, hinfo⟩ := Option.bind_eq_some_iff.mp hholds
  refine (h.since.objects k p o ho).resolve_right fun hnew => ?_
  cases x with
  | none =>
    have hhandle := congrArg k.infoHandle (Option.some.inj hinfo)
    simp at hhandle
  | some q =>
    obtain ⟨o', ho', hinfo'⟩ := Option.map_eq_some_iff.mp hinfo
    have hhandle : k.handle o' = k.handle o := by
      have heq := congrArg k.infoHandle hinfo'
      rw [DSKind.infoHandle_getDescriptorInfo, DSKind.infoHandle_getDescriptorInfo] at heq
      exact Option.some.inj heq
    have hlt : k.handle o' < s₁.handles :=
      ((h₀.afterBuild hbuild).invariant.textures.numbered k).handle_lt q o' ho'
    omega

/-- **`tex2D` finds the sampler and the image of a texture object exactly if** the
sampler was alive at the last build: every sampler in the first case, whatever became of
other objects and their `ID`s since, and none in the second. -/
theorem tex2D_finds_iff (h₀ : c₀.Reachable) (hbuild : c₀.textures.build = some s₁)
    (hrun : Relation.ReflTransGen LaterStep { c₀ with textures := s₁ } c) (hfit : c.IDsFit)
    (created : Bool) {p : Ptr} {o : Sampler} (ho : c.textures.heap .samplers p = some o) :
    ∃ (image : Image) (bits : UInt64), c.textures.heap .image2Ds o.image = some image ∧
      c.textures.vknSamplerGetObject (some p) = some bits ∧
      ((c.textures.launch created).2.bind.Samples bits o image ↔
        s₁.heap .samplers p = some o) := by
  have hbuilt := h₀.afterBuild hbuild
  have h := hbuilt.run hbuilt.invariant.textures hrun
  obtain ⟨image, bits, himage, hobject, -, hsamplerID, himageID⟩ := h.invariant.object hfit ho
  refine ⟨image, bits, himage, hobject, ?_⟩
  rw [BindDescriptorSets.Samples, hsamplerID, himageID]
  constructor
  · rintro ⟨-, hsampler⟩
    exact h.old_of_holds h₀ hbuild created (k := .samplers) ho hsampler
  · intro ho₁
    have himage₁ : s₁.heap .image2Ds o.image = some image := by
      rw [← h.image p o ho ho₁]
      exact himage
    exact ⟨h.holds_of_old h₀ hbuild created himage₁,
      h.holds_of_old h₀ hbuild created (k := .samplers) ho₁⟩

/-! ## A sampler from before the build, and one from after it -/

/-- A context with two images and a sampler, once its pipeline is built. -/
def sampleSamplerBuilt : Textures := sampleSampler.textures.build.getD sampleSampler.textures

theorem sampleSampler_build : sampleSampler.textures.build = some sampleSamplerBuilt := rfl

/-- Another sampler of the same image, made after the build. -/
def sampleLateSampler : HeldTextures :=
  { sampleSampler with textures := sampleSamplerBuilt }.createSampler 4 7

theorem sampleLateSampler_run : Relation.ReflTransGen LaterStep
    { sampleSampler with textures := sampleSamplerBuilt } sampleLateSampler :=
  .single ⟨.createSampler _ 4 7 rfl rfl, Or.inr ⟨_, by decide, .newSampler _ 4 7 rfl rfl⟩⟩

/-- The earlier sampler is found, the later one is not. -/
theorem tex2D_finds_iff_sampleLateSampler :
    (∃ image bits, sampleLateSampler.textures.vknSamplerGetObject (some 5) = some bits ∧
      (sampleLateSampler.textures.launch false).2.bind.Samples bits ⟨4, 4, 1⟩ image) ∧
    (∃ image bits, sampleLateSampler.textures.vknSamplerGetObject (some 7) = some bits ∧
      ¬ (sampleLateSampler.textures.launch false).2.bind.Samples bits ⟨5, 4, 2⟩ image) := by
  have hreachable : sampleLateSampler.Reachable := by
    obtain ⟨context, device, image, sampler, hrun⟩ := sampleSampler_reachable
    refine ⟨context, device, image, sampler, ?_⟩
    exact (hrun.tail (.other _ .build _ List.mem_cons_self (.build _ _ sampleSampler_build))).tail
      (.createSampler _ 4 7 rfl rfl)
  have hfit : sampleLateSampler.IDsFit := hreachable.invariant.idsFit fun k => by
    cases k <;> decide
  obtain ⟨image, bits, -, hobject, hiff⟩ := tex2D_finds_iff sampleSampler_reachable
    sampleSampler_build sampleLateSampler_run hfit false (p := 5) (o := ⟨4, 4, 1⟩) rfl
  obtain ⟨image', bits', -, hobject', hiff'⟩ := tex2D_finds_iff sampleSampler_reachable
    sampleSampler_build sampleLateSampler_run hfit false (p := 7) (o := ⟨5, 4, 2⟩) rfl
  refine ⟨⟨image, bits, hobject, hiff.mpr rfl⟩, image', bits', hobject', fun h => ?_⟩
  cases hiff'.mp h

end HeldTextures

end Vulkanite
