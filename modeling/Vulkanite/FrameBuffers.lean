/-
# The frame buffers of the samples

Both samples launch `simpleRayGen` once for each pixel of a picture.  A thread traces a ray
and stores the colour that it finds, by `make_bgra`, at `pixelID.x+self.fbSize.x*pixelID.y`;
then the host gives the words to `stbi_write_png`, which takes their bytes for red, green,
blue and alpha.

`frameBuffer_iff` says for which sizes a launch leaves the colours of all pixels, whatever
they are and however the threads interleave, and nothing else: those with up to `2^31` pixels.
In the bytes, red and blue are exchanged.

The launch has the size of the picture, as in the samples.
-/
import Vulkanite.Colors
import Vulkanite.Lib.DisjointThreads

namespace Vulkanite.Samples

/-! ## The model -/

/-- Where a thread is in `simpleRayGen`; after the trace it has `prd.color`. -/
inductive Thread where
  | entry
  | traced (color : Float3)
  | returned

/-- The words from `fbPtr` on. -/
abbrev FrameBuffer := ℤ → UInt32

/-- `fbOfs`: a sum of `uint`s that becomes an `int`. -/
def fbOfs (width x y : ℕ) : ℤ := Int.bmod ((x + width * y : ℕ) : ℤ) (2 ^ 32)

/-- What a picture shows: the colours that a trace for the pixel `x`, `y` can find. -/
abbrev Shading := ℕ → ℕ → Set Float3

/-- One step of the thread for the pixel `x`, `y`.  If a channel of the colour fits no `int`,
the word may be any. -/
inductive ThreadStep (shade : Shading) (width x y : ℕ) :
    Thread × FrameBuffer → Thread × FrameBuffer → Prop
  | trace (color : Float3) (fb : FrameBuffer) (hcolor : color ∈ shade x y) :
      ThreadStep shade width x y (.entry, fb) (.traced color, fb)
  | store (color : Float3) (fb : FrameBuffer) (bgra : UInt32)
      (hbgra : ∀ word, color.make_bgra = some word → bgra = word) :
      ThreadStep shade width x y (.traced color, fb)
        (.returned, Function.update fb (fbOfs width x y) bgra)

/-- The pixels, by row and column. -/
abbrev Pixel (height width : ℕ) := Fin height × Fin width

/-- One step of one of the threads of a launch. -/
def LaunchStep (shade : Shading) (height width : ℕ)
    (s s' : (Pixel height width → Thread) × FrameBuffer) : Prop :=
  ∃ p thread, ThreadStep shade width p.2 p.1 (s.1 p, s.2) (thread, s'.2) ∧
    s'.1 = Function.update s.1 p thread

/-- A launch for a picture, with the words `fb`, can leave the words `fb'`. -/
def Launch (shade : Shading) (height width : ℕ) (fb fb' : FrameBuffer) : Prop :=
  ∃ threads, Relation.ReflTransGen (LaunchStep shade height width) (fun _ => .entry, fb)
    (threads, fb') ∧ ∀ p, threads p = .returned

/-- The bytes show a colour: blue, green and red, and all of alpha. -/
def ShowsColor (word : UInt32) (color : Float3) : Prop :=
  ∀ r g b, make_8bit color.x = some r → make_8bit color.y = some g →
    make_8bit color.z = some b → bytesOf word = [b.toNat, g.toNat, r.toNat, 255]

/-- The words show the picture, and others are as before. -/
structure Shows (shade : Shading) (height width : ℕ) (fb fb' : FrameBuffer) : Prop where
  pixel : ∀ x < width, ∀ y < height, ∃ color ∈ shade x y, ShowsColor (fb' (x + width * y)) color
  other : ∀ i : ℤ, (∀ x < width, ∀ y < height, i ≠ x + width * y) → fb' i = fb i

/-! ## Pictures that an `int` can count -/

variable {shade : Shading} {height width : ℕ} {fb fb' : FrameBuffer}

/-- The offset of a pixel is below their number. -/
theorem offset_lt {x y : ℕ} (hx : x < width) (hy : y < height) :
    x + width * y < height * width := (finProdFinEquiv (⟨y, hy⟩, ⟨x, hx⟩)).2

/-- Offsets are not wrapped. -/
theorem fbOfs_eq (hsize : height * width ≤ 2 ^ 31) {x y : ℕ} (hx : x < width) (hy : y < height) :
    fbOfs width x y = x + width * y := by
  have hlt : x + width * y < 2 ^ 31 := (offset_lt hx hy).trans_le hsize
  have hmax : x + width * y ≤ intMax := by
    rw [intMax]
    omega
  have hbmod := bmod_of_le_intMax hmax
  unfold fbOfs
  rw [hbmod, Nat.cast_add, Nat.cast_mul]

/-- The pixel of a word. -/
def ownerOf (height width : ℕ) (i : ℤ) : Option (Pixel height width) :=
  if hi : 0 ≤ i ∧ i.toNat < height * width then some (finProdFinEquiv.symm ⟨i.toNat, hi.2⟩)
  else none

/-- The pixel that an offset belongs to. -/
theorem ownerOf_eq_some_iff {i : ℤ} {p : Pixel height width} :
    ownerOf height width i = some p ↔ i = (p.2 : ℕ) + width * (p.1 : ℕ) := by
  have hval : ((finProdFinEquiv p : Fin (height * width)) : ℕ) = p.2 + width * p.1 := rfl
  have hlt := (finProdFinEquiv p).2
  unfold ownerOf
  constructor
  · intro h
    split_ifs at h with hi
    have heq := congrArg finProdFinEquiv (Option.some.inj h)
    rw [Equiv.apply_symm_apply] at heq
    have hnat : i.toNat = p.2 + width * p.1 := (congrArg Fin.val heq).trans hval
    omega
  · intro h
    have hnat : i.toNat = p.2 + width * p.1 := by omega
    rw [dif_pos ⟨by omega, by omega⟩]
    refine congrArg some ((Equiv.symm_apply_eq _).mpr (Fin.ext ?_))
    exact hnat.trans hval.symm

/-- The threads of a launch, each with a word of its own. -/
def launchThreads (shade : Shading) (hsize : height * width ≤ 2 ^ 31) :
    Threads (Pixel height width) ℤ UInt32 Thread where
  owner := ownerOf height width
  step := fun p => ThreadStep shade width p.2 p.1
  frame := by
    intro p l l' m m' hstep i hi
    cases hstep with
    | trace => rfl
    | store =>
      refine Function.update_of_ne (fun heq => hi (ownerOf_eq_some_iff.mpr ?_)) _ _
      rw [heq, fbOfs_eq hsize p.2.2 p.1.2]
  transfer := by
    intro p l l' m m' n hstep hn
    cases hstep with
    | trace color _ hcolor => exact ⟨n, .trace color n hcolor, fun i hi => hn i (Or.inr hi)⟩
    | store color _ bgra hbgra =>
      refine ⟨_, .store color n bgra hbgra, fun i hi => ?_⟩
      rw [ownerOf_eq_some_iff.mp hi, ← fbOfs_eq hsize p.2.2 p.1.2, Function.update_self,
        Function.update_self]

/-- What holds of a thread wherever it is. -/
def ThreadInv (shade : Shading) (width x y : ℕ) : Thread × FrameBuffer → Prop
  | (.entry, _) => True
  | (.traced color, _) => color ∈ shade x y
  | (.returned, fb) => ∃ color ∈ shade x y, ∀ word, color.make_bgra = some word →
      fb (fbOfs width x y) = word

/-- Step lemma. -/
theorem ThreadStep.threadInv {x y : ℕ} {s s' : Thread × FrameBuffer}
    (hstep : ThreadStep shade width x y s s') (h : ThreadInv shade width x y s) :
    ThreadInv shade width x y s' := by
  cases hstep with
  | trace color fb hcolor => exact hcolor
  | store color fb bgra hbgra =>
    refine ⟨color, h, fun word hword => ?_⟩
    rw [Function.update_self]
    exact hbgra word hword

theorem make_8bit_lt {f u : UInt32} (h : make_8bit f = some u) : u.toNat < 256 := by
  obtain ⟨i, -, rfl⟩ := Option.map_eq_some_iff.mp h
  rw [uint32OfInt, UInt32.toNat_ofNat']
  omega

/-- The word of a colour shows it. -/
theorem showsColor_of_make_bgra {word : UInt32} {color : Float3}
    (h : ∀ word', color.make_bgra = some word' → word = word') : ShowsColor word color := by
  intro r g b hr hg hb
  have hword := h (packed b g r 0xff) (by
    simp only [Float3.make_bgra, hr, hg, hb, Option.bind_eq_bind, Option.bind_some,
      Option.pure_def])
  have hbytes := bytesOf_packed (make_8bit_lt hb) (make_8bit_lt hg) (make_8bit_lt hr)
    (show 255 < 256 by decide)
  rw [UInt32.ofNat_toNat, UInt32.ofNat_toNat, UInt32.ofNat_toNat] at hbytes
  rw [hword]
  exact hbytes

/-- A launch leaves the picture. -/
theorem Launch.shows (hsize : height * width ≤ 2 ^ 31) (h : Launch shade height width fb fb') :
    Shows shade height width fb fb' := by
  obtain ⟨threads, hrun, hreturned⟩ := h
  have hrun : (launchThreads shade hsize).Run (fun _ => .entry, fb) (threads, fb') := hrun
  constructor
  · intro x hx y hy
    let p : Pixel height width := (⟨y, hy⟩, ⟨x, hx⟩)
    obtain ⟨n, halone, hn⟩ := Threads.alone_of_run hrun p
    have hinv : ThreadInv shade width x y (threads p, n) := by
      have hinv : ∀ s, (launchThreads shade hsize).Alone p (.entry, fb) s →
          ThreadInv shade width x y s := by
        intro s hs
        induction hs with
        | refl => trivial
        | tail _ hstep ih => exact ThreadStep.threadInv hstep ih
      exact hinv _ halone
    rw [hreturned p] at hinv
    obtain ⟨color, hcolor, hword⟩ := hinv
    refine ⟨color, hcolor, showsColor_of_make_bgra fun word hmake => ?_⟩
    rw [← hword word hmake, fbOfs_eq hsize hx hy]
    exact (hn _ (ownerOf_eq_some_iff.mpr rfl)).symm
  · intro i hi
    refine Threads.Run.frame hrun ?_
    cases howner : (launchThreads shade hsize).owner i with
    | none => rfl
    | some p => exact absurd (ownerOf_eq_some_iff.mp howner) (hi p.2 p.2.2 p.1 p.1.2)

/-! ## Larger pictures -/

def black : Float3 := ⟨0, 0, 0⟩

theorem make_bgra_black : black.make_bgra = some 0xff000000 := by decide +kernel

/-- A black picture. -/
def blackShade : Shading := fun _ _ => {black}

/-- Threads one after the other. -/
theorem exists_run (fb : FrameBuffer) {ps : List (Pixel height width)} (hnodup : ps.Nodup) :
    ∃ threads fb', Relation.ReflTransGen (LaunchStep blackShade height width)
        (fun _ => .entry, fb) (threads, fb') ∧
      (∀ p ∈ ps, threads p = .returned) ∧ ∀ p ∉ ps, threads p = .entry := by
  induction ps with
  | nil => exact ⟨_, _, .refl, by simp, fun _ _ => rfl⟩
  | cons p ps ih =>
    obtain ⟨hp, hnodup⟩ := List.nodup_cons.mp hnodup
    obtain ⟨threads, fb₁, hrun, hreturned, hentry⟩ := ih hnodup
    have htrace : LaunchStep blackShade height width (threads, fb₁)
        (Function.update threads p (.traced black), fb₁) := by
      refine ⟨p, _, ?_, rfl⟩
      dsimp only
      rw [hentry p hp]
      exact .trace black fb₁ rfl
    have hstore : LaunchStep blackShade height width
        (Function.update threads p (.traced black), fb₁)
        (Function.update (Function.update threads p (.traced black)) p .returned,
          Function.update fb₁ (fbOfs width p.2 p.1) 0xff000000) := by
      refine ⟨p, _, ?_, rfl⟩
      dsimp only
      rw [Function.update_self]
      exact .store black fb₁ _ fun word hword => Option.some.inj (make_bgra_black.symm.trans hword)
    refine ⟨_, _, (hrun.tail htrace).tail hstore, fun q hq => ?_, fun q hq => ?_⟩
    · rw [Function.update_idem, Function.update_apply]
      split_ifs with hqp
      · rfl
      · exact hreturned q ((List.mem_cons.mp hq).resolve_left hqp)
    · rw [Function.update_idem, Function.update_of_ne (List.ne_of_not_mem_cons hq)]
      exact hentry q (List.not_mem_of_not_mem_cons hq)

/-- A launch of the black picture. -/
theorem exists_launch (height width : ℕ) (fb : FrameBuffer) :
    ∃ fb', Launch blackShade height width fb fb' := by
  obtain ⟨threads, fb', hrun, hreturned, -⟩ :=
    exists_run fb (Finset.univ : Finset (Pixel height width)).nodup_toList
  exact ⟨fb', threads, hrun, fun p => hreturned p (Finset.mem_toList.mpr (Finset.mem_univ p))⟩

/-- What has been stored stays black, although words may have several threads. -/
theorem Launch.black (h : Launch blackShade height width fb fb') (p : Pixel height width) :
    fb' (fbOfs width p.2 p.1) = 0xff000000 := by
  obtain ⟨threads, hrun, hreturned⟩ := h
  have hinv : ∀ s, Relation.ReflTransGen (LaunchStep blackShade height width)
      (fun _ => .entry, fb) s → ∀ p : Pixel height width,
        (∀ color, s.1 p = .traced color → color = Samples.black) ∧
        (s.1 p = .returned → s.2 (fbOfs width p.2 p.1) = 0xff000000) := by
    intro s hs
    induction hs with
    | refl => exact fun p => ⟨fun color h => Thread.noConfusion h, fun h => Thread.noConfusion h⟩
    | @tail s₁ s₂ _ hstep ih =>
      obtain ⟨threads₁, fb₁⟩ := s₁
      obtain ⟨threads₂, fb₂⟩ := s₂
      obtain ⟨q, thread, hstep, rfl⟩ := hstep
      have hq := (ih q).1
      dsimp only at hstep hq
      generalize threads₁ q = thread₁ at hstep hq
      intro p
      obtain ⟨htraced, hstored⟩ := ih p
      dsimp only at htraced hstored ⊢
      rw [Function.update_apply]
      cases hstep with
      | trace color fb hcolor =>
        split_ifs
        · exact ⟨fun color' h => Thread.traced.inj h ▸ hcolor, False.elim⟩
        · exact ⟨htraced, hstored⟩
      | store color fb bgra hbgra =>
        obtain rfl := hq color rfl
        rw [hbgra _ make_bgra_black, Function.update_apply]
        split_ifs with hpq hofs hofs
        · exact ⟨fun _ => False.elim, fun _ => rfl⟩
        · exact absurd (by rw [hpq]) hofs
        · exact ⟨htraced, fun _ => rfl⟩
        · exact ⟨htraced, hstored⟩
  exact (hinv _ hrun p).2 (hreturned p)

/-- **A launch leaves the picture**, whatever it shows, if and only if the picture has at most
`2^31` pixels. -/
theorem frameBuffer_iff (height width : ℕ) :
    (∀ shade fb fb', Launch shade height width fb fb' → Shows shade height width fb fb') ↔
      height * width ≤ 2 ^ 31 := by
  constructor
  · intro hall
    by_contra hsize
    have hwidth : 0 < width := by
      rcases Nat.eq_zero_or_pos width with rfl | hpos
      · simp at hsize
      · exact hpos
    -- the pixel whose offset is the first that an `int` cannot hold
    have hrow : 2 ^ 31 / width < height := (Nat.div_lt_iff_lt_mul hwidth).mpr (not_le.mp hsize)
    let p : Pixel height width := (⟨2 ^ 31 / width, hrow⟩, ⟨2 ^ 31 % width, Nat.mod_lt _ hwidth⟩)
    have hofs : fbOfs width p.2 p.1 = -2 ^ 31 := by
      have hsum : (p.2 : ℕ) + width * (p.1 : ℕ) = 2 ^ 31 := Nat.mod_add_div _ _
      have hbmod : Int.bmod ((2 ^ 31 : ℕ) : ℤ) (2 ^ 32) = -2 ^ 31 := by norm_num [Int.bmod]
      rw [← hbmod, ← hsum]
      exact Eq.refl (fbOfs width p.2 p.1)
    obtain ⟨fb', hlaunch⟩ := exists_launch height width fun _ => 0
    have hblack := hlaunch.black p
    have hother : ∀ x < width, ∀ y < height, (-2 ^ 31 : ℤ) ≠ x + width * y := fun x _ y _ => by
      have hpos : (0 : ℤ) ≤ width * y := mul_nonneg (Int.natCast_nonneg _) (Int.natCast_nonneg _)
      omega
    have hzero := (hall _ _ _ hlaunch).other _ hother
    rw [hofs, hzero] at hblack
    exact absurd hblack (by decide)
  · exact fun hsize _ _ _ h => h.shows hsize

end Vulkanite.Samples
