/-
# Accels and the SBT allocator over whole runs

`Accel::Accel` asks for SBT entries only if the accel has some, and else begins at -1.
`Accel::~Accel` has no such case: it releases the range in any event, and the range of
an accel without entries is the empty one at `(size_t)-1`.  Nothing merges with it and
`alloc` never takes it, so it stays on the list of freed ranges
(`emptyRange_mem_release`, `mem_release_of_last_le`, `mem_alloc`).

A trace labels every step that destroys an accel with the number of its entries.
Without a label 0 the allocator stays canonical, and is as new once all accels are
gone; after a label 0 it never is again (`accels_balanced_iff`).
-/
import Vulkanite.ContextRuns
import Vulkanite.Lib.Traces

namespace Vulkanite

/-! ## The range that is never used -/

/-- What the destructor of an accel without entries releases. -/
def emptyRange : FreedRange := ⟨sizeOfInt (-1), 0⟩

theorem emptyRange_begin : emptyRange.begin.toNat = 2 ^ 64 - 1 := toNat_sizeOfInt_neg_one

theorem emptyRange_last : emptyRange.last = 2 ^ 64 - 1 := toNat_sizeOfInt_neg_one

namespace RangeAllocator

variable {a : RangeAllocator} {p r m : FreedRange}

/-- Every freed range that is not empty ends within `int`. -/
theorem WellFormed.last_le (hw : a.WellFormed) (hr : r ∈ a.freedRanges)
    (hpos : 0 < r.size.toNat) : r.last ≤ intMax := by
  have hbelow := hw.below r hr (r.last - 1) (by unfold FreedRange.Covers FreedRange.last; omega)
  have hmax := hw.max_le
  omega

/-- Freed ranges do not wrap, and end within `int` unless they are empty. -/
def Low (rs : List FreedRange) : Prop :=
  ∀ r ∈ rs, r.last < 2 ^ 64 ∧ (0 < r.size.toNat → r.last ≤ intMax)

theorem WellFormed.low (hw : a.WellFormed) : Low a.freedRanges :=
  fun r hr => ⟨hw.noWrap r hr, hw.last_le hr⟩

/-- Merging with a low range ends where the last of the two ends. -/
theorem Merges.last_le (h : Merges p r m) (hp : p.last ≤ intMax) (hlast : r.last < 2 ^ 64)
    (hlow : 0 < r.size.toNat → r.last ≤ intMax) : m.last ≤ intMax := by
  have hp' : p.last < 2 ^ 64 := by
    unfold intMax at hp
    omega
  obtain ⟨hsize, hbegin⟩ := h.toNat hp' hlast
  unfold FreedRange.last at *
  omega

/-- A range within `int` does not merge with the empty one. -/
theorem Merges.ne_emptyRange (h : Merges p r m) (hp : p.last ≤ intMax) : r ≠ emptyRange := by
  rintro rfl
  have hbegin := emptyRange_begin
  have hlast := emptyRange_last
  unfold intMax at hp
  obtain ⟨-, hadj⟩ := h.toNat (by omega) (by omega)
  unfold FreedRange.last at *
  omega

/-- Merging the empty range gives the empty range. -/
theorem Merges.eq_emptyRange (h : Merges emptyRange r m) (hlast : r.last < 2 ^ 64)
    (hlow : 0 < r.size.toNat → r.last ≤ intMax) : m = emptyRange := by
  have hsize : r.size = 0 := by
    rw [← UInt64.toNat_inj, UInt64.toNat_zero]
    by_contra hne
    have hle := hlow (Nat.pos_of_ne_zero hne)
    have hbegin := emptyRange_begin
    have hend := emptyRange_last
    obtain ⟨-, hadj⟩ := h.toNat (by omega) hlast
    unfold intMax at hle
    unfold FreedRange.last at *
    omega
  rcases h with ⟨-, rfl⟩ | ⟨-, rfl⟩
  · rw [hsize, UInt64.sub_zero, UInt64.add_zero]
  · rw [hsize, UInt64.add_zero]

/-- Merging leaves a part of the freed ranges. -/
theorem Low.of_merge {rs rs' rest : List FreedRange} (hlow : Low rs) (hperm : rs.Perm (r :: rest))
    (hperm' : rs'.Perm rest) : Low rs' := fun q hq =>
  hlow q (hperm.mem_iff.mpr (List.mem_cons_of_mem _ (hperm'.mem_iff.mp hq)))

/-- **Releasing the empty range puts it on the list.** -/
theorem emptyRange_mem_release (hlow : Low a.freedRanges) (hmax : a.maxAllocedID.toNat ≤ intMax) :
    emptyRange ∈ (a.release emptyRange.begin emptyRange.size).freedRanges := by
  obtain ⟨top, rs⟩ := a
  refine release_induction (motive := fun rs p a' =>
    Low rs → p = emptyRange → emptyRange ∈ a'.freedRanges) ?_ ?_ ?_ rs emptyRange hlow rfl
  · rintro rs _ r rest rs' m a' hperm hperm' hm ih hlow rfl
    have hr := hlow r (hperm.mem_iff.mpr List.mem_cons_self)
    exact ih (hlow.of_merge hperm hperm') (hm.eq_emptyRange hr.1 hr.2)
  · -- the empty range ends above the top
    rintro rs _ - htop - rfl
    have hend := FreedRange.toNat_end (r := emptyRange) (by rw [emptyRange_last]; decide)
    rw [htop, emptyRange_last] at hend
    unfold intMax at hmax
    simp only at hmax
    omega
  · rintro rs _ - - - rfl
    exact List.mem_append_right _ (List.mem_singleton_self _)

/-- **Releasing a range within `int` leaves it there.** -/
theorem mem_release_of_last_le (hlow : Low a.freedRanges) (hp : p.last ≤ intMax)
    (hmem : emptyRange ∈ a.freedRanges) :
    emptyRange ∈ (a.release p.begin p.size).freedRanges := by
  obtain ⟨top, rs⟩ := a
  refine release_induction (motive := fun rs p a' => Low rs → p.last ≤ intMax → emptyRange ∈ rs →
    emptyRange ∈ a'.freedRanges) ?_ ?_ ?_ rs p hlow hp hmem
  · intro rs p r rest rs' m a' hperm hperm' hm ih hlow hp hmem
    have hr := hlow r (hperm.mem_iff.mpr List.mem_cons_self)
    refine ih (hlow.of_merge hperm hperm') (hm.last_le hp hr.1 hr.2) ?_
    rcases List.mem_cons.mp (hperm.mem_iff.mp hmem) with heq | hrest
    · exact absurd heq.symm (hm.ne_emptyRange hp)
    · exact hperm'.mem_iff.mpr hrest
  · intro rs p _ _ _ _ hmem
    exact hmem
  · intro rs p _ _ _ _ hmem
    exact List.mem_append_left _ hmem

/-- **`alloc` leaves it there**: it is too small for every request. -/
theorem mem_alloc {size : UInt64} (hpos : 1 ≤ size.toNat) (hmem : emptyRange ∈ a.freedRanges) :
    emptyRange ∈ (a.alloc size).2.freedRanges := by
  unfold alloc
  cases htake : takeFirst size a.freedRanges with
  | none => exact hmem
  | some q =>
    obtain ⟨begin, rs'⟩ := q
    obtain ⟨r, rest, hperm, -, hsize, hcase⟩ := takeFirst_eq_some htake
    have hrest : emptyRange ∈ rest := by
      rcases List.mem_cons.mp (hperm.mem_iff.mp hmem) with heq | hrest
      · rw [← heq, emptyRange, UInt64.toNat_zero] at hsize
        omega
      · exact hrest
    rcases hcase with ⟨-, hp⟩ | ⟨-, hp⟩
    · exact hp.mem_iff.mpr hrest
    · exact hp.mem_iff.mpr (List.mem_cons_of_mem _ hrest)

end RangeAllocator

/-! ## Runs -/

namespace Context

/-- One operation on a context, labelled with the number of entries of the accel that it
destroys, if it destroys one. -/
inductive AccelStep : Option UInt64 → Context → Context → Prop
  | other (op : Op) (c c' : Context) (hgeom : op ≠ .deleteGeomAccel)
      (hinst : op ≠ .deleteInstanceAccel) (h : Step op c c') : AccelStep none c c'
  | deleteGeomAccel (c : Context) (o : GeomAccel) (a : Ptr) (ho : c.heap .geomAccel a = some o)
      (ha : c.Unowned .geomAccel a) :
      AccelStep (some o.sbtEntryCount) c (c.deleteGeomAccel o a)
  | deleteInstanceAccel (c : Context) (o : InstanceAccel) (a : Ptr)
      (ho : c.heap .instanceAccel a = some o) :
      AccelStep (some o.sbtEntryCount) c (c.deleteInstanceAccel o a)

/-- A run of a new context, with its labels. -/
def AccelRun (properties : PipelineProperties) : List (Option UInt64) → Context → Prop :=
  Trace AccelStep { rtPipeline := { properties } }

/-- No accel is alive. -/
def NoAccels (c : Context) : Prop :=
  (∀ p, c.heap .geomAccel p = none) ∧ ∀ p, c.heap .instanceAccel p = none

/-- Every freed range is nonempty and lies in the table, and without accels the
allocator is in its initial state. -/
def Balanced (c : Context) : Prop :=
  (∀ r ∈ c.sbtRangeAllocator.freedRanges,
      0 < r.size.toNat ∧ r.last ≤ c.sbtRangeAllocator.maxAllocedID.toNat) ∧
    (c.NoAccels → c.sbtRangeAllocator = {})

/-! ## What a step does to the allocator -/

/-- The allocator after a step: as before, or after an `alloc`, or after the release of
the range of an accel. -/
inductive AllocatorStep : Option UInt64 → RangeAllocator → RangeAllocator → Prop
  | same (a : RangeAllocator) : AllocatorStep none a a
  | alloc (a : RangeAllocator) (n : UInt64) (hpos : 1 ≤ n.toNat) (hint : a.StaysInInt n) :
      AllocatorStep none a (a.alloc n).2
  | release (a : RangeAllocator) (b : ℤ) (n : UInt64)
      (hshape : (b = -1 ∧ n = 0) ∨
        (1 ≤ n.toNat ∧ FreedRange.last ⟨sizeOfInt b, n⟩ ≤ a.maxAllocedID.toNat))
      (hlive : ∀ i, FreedRange.Covers ⟨sizeOfInt b, n⟩ i → ¬ a.Free i) :
      AllocatorStep (some n) a (a.release (sizeOfInt b) n)

/-- `Accel::Accel`. -/
theorem allocatorStep_allocEntries {a : RangeAllocator} {n : UInt64}
    (hint : n ≠ 0 → a.StaysInInt n) : AllocatorStep none a (allocEntries a n).2 := by
  unfold allocEntries
  split_ifs with hn
  · exact .same a
  · refine .alloc a n ?_ (hint hn)
    have hne : n.toNat ≠ 0 := fun hz => hn (UInt64.toNat_inj.mp hz)
    omega

/-- `Accel::~Accel`. -/
theorem allocatorStep_release {a : RangeAllocator} {ι : Type*} [DecidableEq ι]
    {range : ι → Option (ℤ × UInt64)} (h : Entries a range) {x : ι} {b : ℤ} {n : UInt64}
    (hx : range x = some (b, n)) : AllocatorStep (some n) a (a.release (sizeOfInt b) n) := by
  obtain ⟨hlast, hcov⟩ := h.released_range hx
  refine .release a b n ?_ fun i hi => (h.owned_iff i).mp ⟨x, (hcov i).mp hi⟩
  rcases h.shape x b n hx with hempty | ⟨hb, hn⟩
  · exact Or.inl hempty
  · have hend := h.end_le hx hb hn
    have hmax := h.wellFormed.max_le
    unfold intMax at hmax
    refine Or.inr ⟨hn, ?_⟩
    obtain ⟨k, rfl⟩ := Int.eq_ofNat_of_zero_le hb
    unfold FreedRange.last
    simp only
    rw [toNat_sizeOfInt_natCast (by omega)]
    omega

theorem get_sbtRangeAllocator (c : Context) (m : Ptr) (mod : ShaderModule) (entryPoint : String)
    (stage : ShaderStage) (q : Ptr) :
    (c.get m mod entryPoint stage q).2.sbtRangeAllocator = c.sbtRangeAllocator := by
  unfold get
  cases mod.programs entryPoint with
  | none => rfl
  | some _ => rfl

/-- **Every step** is one of these. -/
theorem AccelStep.allocatorStep {l : Option UInt64} {c c' : Context} (hstep : AccelStep l c c')
    (h : c.Invariant) : AllocatorStep l c.sbtRangeAllocator c'.sbtRangeAllocator := by
  cases hstep with
  | other op _ _ hgeom hinst hop =>
    cases hop with
    | newGeomAccel _ geoms a hgeoms halloc ha => exact allocatorStep_allocEntries halloc.2
    | newInstanceAccel _ accels a haccels halloc ha => exact allocatorStep_allocEntries halloc.2
    | deleteGeomAccel => exact absurd rfl hgeom
    | deleteInstanceAccel => exact absurd rfl hinst
    | newProgType _ k m mod entryPoint dataSize q t hm hq ht =>
      rw [show ((c.get m mod entryPoint k.stage q).2.newProgType k
        (c.get m mod entryPoint k.stage q).1 dataSize t).sbtRangeAllocator =
          (c.get m mod entryPoint k.stage q).2.sbtRangeAllocator from rfl, get_sbtRangeAllocator]
      exact .same _
    | setHitProg _ t gt role m mod entryPoint q ht hm hq =>
      rw [show ((c.get m mod entryPoint role.stage q).2.setHitProg gt role
        (c.get m mod entryPoint role.stage q).1 t).sbtRangeAllocator =
          (c.get m mod entryPoint role.stage q).2.sbtRangeAllocator from rfl,
        get_sbtRangeAllocator]
      exact .same _
    | build _ c₁ stages groups handles hrun _ =>
      have hsame : c₁.sbtRangeAllocator = c.sbtRangeAllocator := by
        have hsnd : c.gatherPrograms.2 = c₁ := congrArg Prod.snd hrun
        rw [← hsnd]
        rfl
      rw [show (c₁.finishBuild stages groups handles).sbtRangeAllocator =
        c₁.sbtRangeAllocator from rfl, hsame]
      exact .same _
    | _ => exact .same _
  | deleteGeomAccel _ o a ho _ =>
    exact allocatorStep_release h.entries (x := (.geomAccel, a)) (by simp [accelRange, ho])
  | deleteInstanceAccel _ o a ho =>
    exact allocatorStep_release h.entries (x := (.instanceAccel, a)) (by simp [accelRange, ho])

section AllocatorStep

variable {l : Option UInt64} {a a' : RangeAllocator}

/-- Only the destruction of an accel without entries can leave a canonical state. -/
theorem AllocatorStep.canonical (hstep : AllocatorStep l a a') (hw : a.WellFormed)
    (hl : l ≠ some 0) (hc : a.Canonical) : a'.Canonical := by
  cases hstep with
  | same => exact hc
  | alloc _ n hpos hint =>
    obtain ⟨b, -, htakes⟩ := RangeAllocator.alloc_spec hw hpos hint
    exact htakes.canonical hc
  | release _ b n hshape hlive =>
    rcases hshape with ⟨-, rfl⟩ | ⟨hn, hlast⟩
    · exact absurd rfl hl
    · have hmax := hw.max_le
      unfold intMax at hmax
      have hgives := RangeAllocator.release_spec (p := ⟨sizeOfInt b, n⟩) hw (by omega) hlive
      exact hgives.canonical hc hn

/-- The empty range stays. -/
theorem AllocatorStep.mem (hstep : AllocatorStep l a a') (hw : a.WellFormed)
    (hmem : emptyRange ∈ a.freedRanges) : emptyRange ∈ a'.freedRanges := by
  cases hstep with
  | same => exact hmem
  | alloc _ n hpos _ => exact RangeAllocator.mem_alloc hpos hmem
  | release _ b n hshape _ =>
    rcases hshape with ⟨rfl, rfl⟩ | ⟨-, hlast⟩
    · exact RangeAllocator.emptyRange_mem_release hw.low hw.max_le
    · exact RangeAllocator.mem_release_of_last_le (p := ⟨sizeOfInt b, n⟩) hw.low
        (hlast.trans hw.max_le) hmem

/-- The destruction of an accel without entries brings it. -/
theorem AllocatorStep.emptyRange_mem (hstep : AllocatorStep (some 0) a a') (hw : a.WellFormed) :
    emptyRange ∈ a'.freedRanges := by
  cases hstep with
  | release _ b _ hshape _ =>
    rcases hshape with ⟨rfl, -⟩ | ⟨hn, -⟩
    · exact RangeAllocator.emptyRange_mem_release hw.low hw.max_le
    · rw [UInt64.toNat_zero] at hn
      omega

end AllocatorStep

/-! ## Whole runs -/

section Runs

variable {properties : PipelineProperties} {ls : List (Option UInt64)} {c : Context}

theorem AccelStep.exists_step {l : Option UInt64} {c c' : Context} (h : AccelStep l c c') :
    ∃ op, Step op c c' := by
  cases h with
  | other op _ _ _ _ hop => exact ⟨op, hop⟩
  | deleteGeomAccel _ o a ho ha => exact ⟨_, .deleteGeomAccel c o a ho ha⟩
  | deleteInstanceAccel _ o a ho => exact ⟨_, .deleteInstanceAccel c o a ho⟩

theorem AccelRun.invariant (h : AccelRun properties ls c) : c.Invariant := by
  refine Trace.invariant h (invariant_init properties) fun l c₁ c₂ hstep hinv => ?_
  obtain ⟨op, hop⟩ := hstep.exists_step
  exact hop.invariant hinv

/-- **Run lemma**: without such a destruction the allocator stays canonical. -/
theorem AccelRun.canonical (h : AccelRun properties ls c) (hno : some 0 ∉ ls) :
    c.sbtRangeAllocator.Canonical := by
  have hallowed : ∀ l ∈ ls, l ≠ some 0 := fun l hl heq => hno (heq ▸ hl)
  have hboth : c.Invariant ∧ c.sbtRangeAllocator.Canonical := by
    refine Trace.preserves (P := fun c => c.Invariant ∧ c.sbtRangeAllocator.Canonical) h hallowed
      ⟨invariant_init properties, RangeAllocator.canonical_init⟩ ?_
    rintro l c₁ c₂ hl hstep ⟨hinv, hc⟩
    obtain ⟨op, hop⟩ := hstep.exists_step
    exact ⟨hop.invariant hinv,
      (hstep.allocatorStep hinv).canonical hinv.entries.wellFormed hl hc⟩
  exact hboth.2

/-- **Run lemma**: after such a destruction the empty range is on the list for good. -/
theorem AccelRun.emptyRange_mem (h : AccelRun properties ls c) (hmem : some 0 ∈ ls) :
    emptyRange ∈ c.sbtRangeAllocator.freedRanges := by
  induction h with
  | nil => cases hmem
  | snoc htrace hstep ih =>
    have hinv := AccelRun.invariant htrace
    have hallocator := hstep.allocatorStep hinv
    rcases List.mem_append.mp hmem with hbefore | hlast
    · exact hallocator.mem hinv.entries.wellFormed (ih hbefore)
    · rw [List.mem_singleton] at hlast
      subst hlast
      exact hallocator.emptyRange_mem hinv.entries.wellFormed

/-- Without accels every entry is free. -/
theorem Invariant.free_of_noAccels (h : c.Invariant) (hnone : c.NoAccels) (i : ℕ) :
    c.sbtRangeAllocator.Free i := by
  by_contra hi
  obtain ⟨⟨k, p⟩, b, n, hrange, -⟩ := (h.entries.owned_iff i).mpr hi
  cases k with
  | geomAccel => simp [accelRange, hnone.1 p] at hrange
  | instanceAccel => simp [accelRange, hnone.2 p] at hrange
  | _ => cases hrange

/-- A canonical allocator all of whose entries are free is a new one. -/
theorem eq_init_of_free {a : RangeAllocator} (hw : a.WellFormed) (hc : a.Canonical)
    (hfree : ∀ i, a.Free i) : a = {} := by
  have hlast : ∀ r ∈ a.freedRanges, r.last ≤ a.maxAllocedID.toNat := by
    intro r hr
    have hpos := hc.nonempty r hr
    have hbelow := hw.below r hr (r.last - 1) (by unfold FreedRange.Covers FreedRange.last; omega)
    omega
  have hmax : a.maxAllocedID.toNat = 0 := by
    by_contra hne
    -- the freed range with the topmost entry would end at the top
    rcases hfree (a.maxAllocedID.toNat - 1) with htop | ⟨r, hr, hcov⟩
    · omega
    · have hle := hlast r hr
      have hnot := hc.notTop r hr
      unfold FreedRange.Covers at hcov
      omega
  have hnil : a.freedRanges = [] := by
    rw [List.eq_nil_iff_forall_not_mem]
    intro r hr
    have hpos := hc.nonempty r hr
    have hle := hlast r hr
    unfold FreedRange.last at hle
    omega
  obtain ⟨top, rs⟩ := a
  obtain rfl : top = 0 := UInt64.toNat_inj.mp hmax
  obtain rfl : rs = [] := hnil
  rfl

theorem balanced_of_canonical (h : c.Invariant) (hc : c.sbtRangeAllocator.Canonical) :
    c.Balanced := by
  refine ⟨fun r hr => ⟨hc.nonempty r hr, ?_⟩, fun hnone => ?_⟩
  · have hpos := hc.nonempty r hr
    have hbelow := h.entries.wellFormed.below r hr (r.last - 1)
      (by unfold FreedRange.Covers FreedRange.last; omega)
    omega
  · exact eq_init_of_free h.entries.wellFormed hc (h.free_of_noAccels hnone)

/-- **When accels are balanced on the allocator**: in every run, in exactly the states
before an accel without entries is destroyed for the first time. -/
theorem accels_balanced_iff (properties : PipelineProperties) (ls : List (Option UInt64))
    (c : Context) (h : AccelRun properties ls c) : c.Balanced ↔ some 0 ∉ ls := by
  constructor
  · rintro ⟨hranges, -⟩ hmem
    have hpos := (hranges emptyRange (h.emptyRange_mem hmem)).1
    rw [emptyRange, UInt64.toNat_zero] at hpos
    omega
  · intro hno
    exact balanced_of_canonical h.invariant (h.canonical hno)

/-- A new context. -/
def newContext : Context := { rtPipeline := { properties := sampleProperties } }

/-- The instance accel of a new context over these (null) accels. -/
def firstInstanceAccel (accels : List (Option Ptr)) : InstanceAccel where
  accels
  sbtEntryBegin := (allocEntries {} (UInt64.ofNat accels.length)).1
  sbtEntryCount := UInt64.ofNat accels.length

/-- The context after it was made and destroyed again. -/
def newAndDeleted (accels : List (Option Ptr)) : Context :=
  (newContext.newInstanceAccel accels 1).deleteInstanceAccel (firstInstanceAccel accels) 1

theorem accelRun_newAndDeleted (accels : List (Option Ptr)) (hnull : ∀ g, some g ∉ accels)
    (halloc : newContext.CanAllocEntries accels.length) :
    AccelRun sampleProperties [none, some (UInt64.ofNat accels.length)]
      (newAndDeleted accels) := by
  have hnew : AccelStep none newContext (newContext.newInstanceAccel accels 1) := by
    refine .other .newInstanceAccel _ _ (by decide) (by decide)
      (.newInstanceAccel newContext accels 1 (fun g hg => absurd hg (hnull g)) halloc rfl)
  exact (Trace.single hnew).snoc (.deleteInstanceAccel _ (firstInstanceAccel accels) 1 rfl)

/-- An accel with one entry leaves the allocator as new. -/
theorem accels_balanced_iff_newAndDeleted : (newAndDeleted [none]).Balanced := by
  have hrun : AccelRun sampleProperties [none, some 1] (newAndDeleted [none]) :=
    accelRun_newAndDeleted [none] (by simp) ⟨by decide, fun _ _ => by decide⟩
  exact (accels_balanced_iff sampleProperties [none, some 1] (newAndDeleted [none]) hrun).mpr
    (by decide)

/-- An accel without entries does not: no accel is alive, and the table of freed ranges
has an empty one outside the table. -/
theorem newAndDeleted_not_balanced :
    AccelRun sampleProperties [none, some 0] (newAndDeleted []) ∧
      (newAndDeleted []).NoAccels ∧
      (newAndDeleted []).sbtRangeAllocator.freedRanges = [⟨0xffffffffffffffff, 0⟩] ∧
      ¬ (newAndDeleted []).Balanced := by
  have hrun : AccelRun sampleProperties [none, some 0] (newAndDeleted []) :=
    accelRun_newAndDeleted [] (by simp) ⟨by decide, fun h => absurd rfl h⟩
  have hranges : (newAndDeleted []).sbtRangeAllocator.freedRanges =
      [⟨0xffffffffffffffff, 0⟩] := by
    show (RangeAllocator.release {} (sizeOfInt (-1)) 0).freedRanges = _
    rw [RangeAllocator.release]
    decide
  refine ⟨hrun, ⟨fun _ => rfl, fun p => ?_⟩, hranges, ?_⟩
  · show TypedHeap.set (newContext.newInstanceAccel [] 1).heap ObjectKind.instanceAccel 1 none
      ObjectKind.instanceAccel p = none
    rw [TypedHeap.set_apply]
    split_ifs with hp
    · rfl
    · exact TypedHeap.set_of_ptr_ne newContext.heap .instanceAccel _ hp
  · rintro ⟨hpos, -⟩
    rw [hranges] at hpos
    exact absurd (hpos _ (List.mem_singleton_self _)).1 (by decide)

end Runs

end Context

end Vulkanite
