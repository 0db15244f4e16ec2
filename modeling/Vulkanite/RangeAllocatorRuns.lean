/-
# Runs of the SBT range allocator

A run alternates `alloc` and `release` in any order; its state is the allocator
together with the ranges handed out and not yet released.  The invariant
(`AllocatorRun.Invariant`) says that the live ranges own exactly the indices
that are not free, each index once.  `alloc_spec` and `release_spec` make it an
invariant; the two accounts of the allocator follow from it: the live and the
freed ranges partition the table, and its state is determined by the set of
live indices.
-/
import Mathlib.Logic.Relation
import Vulkanite.RangeAllocator
import Vulkanite.Lib.MaximalRuns

namespace Vulkanite

/-! ## Runs -/

/-- A range an `alloc` returned: its begin, as the `int` the caller keeps, and the
number of entries asked for. -/
structure LiveRange where
  begin : ℤ
  size : UInt64
  deriving DecidableEq, Repr

/-- The allocator and the live ranges. -/
structure AllocatorRun where
  allocator : RangeAllocator := {}
  live : List LiveRange := []
  deriving DecidableEq

/-- The live range contains the index `i`. -/
def LiveRange.Covers (l : LiveRange) (i : ℕ) : Prop :=
  l.begin ≤ i ∧ (i : ℤ) < l.begin + l.size.toNat

instance (l : LiveRange) (i : ℕ) : Decidable (l.Covers i) := instDecidableAnd

instance (r : FreedRange) (i : ℕ) : Decidable (r.Covers i) := instDecidableAnd

namespace AllocatorRun

/-- One call.  `alloc` asks for at least one entry and stays within `int`;
`release` names a live range. -/
inductive Step : AllocatorRun → AllocatorRun → Prop
  | alloc (s : AllocatorRun) (n : UInt64) (hpos : 1 ≤ n.toNat)
      (hint : s.allocator.StaysInInt n) :
      Step s ⟨(s.allocator.alloc n).2, ⟨(s.allocator.alloc n).1, n⟩ :: s.live⟩
  | release (s : AllocatorRun) (l : LiveRange) (hl : l ∈ s.live) :
      Step s ⟨s.allocator.release (sizeOfInt l.begin) l.size, s.live.erase l⟩

/-- The states of the runs that start with an empty table. -/
def Reachable (s : AllocatorRun) : Prop := Relation.ReflTransGen Step {} s

/-- The index `i` belongs to a live range. -/
def LiveAt (s : AllocatorRun) (i : ℕ) : Prop := ∃ l ∈ s.live, l.Covers i

/-- The live ranges are nonempty, begin at a natural number, do not overlap, and
own exactly the indices that are not free. -/
structure Invariant (s : AllocatorRun) : Prop where
  wellFormed : s.allocator.WellFormed
  canonical : s.allocator.Canonical
  begin_nonneg : ∀ l ∈ s.live, 0 ≤ l.begin
  size_pos : ∀ l ∈ s.live, 1 ≤ l.size.toNat
  apart : s.live.Pairwise fun l l' => ∀ i, l.Covers i → ¬ l'.Covers i
  live_iff : ∀ i, s.LiveAt i ↔ ¬ s.allocator.Free i

theorem invariant_init : Invariant {} where
  wellFormed := RangeAllocator.wellFormed_init
  canonical := RangeAllocator.canonical_init
  begin_nonneg := by simp
  size_pos := by simp
  apart := List.Pairwise.nil
  live_iff := fun i => by simp [LiveAt, RangeAllocator.Free]

/-- Only the indices below `maxAllocedID` are live. -/
theorem Invariant.lt_max {s : AllocatorRun} (h : s.Invariant) {i : ℕ} (hi : s.LiveAt i) :
    i < s.allocator.maxAllocedID.toNat :=
  Nat.lt_of_not_le fun hle => (h.live_iff i).mp hi (Or.inl hle)

/-- A live range begins within `int` and ends at or below `maxAllocedID`. -/
theorem Invariant.end_le {s : AllocatorRun} (h : s.Invariant) {l : LiveRange} (hl : l ∈ s.live) :
    l.begin + l.size.toNat ≤ s.allocator.maxAllocedID.toNat := by
  have hnonneg := h.begin_nonneg l hl
  have hpos := h.size_pos l hl
  have hlt := h.lt_max (i := (l.begin + l.size.toNat - 1).toNat)
    ⟨l, hl, by unfold LiveRange.Covers; omega⟩
  omega

/-! ## The invariant is preserved -/

theorem Invariant.alloc {s : AllocatorRun} (h : s.Invariant) {n : UInt64} (hpos : 1 ≤ n.toNat)
    (hint : s.allocator.StaysInInt n) :
    Invariant ⟨(s.allocator.alloc n).2, ⟨(s.allocator.alloc n).1, n⟩ :: s.live⟩ := by
  obtain ⟨b, hb, htakes⟩ := RangeAllocator.alloc_spec h.wellFormed hpos hint
  have hcov : ∀ i, LiveRange.Covers ⟨b, n⟩ i ↔ b ≤ i ∧ i < b + n.toNat := by
    intro i
    simp only [LiveRange.Covers]
    omega
  rw [hb]
  refine ⟨htakes.wellFormed, htakes.canonical h.canonical,
    List.forall_mem_cons.mpr ⟨Int.natCast_nonneg b, h.begin_nonneg⟩,
    List.forall_mem_cons.mpr ⟨hpos, h.size_pos⟩, List.pairwise_cons.mpr ⟨?_, h.apart⟩, ?_⟩
  · -- the new range was free, the live ranges are not
    intro l hl i hi hi'
    rw [hcov] at hi
    exact (h.live_iff i).mp ⟨l, hl, hi'⟩ (htakes.were_free i hi.1 hi.2)
  · intro i
    rw [← htakes.owned_iff h.live_iff]
    simp only [LiveAt, List.exists_mem_cons_iff, hcov]

theorem Invariant.release {s : AllocatorRun} (h : s.Invariant) {l : LiveRange}
    (hl : l ∈ s.live) :
    Invariant ⟨s.allocator.release (sizeOfInt l.begin) l.size, s.live.erase l⟩ := by
  obtain ⟨b, hb⟩ := Int.eq_ofNat_of_zero_le (h.begin_nonneg l hl)
  have hend := h.end_le hl
  have hmax := h.wellFormed.max_le
  have hb' : (sizeOfInt l.begin).toNat = b := by
    rw [hb]
    apply toNat_sizeOfInt_natCast
    unfold intMax at hmax
    omega
  have hperm := List.perm_cons_erase hl
  have hap := (hperm.pairwise_iff fun hab i hi hi' => hab i hi' hi).mp h.apart
  have hcov : ∀ i, FreedRange.Covers ⟨sizeOfInt l.begin, l.size⟩ i ↔ l.Covers i := by
    intro i
    unfold FreedRange.Covers FreedRange.last LiveRange.Covers
    simp only [hb']
    omega
  have hgives := RangeAllocator.release_spec (p := ⟨sizeOfInt l.begin, l.size⟩) h.wellFormed
    (by unfold FreedRange.last intMax at *; simp only [hb']; omega)
    (fun i hi => (h.live_iff i).mp ⟨l, hl, (hcov i).mp hi⟩)
  have hsub : ∀ l' ∈ s.live.erase l, l' ∈ s.live := fun l' => List.mem_of_mem_erase
  refine ⟨hgives.wellFormed, hgives.canonical h.canonical (h.size_pos l hl),
    fun l' hl' => h.begin_nonneg l' (hsub l' hl'), fun l' hl' => h.size_pos l' (hsub l' hl'),
    (List.pairwise_cons.mp hap).2, fun i => ?_⟩
  refine hgives.owned_iff (L := fun i => ∃ l' ∈ s.live.erase l, l'.Covers i) (fun j => ?_) ?_ i
  · rw [← h.live_iff, LiveAt]
    simp only [hperm.mem_iff, List.exists_mem_cons_iff, ← hcov]
    rfl
  · rintro j hj ⟨l', hl', hj'⟩
    exact (List.pairwise_cons.mp hap).1 l' hl' j ((hcov j).mp hj) hj'

/-- **The live ranges own the table**, after every step of every run. -/
theorem Reachable.invariant {s : AllocatorRun} (h : s.Reachable) : s.Invariant := by
  induction h with
  | refl => exact invariant_init
  | tail _ hstep ih =>
    cases hstep with
    | alloc n hpos hint => exact ih.alloc hpos hint
    | release l hl => exact ih.release hl

/-- Two ranges handed out, the first of them released again. -/
def sampleRun : AllocatorRun := ⟨⟨5, [⟨0, 2⟩]⟩, [⟨2, 3⟩]⟩

theorem sampleRun_reachable : sampleRun.Reachable := by
  have hrun : sampleRun =
      ⟨RangeAllocator.release ⟨5, []⟩ (sizeOfInt 0) 2, [⟨2, 3⟩, ⟨0, 2⟩].erase ⟨0, 2⟩⟩ := by
    rw [RangeAllocator.release]
    decide
  have h₁ := Step.alloc {} 2 (by decide) fun _ => by decide
  rw [show RangeAllocator.alloc {} 2 = (0, ⟨2, []⟩) by decide] at h₁
  have h₂ := Step.alloc ⟨⟨2, []⟩, [⟨0, 2⟩]⟩ 3 (by decide) fun _ => by decide
  rw [show RangeAllocator.alloc ⟨2, []⟩ 3 = (2, ⟨5, []⟩) by decide] at h₂
  have h₃ := Step.release ⟨⟨5, []⟩, [⟨2, 3⟩, ⟨0, 2⟩]⟩ ⟨0, 2⟩ (by decide)
  rw [hrun]
  exact ((Relation.ReflTransGen.single h₁).tail h₂).tail h₃

/-! ## The live and the freed ranges partition the table -/

/-- Among pairwise exclusive members at most one satisfies the predicate, so if
some member does, exactly one does. -/
theorem countP_eq_one {α : Type*} {p : α → Prop} [DecidablePred p] {xs : List α}
    (hex : ∃ x ∈ xs, p x) (hpair : xs.Pairwise fun x y => ¬ (p x ∧ p y)) :
    xs.countP (fun x => p x) = 1 := by
  induction xs with
  | nil => simp at hex
  | cons x xs ih =>
    rw [List.pairwise_cons] at hpair
    by_cases hx : p x
    · have hnone : xs.countP (fun x => p x) = 0 :=
        List.countP_eq_zero.mpr fun y hy => by simpa using fun hpy => hpair.1 y hy ⟨hx, hpy⟩
      simp [hx, hnone]
    · have hex' : ∃ y ∈ xs, p y := by
        obtain ⟨y, hy, hpy⟩ := hex
        rcases List.mem_cons.mp hy with rfl | hy'
        · exact absurd hpy hx
        · exact ⟨y, hy', hpy⟩
      simp [hx, ih hex' hpair.2]

/-- How many live ranges and freed ranges contain the index `i`. -/
def coverCount (s : AllocatorRun) (i : ℕ) : ℕ :=
  s.live.countP (fun l => l.Covers i) + s.allocator.freedRanges.countP (fun r => r.Covers i)

theorem countP_live_eq_zero {s : AllocatorRun} {i : ℕ} (h : ¬ s.LiveAt i) :
    s.live.countP (fun l => l.Covers i) = 0 :=
  List.countP_eq_zero.mpr fun l hl => by simpa using fun hi => h ⟨l, hl, hi⟩

/-- An index below `maxAllocedID` lies in one range, live or freed. -/
theorem Invariant.coverCount_of_lt {s : AllocatorRun} (h : s.Invariant) {i : ℕ}
    (hi : i < s.allocator.maxAllocedID.toNat) : s.coverCount i = 1 := by
  by_cases hlive : s.LiveAt i
  · have hone : s.live.countP (fun l => l.Covers i) = 1 :=
      countP_eq_one hlive (h.apart.imp fun hap hc => hap i hc.1 hc.2)
    have hzero : s.allocator.freedRanges.countP (fun r => r.Covers i) = 0 :=
      List.countP_eq_zero.mpr fun r hr => by
        simpa using fun hri => (h.live_iff i).mp hlive (Or.inr ⟨r, hr, hri⟩)
    rw [coverCount, hone, hzero]
  · have hfree : s.allocator.Free i := by
      by_contra hn
      exact hlive ((h.live_iff i).mpr hn)
    have hone : s.allocator.freedRanges.countP (fun r => r.Covers i) = 1 :=
      countP_eq_one (hfree.resolve_left (by omega))
        (h.wellFormed.apart.imp fun hap hc => hap i hc.1 hc.2)
    rw [coverCount, countP_live_eq_zero hlive, hone]

/-- No range, live or freed, contains an index from `maxAllocedID` on. -/
theorem Invariant.coverCount_of_ge {s : AllocatorRun} (h : s.Invariant) {i : ℕ}
    (hi : s.allocator.maxAllocedID.toNat ≤ i) : s.coverCount i = 0 := by
  have hlive : ¬ s.LiveAt i := fun hc => (h.live_iff i).mp hc (Or.inl hi)
  have hzero : s.allocator.freedRanges.countP (fun r => r.Covers i) = 0 :=
    List.countP_eq_zero.mpr fun r hr => by
      simpa using fun hri => absurd (h.wellFormed.below r hr i hri) (by omega)
  rw [coverCount, countP_live_eq_zero hlive, hzero]

/-- **No slot is handed out twice.**  After every step of every run the live and
the freed ranges cover each index of the table exactly once and no other index;
so the live ranges do not overlap and end at or below `maxAllocedID`. -/
theorem ranges_partition_table (s : AllocatorRun) (h : s.Reachable) :
    (∀ i, i < s.allocator.maxAllocedID.toNat → s.coverCount i = 1) ∧
      (∀ i, s.allocator.maxAllocedID.toNat ≤ i → s.coverCount i = 0) ∧
      (s.live.Pairwise fun l l' => ∀ i, l.Covers i → ¬ l'.Covers i) ∧
      ∀ l ∈ s.live, l.begin + l.size.toNat ≤ s.allocator.maxAllocedID.toNat :=
  ⟨fun _ => h.invariant.coverCount_of_lt, fun _ => h.invariant.coverCount_of_ge,
    h.invariant.apart, fun _ => h.invariant.end_le⟩

theorem ranges_partition_table_sampleRun :
    (∀ i, i < 5 → sampleRun.coverCount i = 1) ∧ ∀ i, 5 ≤ i → sampleRun.coverCount i = 0 :=
  ⟨(ranges_partition_table sampleRun sampleRun_reachable).1,
    (ranges_partition_table sampleRun sampleRun_reachable).2.1⟩

/-! ## The state is canonical -/

/-- The index `i` is in no live range. -/
def DeadAt (s : AllocatorRun) (i : ℕ) : Prop := ¬ s.LiveAt i

/-- `[b, e)` is a freed range. -/
def Freed (s : AllocatorRun) (p : ℕ × ℕ) : Prop :=
  ∃ r ∈ s.allocator.freedRanges, r.begin.toNat = p.1 ∧ r.last = p.2

/-- The freed ranges are a separated cover of the dead indices below
`maxAllocedID`. -/
theorem Invariant.isSeparatedCover {s : AllocatorRun} (h : s.Invariant) :
    MaximalRuns.IsSeparatedCover s.DeadAt s.allocator.maxAllocedID.toNat s.Freed where
  lt := by
    rintro ⟨_, _⟩ ⟨r, hr, rfl, rfl⟩
    have := h.canonical.nonempty r hr
    simp only [FreedRange.last]
    omega
  le := by
    rintro ⟨_, _⟩ ⟨r, hr, rfl, rfl⟩
    have hne := h.canonical.nonempty r hr
    have := h.wellFormed.below r hr (r.last - 1)
      (by unfold FreedRange.Covers FreedRange.last; omega)
    simp only
    omega
  cover := by
    intro i hi
    rw [DeadAt, h.live_iff, not_not, RangeAllocator.Free, or_iff_right (by omega)]
    constructor
    · rintro ⟨r, hr, hri⟩
      exact ⟨(r.begin.toNat, r.last), ⟨r, hr, rfl, rfl⟩, hri⟩
    · rintro ⟨⟨_, _⟩, ⟨r, hr, rfl, rfl⟩, hri⟩
      exact ⟨r, hr, hri⟩
  disjoint := by
    rintro ⟨_, _⟩ ⟨_, _⟩ ⟨r, hr, rfl, rfl⟩ ⟨r', hr', rfl, rfl⟩ i hi₁ hi₂ hi₁' hi₂'
    by_contra hne
    have hrr : r ≠ r' := fun heq => hne (by rw [heq])
    have hap : r.Apart r' := h.wellFormed.apart.forall hr hr' hrr
    exact hap i ⟨hi₁, hi₂⟩ ⟨hi₁', hi₂'⟩
  separated := by
    rintro ⟨_, _⟩ ⟨_, _⟩ ⟨r, hr, rfl, rfl⟩ ⟨r', hr', rfl, rfl⟩
    exact h.canonical.separated r hr r' hr'

/-- `maxAllocedID` is one past the highest live index. -/
theorem Invariant.liveAt_pred_max {s : AllocatorRun} (h : s.Invariant)
    (hpos : s.allocator.maxAllocedID.toNat ≠ 0) :
    s.LiveAt (s.allocator.maxAllocedID.toNat - 1) := by
  by_contra hdead
  have hcover := h.isSeparatedCover
  obtain ⟨p, hp, hp1, hp2⟩ := (hcover.cover _ (by omega)).mp hdead
  have hple := hcover.le p hp
  obtain ⟨r, hr, -, hlast⟩ := hp
  exact h.canonical.notTop r hr (by omega)

/-- Two states with the same live indices have the same `maxAllocedID`. -/
theorem Invariant.max_eq {s s' : AllocatorRun} (h : s.Invariant) (h' : s'.Invariant)
    (hlive : ∀ i, s.LiveAt i ↔ s'.LiveAt i) :
    s.allocator.maxAllocedID.toNat = s'.allocator.maxAllocedID.toNat := by
  have hle : ∀ {t t' : AllocatorRun}, t.Invariant → t'.Invariant →
      (∀ i, t.LiveAt i → t'.LiveAt i) →
      t.allocator.maxAllocedID.toNat ≤ t'.allocator.maxAllocedID.toNat := by
    intro t t' ht ht' hsub
    by_contra hlt
    have := ht'.lt_max (hsub _ (ht.liveAt_pred_max (by omega)))
    omega
  exact le_antisymm (hle h h' fun i => (hlive i).mp) (hle h' h fun i => (hlive i).mpr)

/-- Two states with the same live indices have the same freed ranges. -/
theorem Invariant.freed_iff {s s' : AllocatorRun} (h : s.Invariant) (h' : s'.Invariant)
    (hlive : ∀ i, s.LiveAt i ↔ s'.LiveAt i) (p : ℕ × ℕ) : s.Freed p ↔ s'.Freed p := by
  have hdead : s.DeadAt = s'.DeadAt := by
    funext i
    exact propext (not_congr (hlive i))
  have hcover := h.isSeparatedCover
  rw [hdead, h.max_eq h' hlive] at hcover
  exact hcover.unique h'.isSeparatedCover p

/-- A freed range is determined by its begin and its end. -/
theorem mem_freedRanges_of_freed_iff {s s' : AllocatorRun} (h : ∀ p, s.Freed p ↔ s'.Freed p)
    {r : FreedRange} (hr : r ∈ s.allocator.freedRanges) : r ∈ s'.allocator.freedRanges := by
  obtain ⟨r', hr', hb, he⟩ := (h (r.begin.toNat, r.last)).mp ⟨r, hr, rfl, rfl⟩
  have hsize : r'.size.toNat = r.size.toNat := by
    unfold FreedRange.last at he
    simp only at hb he
    omega
  obtain ⟨b, n⟩ := r
  obtain ⟨b', n'⟩ := r'
  obtain rfl := UInt64.toNat_inj.mp hb
  obtain rfl := UInt64.toNat_inj.mp hsize
  exact hr'

/-- `alloc` grows the table only if no freed range has room. -/
theorem Invariant.alloc_first_fit {s : AllocatorRun} (h : s.Invariant) {n : UInt64} {b : ℕ}
    (hpos : 1 ≤ n.toNat)
    (hgrow : (s.allocator.alloc n).2.maxAllocedID ≠ s.allocator.maxAllocedID)
    (hb : b + n.toNat ≤ s.allocator.maxAllocedID.toNat) :
    ∃ i, b ≤ i ∧ i < b + n.toNat ∧ s.LiveAt i := by
  by_contra hdead
  push Not at hdead
  obtain ⟨p, ⟨r, hr, hp1, hp2⟩, hpb, hpe⟩ :=
    h.isSeparatedCover.exists_interval_of_run hpos hb hdead
  cases htake : RangeAllocator.takeFirst n s.allocator.freedRanges with
  | some q =>
    simp [RangeAllocator.alloc, htake] at hgrow
  | none =>
    have hsmall := RangeAllocator.takeFirst_eq_none htake r hr
    unfold FreedRange.last at hp2
    omega

/-- **The allocator's state is canonical.**  After every step of every run no
freed range is empty, adjoins another or ends at `maxAllocedID`; `maxAllocedID`
is one past the highest live index and the freed ranges are the maximal runs of
dead indices below it, so both depend on the set of live indices only; and
`alloc` raises `maxAllocedID` only if no run of dead indices is long enough. -/
theorem allocator_canonical (s : AllocatorRun) (h : s.Reachable) :
    (∀ r ∈ s.allocator.freedRanges, 0 < r.size.toNat) ∧
      (∀ r ∈ s.allocator.freedRanges, ∀ r' ∈ s.allocator.freedRanges,
        r.last ≠ r'.begin.toNat) ∧
      (∀ r ∈ s.allocator.freedRanges, r.last ≠ s.allocator.maxAllocedID.toNat) ∧
      ((∀ i, s.LiveAt i → i < s.allocator.maxAllocedID.toNat) ∧
        (s.allocator.maxAllocedID = 0 ∨ s.LiveAt (s.allocator.maxAllocedID.toNat - 1))) ∧
      (∀ b e, s.Freed (b, e) ↔
        MaximalRuns.IsMaximalRun s.DeadAt s.allocator.maxAllocedID.toNat b e) ∧
      (∀ s' : AllocatorRun, s'.Reachable → (∀ i, s.LiveAt i ↔ s'.LiveAt i) →
        s.allocator.maxAllocedID = s'.allocator.maxAllocedID ∧
          ∀ r, r ∈ s.allocator.freedRanges ↔ r ∈ s'.allocator.freedRanges) ∧
      (∀ n : UInt64, 1 ≤ n.toNat →
        (s.allocator.alloc n).2.maxAllocedID ≠ s.allocator.maxAllocedID →
        ∀ b, b + n.toNat ≤ s.allocator.maxAllocedID.toNat →
          ∃ i, b ≤ i ∧ i < b + n.toNat ∧ s.LiveAt i) := by
  have hinv := h.invariant
  refine ⟨hinv.canonical.nonempty, hinv.canonical.separated, hinv.canonical.notTop,
    ⟨fun i => hinv.lt_max, ?_⟩, fun b e => (hinv.isSeparatedCover.isMaximalRun_iff b e).symm,
    fun s' h' hlive => ⟨UInt64.toNat_inj.mp (hinv.max_eq h'.invariant hlive), ?_⟩,
    fun n hpos hgrow b hb => hinv.alloc_first_fit hpos hgrow hb⟩
  · by_cases hz : s.allocator.maxAllocedID.toNat = 0
    · exact Or.inl (UInt64.toNat_inj.mp hz)
    · exact Or.inr (hinv.liveAt_pred_max hz)
  · exact fun r => ⟨mem_freedRanges_of_freed_iff (hinv.freed_iff h'.invariant hlive),
      mem_freedRanges_of_freed_iff fun p => (hinv.freed_iff h'.invariant hlive p).symm⟩

/-- What was released is a maximal run of dead indices. -/
theorem allocator_canonical_sampleRun : MaximalRuns.IsMaximalRun sampleRun.DeadAt 5 0 2 :=
  ((allocator_canonical sampleRun sampleRun_reachable).2.2.2.2.1 0 2).mp
    ⟨⟨0, 2⟩, List.mem_singleton_self _, by decide, by decide⟩

end AllocatorRun

end Vulkanite
