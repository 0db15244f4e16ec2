/-
# The SBT range allocator

`RangeAllocator` (`RangeAllocator.h`, `RangeAllocator.cpp`) hands out ranges of
consecutive SBT entries.  `alloc` takes the first freed range that is large
enough and cuts the request off its front, or else grows `maxAllocedID`.
`release` merges the range with an adjoining freed one and releases the merged
range again; with nothing left to merge, it lowers `maxAllocedID` or records a
new freed range.

What the allocator is for is said by one set, the *free* indices
(`RangeAllocator.Free`): those in a freed range and those from `maxAllocedID`
on.  `alloc_spec` and `release_spec` are the abstract operations on that set: `alloc`
removes an interval of free indices, `release` adds one.  Both keep
`WellFormed`, and `Canonical` (no freed range is empty, adjoins another or ends
at `maxAllocedID`).
-/
import Mathlib.Data.List.Perm.Basic
import Vulkanite.SizeT

namespace Vulkanite

/-- `RangeAllocator::FreedRange`. -/
structure FreedRange where
  begin : UInt64
  size : UInt64
  deriving DecidableEq, Repr

/-- `RangeAllocator`: the freed ranges in list order and the top of the table. -/
structure RangeAllocator where
  maxAllocedID : UInt64 := 0
  freedRanges : List FreedRange := []
  deriving DecidableEq, Repr

namespace FreedRange

/-- One past the last index of the range, as a natural number. -/
def last (r : FreedRange) : ℕ := r.begin.toNat + r.size.toNat

/-- The range contains the index `i`. -/
def Covers (r : FreedRange) (i : ℕ) : Prop := r.begin.toNat ≤ i ∧ i < r.last

/-- No index lies in both ranges. -/
def Apart (r r' : FreedRange) : Prop := ∀ i, r.Covers i → ¬ r'.Covers i

theorem Apart.symm {r r' : FreedRange} (h : r.Apart r') : r'.Apart r :=
  fun i hi hi' => h i hi' hi

instance : Std.Symm Apart := ⟨fun _ _ => Apart.symm⟩

/-- The end computed in `size_t` is the true end unless it wraps. -/
theorem toNat_end {r : FreedRange} (h : r.last < 2 ^ 64) : (r.begin + r.size).toNat = r.last :=
  toNat_add_of_lt h

/-- The range left after cutting `size` entries off the front. -/
def dropFront (r : FreedRange) (size : UInt64) : FreedRange :=
  ⟨r.begin + size, r.size - size⟩

theorem toNat_begin_dropFront {r : FreedRange} {size : UInt64} (hr : r.last < 2 ^ 64)
    (h : size.toNat ≤ r.size.toNat) :
    (r.dropFront size).begin.toNat = r.begin.toNat + size.toNat := by
  unfold last at hr
  exact toNat_add_of_lt (by omega)

theorem toNat_size_dropFront {r : FreedRange} {size : UInt64}
    (h : size.toNat ≤ r.size.toNat) :
    (r.dropFront size).size.toNat = r.size.toNat - size.toNat :=
  UInt64.toNat_sub_of_le _ _ (UInt64.le_iff_toNat_le.mpr h)

theorem last_dropFront {r : FreedRange} {size : UInt64} (hr : r.last < 2 ^ 64)
    (h : size.toNat ≤ r.size.toNat) : (r.dropFront size).last = r.last := by
  unfold last at *
  rw [toNat_begin_dropFront hr h, toNat_size_dropFront h]
  omega

end FreedRange

namespace RangeAllocator

/-! ## `alloc` -/

/-- The loop of `alloc`: the begin of the first range with at least `size`
entries, and the freed ranges once the request is cut off it. -/
def takeFirst (size : UInt64) : List FreedRange → Option (UInt64 × List FreedRange)
  | [] => none
  | r :: rs =>
    if size ≤ r.size then
      if r.size = size then some (r.begin, rs)
      else some (r.begin, r.dropFront size :: rs)
    else (takeFirst size rs).map fun p => (p.1, r :: p.2)

/-- `RangeAllocator::alloc`, with the allocator it leaves. -/
def alloc (a : RangeAllocator) (size : UInt64) : ℤ × RangeAllocator :=
  match takeFirst size a.freedRanges with
  | some (begin, rs) => (intOfSize begin, { a with freedRanges := rs })
  | none => (intOfSize a.maxAllocedID, { a with maxAllocedID := a.maxAllocedID + size })

/-! ## `release` -/

/-- One pass of the loop of `release`: the range merged with the first freed
range that ends where it begins or begins where it ends, and the list without
that freed range. -/
def mergeFirst (begin size : UInt64) :
    List FreedRange → Option (FreedRange × List FreedRange)
  | [] => none
  | r :: rs =>
    if r.begin + r.size = begin then some (⟨begin - r.size, size + r.size⟩, rs)
    else if begin + size = r.begin then some (⟨begin, size + r.size⟩, rs)
    else (mergeFirst begin size rs).map fun p => (p.1, r :: p.2)

/-- Merging uses up one freed range. -/
theorem length_mergeFirst {begin size : UInt64} {rs : List FreedRange}
    {p : FreedRange × List FreedRange} (h : mergeFirst begin size rs = some p) :
    p.2.length < rs.length := by
  induction rs generalizing p with
  | nil => simp [mergeFirst] at h
  | cons r rs ih =>
    rw [mergeFirst] at h
    split_ifs at h
    · obtain rfl := Option.some.inj h
      exact Nat.lt_succ_self _
    · obtain rfl := Option.some.inj h
      exact Nat.lt_succ_self _
    · obtain ⟨q, hq, rfl⟩ := Option.map_eq_some_iff.mp h
      exact Nat.succ_lt_succ (ih hq)

/-- `RangeAllocator::release`. -/
def release (a : RangeAllocator) (begin size : UInt64) : RangeAllocator :=
  match _hm : mergeFirst begin size a.freedRanges with
  -- the loop calls `release` again, with the merged range
  | some (m, rs) => release { a with freedRanges := rs } m.begin m.size
  | none =>
    if begin + size = a.maxAllocedID then { a with maxAllocedID := a.maxAllocedID - size }
    else { a with freedRanges := a.freedRanges ++ [⟨begin, size⟩] }
  termination_by a.freedRanges.length
  decreasing_by exact length_mergeFirst _hm

/-! ## The free indices -/

/-- The index `i` is free: in a freed range, or at or above `maxAllocedID`. -/
def Free (a : RangeAllocator) (i : ℕ) : Prop :=
  a.maxAllocedID.toNat ≤ i ∨ ∃ r ∈ a.freedRanges, r.Covers i

/-- `maxAllocedID` is within `int`, and the freed ranges lie below it and do
not overlap.  Empty freed ranges are allowed anywhere below `2^64`. -/
structure WellFormed (a : RangeAllocator) : Prop where
  max_le : a.maxAllocedID.toNat ≤ intMax
  noWrap : ∀ r ∈ a.freedRanges, r.last < 2 ^ 64
  below : ∀ r ∈ a.freedRanges, ∀ i, r.Covers i → i < a.maxAllocedID.toNat
  apart : a.freedRanges.Pairwise FreedRange.Apart

/-- No freed range is empty, ends where another begins, or ends at
`maxAllocedID`. -/
structure Canonical (a : RangeAllocator) : Prop where
  nonempty : ∀ r ∈ a.freedRanges, 0 < r.size.toNat
  separated : ∀ r ∈ a.freedRanges, ∀ r' ∈ a.freedRanges, r.last ≠ r'.begin.toNat
  notTop : ∀ r ∈ a.freedRanges, r.last ≠ a.maxAllocedID.toNat

theorem wellFormed_init : WellFormed {} where
  max_le := Nat.zero_le _
  noWrap := by simp
  below := by simp
  apart := List.Pairwise.nil

theorem canonical_init : Canonical {} := ⟨by simp, by simp, by simp⟩

/-! Both predicates and the free set depend on the freed ranges as a multiset
only, so a proof may bring the range that an operation picks to the front. -/

section Perm

variable {a : RangeAllocator} {rs rs' : List FreedRange} {top : UInt64}

theorem free_congr (h : rs.Perm rs') (i : ℕ) : Free ⟨top, rs⟩ i ↔ Free ⟨top, rs'⟩ i := by
  simp only [Free, h.mem_iff]

theorem WellFormed.congr (hw : WellFormed ⟨top, rs⟩) (h : rs.Perm rs') :
    WellFormed ⟨top, rs'⟩ where
  max_le := hw.max_le
  noWrap := fun r hr => hw.noWrap r (h.mem_iff.mpr hr)
  below := fun r hr => hw.below r (h.mem_iff.mpr hr)
  apart := (h.pairwise_iff FreedRange.Apart.symm).mp hw.apart

theorem Canonical.congr (hc : Canonical ⟨top, rs⟩) (h : rs.Perm rs') :
    Canonical ⟨top, rs'⟩ where
  nonempty := fun r hr => hc.nonempty r (h.mem_iff.mpr hr)
  separated := fun r hr r' hr' => hc.separated r (h.mem_iff.mpr hr) r' (h.mem_iff.mpr hr')
  notTop := fun r hr => hc.notTop r (h.mem_iff.mpr hr)

end Perm

section Cons

variable {top : UInt64} {r : FreedRange} {rs : List FreedRange}

theorem free_cons (i : ℕ) : Free ⟨top, r :: rs⟩ i ↔ r.Covers i ∨ Free ⟨top, rs⟩ i := by
  simp only [Free, List.exists_mem_cons_iff]
  tauto

/-- Dropping a freed range keeps the allocator well formed. -/
theorem WellFormed.tail (h : WellFormed ⟨top, r :: rs⟩) : WellFormed ⟨top, rs⟩ where
  max_le := h.max_le
  noWrap := fun r' hr' => h.noWrap r' (List.mem_cons_of_mem _ hr')
  below := fun r' hr' => h.below r' (List.mem_cons_of_mem _ hr')
  apart := (List.pairwise_cons.mp h.apart).2

theorem Canonical.tail (h : Canonical ⟨top, r :: rs⟩) : Canonical ⟨top, rs⟩ where
  nonempty := fun r' hr' => h.nonempty r' (List.mem_cons_of_mem _ hr')
  separated := fun r' hr' r'' hr'' =>
    h.separated r' (List.mem_cons_of_mem _ hr') r'' (List.mem_cons_of_mem _ hr'')
  notTop := fun r' hr' => h.notTop r' (List.mem_cons_of_mem _ hr')

/-- A freed range in front is free of overlap with the indices free without it. -/
theorem WellFormed.head_not_free (h : WellFormed ⟨top, r :: rs⟩) {i : ℕ} (hi : r.Covers i) :
    ¬ Free ⟨top, rs⟩ i := by
  rintro (htop | ⟨r', hr', hi'⟩)
  · have := h.below r List.mem_cons_self i hi
    simp only at htop this
    omega
  · exact (List.pairwise_cons.mp h.apart).1 r' hr' i hi hi'

/-- Adding a freed range of indices that are not free keeps the allocator well
formed. -/
theorem WellFormed.cons (h : WellFormed ⟨top, rs⟩) (hr : r.last < 2 ^ 64)
    (hfree : ∀ i, r.Covers i → ¬ Free ⟨top, rs⟩ i) : WellFormed ⟨top, r :: rs⟩ where
  max_le := h.max_le
  noWrap := List.forall_mem_cons.mpr ⟨hr, h.noWrap⟩
  below := List.forall_mem_cons.mpr
    ⟨fun i hi => Nat.lt_of_not_le fun htop => hfree i hi (Or.inl htop), h.below⟩
  apart := List.pairwise_cons.mpr
    ⟨fun r' hr' i hi hi' => hfree i hi (Or.inr ⟨r', hr', hi'⟩), h.apart⟩

end Cons

/-! ## What `alloc` does -/

/-- The loop of `alloc` finds a freed range `r` with at least `size` entries and
replaces it by what is left of it. -/
theorem takeFirst_eq_some {size : UInt64} {rs rs' : List FreedRange} {begin : UInt64}
    (h : takeFirst size rs = some (begin, rs')) :
    ∃ r rest, rs.Perm (r :: rest) ∧ begin = r.begin ∧ size.toNat ≤ r.size.toNat ∧
      ((r.size = size ∧ rs'.Perm rest) ∨
        (size.toNat < r.size.toNat ∧ rs'.Perm (r.dropFront size :: rest))) := by
  induction rs generalizing rs' with
  | nil => simp [takeFirst] at h
  | cons r rs ih =>
    rw [takeFirst] at h
    split_ifs at h with hle heq
    · obtain ⟨rfl, rfl⟩ := Prod.mk.inj (Option.some.inj h)
      exact ⟨r, rs, .refl _, rfl, UInt64.le_iff_toNat_le.mp hle, Or.inl ⟨heq, .refl _⟩⟩
    · obtain ⟨rfl, rfl⟩ := Prod.mk.inj (Option.some.inj h)
      have hne : size.toNat ≠ r.size.toNat := fun hc => heq (UInt64.toNat_inj.mp hc).symm
      have hle' := UInt64.le_iff_toNat_le.mp hle
      exact ⟨r, rs, .refl _, rfl, hle', Or.inr ⟨by omega, .refl _⟩⟩
    · obtain ⟨⟨b, rs''⟩, htake, heq⟩ := Option.map_eq_some_iff.mp h
      obtain ⟨rfl, rfl⟩ := Prod.mk.inj heq
      obtain ⟨q, rest, hperm, hb, hq, hcase⟩ := ih htake
      refine ⟨q, r :: rest, (hperm.cons r).trans (.swap _ _ _), hb, hq, ?_⟩
      rcases hcase with ⟨hsz, hp⟩ | ⟨hlt, hp⟩
      · exact Or.inl ⟨hsz, hp.cons r⟩
      · exact Or.inr ⟨hlt, (hp.cons r).trans (.swap _ _ _)⟩

/-- The loop of `alloc` finds nothing only if every freed range is too small. -/
theorem takeFirst_eq_none {size : UInt64} {rs : List FreedRange} (h : takeFirst size rs = none) :
    ∀ r ∈ rs, r.size.toNat < size.toNat := by
  induction rs with
  | nil => simp
  | cons r rs ih =>
    rw [takeFirst] at h
    split_ifs at h with hle
    rw [Option.map_eq_none_iff] at h
    refine List.forall_mem_cons.mpr ⟨?_, ih h⟩
    rw [UInt64.le_iff_toNat_le] at hle
    omega

/-- `alloc` keeps `maxAllocedID` within `int`: if it grows the table, the new
top is at most `INT_MAX`. -/
def StaysInInt (a : RangeAllocator) (size : UInt64) : Prop :=
  takeFirst size a.freedRanges = none → a.maxAllocedID.toNat + size.toNat ≤ intMax

/-- From `a` to `a'` the `n` indices from `b` on, all free in `a` and below the
top of `a'`, are taken, and nothing else changes. -/
structure Takes (a a' : RangeAllocator) (b n : ℕ) : Prop where
  end_le : b + n ≤ a'.maxAllocedID.toNat
  were_free : ∀ i, b ≤ i → i < b + n → a.Free i
  free_iff : ∀ i, a'.Free i ↔ a.Free i ∧ ¬ (b ≤ i ∧ i < b + n)
  wellFormed : a'.WellFormed
  canonical : a.Canonical → a'.Canonical

/-- Taking a whole freed range. -/
theorem takes_tail {top : UInt64} {r : FreedRange} {rest : List FreedRange}
    (hw : WellFormed ⟨top, r :: rest⟩) (hend : r.last ≤ top.toNat) :
    Takes ⟨top, r :: rest⟩ ⟨top, rest⟩ r.begin.toNat r.size.toNat where
  end_le := hend
  were_free := fun i hi hi' => (free_cons i).mpr (Or.inl ⟨hi, hi'⟩)
  free_iff := by
    intro i
    have hdisj : r.Covers i → ¬ Free ⟨top, rest⟩ i := hw.head_not_free
    rw [free_cons]
    exact ⟨fun h => ⟨Or.inr h, fun hi => hdisj hi h⟩, fun h => h.1.resolve_left h.2⟩
  wellFormed := hw.tail
  canonical := Canonical.tail

/-- Taking the front of a larger freed range: its end stays where it is. -/
theorem takes_dropFront {top size : UInt64} {r : FreedRange} {rest : List FreedRange}
    (hw : WellFormed ⟨top, r :: rest⟩) (hend : r.last ≤ top.toNat) (hpos : 1 ≤ size.toNat)
    (hlt : size.toNat < r.size.toNat) :
    Takes ⟨top, r :: rest⟩ ⟨top, r.dropFront size :: rest⟩ r.begin.toNat size.toNat := by
  have hlast := hw.noWrap r List.mem_cons_self
  have hb' := FreedRange.toNat_begin_dropFront hlast hlt.le
  have hl' := FreedRange.last_dropFront hlast hlt.le
  have hs' := FreedRange.toNat_size_dropFront hlt.le
  have hl : r.last = r.begin.toNat + r.size.toNat := rfl
  -- what is left of `r` is `r` without the taken front
  have hsplit : ∀ i, (r.dropFront size).Covers i ↔
      r.Covers i ∧ ¬ (r.begin.toNat ≤ i ∧ i < r.begin.toNat + size.toNat) := by
    intro i
    unfold FreedRange.Covers
    omega
  have hdisj : ∀ i, r.Covers i → ¬ Free ⟨top, rest⟩ i := fun i => hw.head_not_free
  have hfront : ∀ i, r.begin.toNat ≤ i ∧ i < r.begin.toNat + size.toNat → r.Covers i :=
    fun i hi => ⟨hi.1, by omega⟩
  refine ⟨by simp only; omega, fun i hi hi' => ?_, fun i => ?_, ?_, fun hc => ⟨?_, ?_, ?_⟩⟩
  · exact (free_cons i).mpr (Or.inl (hfront i ⟨hi, hi'⟩))
  · have hd := hdisj i
    have hf := hfront i
    rw [free_cons, free_cons, hsplit]
    tauto
  · exact hw.tail.cons (by omega) fun i hi => hdisj i ((hsplit i).mp hi).1
  · exact List.forall_mem_cons.mpr ⟨by omega, hc.tail.nonempty⟩
  · have hsep := hc.separated
    simp only [List.forall_mem_cons] at hsep ⊢
    refine ⟨⟨by omega, fun q hq => hl' ▸ hsep.1.2 q hq⟩, fun q hq => ⟨?_, (hsep.2 q hq).2⟩⟩
    -- a range that ended inside `r` would overlap it
    intro heq
    have hqne := hc.tail.nonempty q hq
    have hap := (List.pairwise_cons.mp hw.apart).1 q hq (q.last - 1)
    unfold FreedRange.Covers FreedRange.last at *
    exact hap (by omega) (by omega)
  · exact List.forall_mem_cons.mpr ⟨hl' ▸ hc.notTop r List.mem_cons_self, hc.tail.notTop⟩

/-- Growing the table. -/
theorem takes_grow {top size : UInt64} {rs : List FreedRange} (hw : WellFormed ⟨top, rs⟩)
    (hfit : top.toNat + size.toNat ≤ intMax) :
    Takes ⟨top, rs⟩ ⟨top + size, rs⟩ top.toNat size.toNat := by
  have htop' : (top + size).toNat = top.toNat + size.toNat := by
    apply toNat_add_of_lt
    unfold intMax at hfit
    omega
  have hbelow : ∀ r ∈ rs, ∀ i, r.Covers i → i < top.toNat := hw.below
  refine ⟨htop'.ge, fun i hi _ => Or.inl hi, fun i => ?_, ⟨?_, hw.noWrap, ?_, hw.apart⟩,
    fun hc => ⟨hc.nonempty, hc.separated, ?_⟩⟩
  · simp only [Free, htop']
    constructor
    · rintro (h | ⟨r, hr, hi⟩)
      · exact ⟨Or.inl (by omega), by omega⟩
      · have := hbelow r hr i hi
        exact ⟨Or.inr ⟨r, hr, hi⟩, by omega⟩
    · rintro ⟨h | h, hn⟩
      · exact Or.inl (by omega)
      · exact Or.inr h
  · exact htop'.trans_le hfit
  · intro r hr i hi
    have := hbelow r hr i hi
    simp only [htop']
    omega
  · intro r hr heq
    have hne := hc.nonempty r hr
    have hnt : r.last ≠ top.toNat := hc.notTop r hr
    have := hbelow r hr (r.last - 1) (by unfold FreedRange.Covers FreedRange.last; omega)
    simp only [htop'] at heq
    omega

theorem Takes.congr {top top' : UInt64} {rs₁ rs₂ rs₁' rs₂' : List FreedRange} {b n : ℕ}
    (h : Takes ⟨top, rs₁⟩ ⟨top', rs₁'⟩ b n) (h₁ : rs₂.Perm rs₁) (h₂ : rs₂'.Perm rs₁') :
    Takes ⟨top, rs₂⟩ ⟨top', rs₂'⟩ b n where
  end_le := h.end_le
  were_free := fun i hi hi' => (free_congr h₁ i).mpr (h.were_free i hi hi')
  free_iff := fun i => by rw [free_congr h₁, free_congr h₂, h.free_iff]
  wellFormed := h.wellFormed.congr h₂.symm
  canonical := fun hc => (h.canonical (hc.congr h₁)).congr h₂.symm

/-- If exactly the indices of `L` were not free, then with those taken exactly the
indices of `L` and the taken ones are not free. -/
theorem Takes.owned_iff {a a' : RangeAllocator} {b n : ℕ} (h : Takes a a' b n) {L : ℕ → Prop}
    (hL : ∀ i, L i ↔ ¬ a.Free i) (i : ℕ) : (b ≤ i ∧ i < b + n) ∨ L i ↔ ¬ a'.Free i := by
  have hwere := h.were_free i
  rw [h.free_iff, hL]
  tauto

/-- **The abstract `alloc`**: the `size` indices from the returned begin on were
free, and exactly they are no longer free. -/
theorem alloc_spec {a : RangeAllocator} {size : UInt64} (hw : a.WellFormed)
    (hpos : 1 ≤ size.toNat) (hint : a.StaysInInt size) :
    ∃ b : ℕ, (a.alloc size).1 = b ∧ Takes a (a.alloc size).2 b size.toNat := by
  obtain ⟨top, rs⟩ := a
  have htop : top.toNat ≤ intMax := hw.max_le
  unfold alloc
  cases htake : takeFirst size rs with
  | some p =>
    obtain ⟨begin, rs'⟩ := p
    obtain ⟨r, rest, hperm, rfl, hsize, hcase⟩ := takeFirst_eq_some htake
    have hw' := hw.congr hperm
    have hlast : r.last - 1 < top.toNat :=
      hw'.below r List.mem_cons_self _ (by unfold FreedRange.Covers FreedRange.last; omega)
    have hbegin : r.begin.toNat ≤ intMax := by
      unfold FreedRange.last at hlast
      omega
    refine ⟨r.begin.toNat, ?_, ?_⟩
    · dsimp only
      exact intOfSize_of_le hbegin
    · rcases hcase with ⟨rfl, hp⟩ | ⟨hlt, hp⟩
      · exact (takes_tail hw' (by omega)).congr hperm hp
      · exact (takes_dropFront hw' (by omega) hpos hlt).congr hperm hp
  | none =>
    refine ⟨top.toNat, ?_, takes_grow hw (hint htake)⟩
    dsimp only
    exact intOfSize_of_le htop

/-! ## What `release` does -/

/-- The two ways `release` merges the range `p` with a freed range `r`. -/
def Merges (p r m : FreedRange) : Prop :=
  (r.begin + r.size = p.begin ∧ m = ⟨p.begin - r.size, p.size + r.size⟩) ∨
    (p.begin + p.size = r.begin ∧ m = ⟨p.begin, p.size + r.size⟩)

/-- One pass of the loop of `release` finds a freed range that adjoins the
released one. -/
theorem mergeFirst_eq_some {p m : FreedRange} {rs rs' : List FreedRange}
    (h : mergeFirst p.begin p.size rs = some (m, rs')) :
    ∃ r rest, rs.Perm (r :: rest) ∧ rs'.Perm rest ∧ Merges p r m := by
  induction rs generalizing rs' with
  | nil => simp [mergeFirst] at h
  | cons r rs ih =>
    rw [mergeFirst] at h
    split_ifs at h with hleft hright
    · obtain ⟨rfl, rfl⟩ := Prod.mk.inj (Option.some.inj h)
      exact ⟨r, rs, .refl _, .refl _, Or.inl ⟨hleft, rfl⟩⟩
    · obtain ⟨rfl, rfl⟩ := Prod.mk.inj (Option.some.inj h)
      exact ⟨r, rs, .refl _, .refl _, Or.inr ⟨hright, rfl⟩⟩
    · obtain ⟨⟨m', rs''⟩, hmerge, heq⟩ := Option.map_eq_some_iff.mp h
      obtain ⟨rfl, rfl⟩ := Prod.mk.inj heq
      obtain ⟨q, rest, hperm, hperm', hm⟩ := ih hmerge
      exact ⟨q, r :: rest, (hperm.cons r).trans (.swap _ _ _),
        hperm'.cons r, hm⟩

/-- The loop of `release` finds nothing only if no freed range adjoins the
released one on either side. -/
theorem mergeFirst_eq_none {p : FreedRange} {rs : List FreedRange}
    (h : mergeFirst p.begin p.size rs = none) :
    ∀ r ∈ rs, r.begin + r.size ≠ p.begin ∧ p.begin + p.size ≠ r.begin := by
  induction rs with
  | nil => simp
  | cons r rs ih =>
    rw [mergeFirst] at h
    split_ifs at h with hleft hright
    exact List.forall_mem_cons.mpr ⟨⟨hleft, hright⟩, ih (Option.map_eq_none_iff.mp h)⟩

/-- **Induction along `release`**: what follows for a range from the merged one,
and holds where the loop ends, holds for every range.  Each merge uses up one
freed range. -/
theorem release_induction {top : UInt64}
    {motive : List FreedRange → FreedRange → RangeAllocator → Prop}
    (merge : ∀ rs p r rest rs' m a', rs.Perm (r :: rest) → rs'.Perm rest → Merges p r m →
      motive rs' m a' → motive rs p a')
    (shrink : ∀ rs p, mergeFirst p.begin p.size rs = none → p.begin + p.size = top →
      motive rs p ⟨top - p.size, rs⟩)
    (push : ∀ rs p, mergeFirst p.begin p.size rs = none → p.begin + p.size ≠ top →
      motive rs p ⟨top, rs ++ [p]⟩)
    (rs : List FreedRange) (p : FreedRange) :
    motive rs p (release ⟨top, rs⟩ p.begin p.size) := by
  induction hlen : rs.length using Nat.strong_induction_on generalizing rs p with
  | _ len ih =>
    unfold release
    split
    · rename_i m rs' hmerge
      obtain ⟨r, rest, hperm, hperm', hm⟩ := mergeFirst_eq_some hmerge
      exact merge rs p r rest rs' m _ hperm hperm' hm
        (ih rs'.length (hlen ▸ length_mergeFirst hmerge) rs' m rfl)
    · rename_i hnone
      split_ifs with htop
      · exact shrink rs p hnone htop
      · exact push rs p hnone htop

/-- Without machine words: one of the two ranges ends where the other begins, and the
merged range begins with the lower one. -/
theorem Merges.toNat {p r m : FreedRange} (h : Merges p r m) (hp : p.last < 2 ^ 64)
    (hr : r.last < 2 ^ 64) :
    m.size.toNat = p.size.toNat + r.size.toNat ∧
      ((r.last = p.begin.toNat ∧ m.begin.toNat = r.begin.toNat) ∨
        (p.last = r.begin.toNat ∧ m.begin.toNat = p.begin.toNat)) := by
  rcases h with ⟨hadj, rfl⟩ | ⟨hadj, rfl⟩
  · have hend : r.last = p.begin.toNat := by rw [← hadj, FreedRange.toNat_end hr]
    unfold FreedRange.last at *
    refine ⟨toNat_add_of_lt (by omega), Or.inl ⟨hend, ?_⟩⟩
    rw [UInt64.toNat_sub_of_le _ _ (UInt64.le_iff_toNat_le.mpr (by omega))]
    omega
  · have hend : p.last = r.begin.toNat := by rw [← hadj, FreedRange.toNat_end hp]
    unfold FreedRange.last at *
    exact ⟨toNat_add_of_lt (by omega), Or.inr ⟨hend, rfl⟩⟩

/-- The merged range is the two ranges together, and it does not wrap either. -/
theorem Merges.spec {p r m : FreedRange} (h : Merges p r m) (hp : p.last < 2 ^ 64)
    (hr : r.last < 2 ^ 64) :
    m.last < 2 ^ 64 ∧ m.size.toNat = p.size.toNat + r.size.toNat ∧
      ∀ i, m.Covers i ↔ r.Covers i ∨ p.Covers i := by
  obtain ⟨hsize, hbegin⟩ := h.toNat hp hr
  unfold FreedRange.Covers FreedRange.last at *
  exact ⟨by omega, hsize, fun i => by omega⟩

/-- From `a` to `a'` the `n` indices from `b` on become free, and nothing else
changes. -/
structure Gives (a a' : RangeAllocator) (b n : ℕ) : Prop where
  free_iff : ∀ i, a'.Free i ↔ a.Free i ∨ (b ≤ i ∧ i < b + n)
  wellFormed : a'.WellFormed
  canonical : a.Canonical → 1 ≤ n → a'.Canonical

/-- If exactly the indices of `L` and the given ones were not free, then exactly
those of `L` are not free now. -/
theorem Gives.owned_iff {a a' : RangeAllocator} {b n : ℕ} (h : Gives a a' b n) {L : ℕ → Prop}
    (hL : ∀ i, (b ≤ i ∧ i < b + n) ∨ L i ↔ ¬ a.Free i)
    (hdisj : ∀ i, b ≤ i ∧ i < b + n → ¬ L i) (i : ℕ) : L i ↔ ¬ a'.Free i := by
  rw [h.free_iff, not_or, ← hL]
  exact ⟨fun hi => ⟨Or.inr hi, fun hc => hdisj i hc hi⟩, fun hi => hi.1.resolve_left hi.2⟩

/-- Lowering `maxAllocedID` past a range that ends there. -/
theorem gives_shrink {top : UInt64} {p : FreedRange} {rs : List FreedRange}
    (hw : WellFormed ⟨top, rs⟩) (hp : p.last < 2 ^ 64)
    (hfree : ∀ i, p.Covers i → ¬ Free ⟨top, rs⟩ i) (htop : p.begin + p.size = top)
    (hnone : mergeFirst p.begin p.size rs = none) :
    Gives ⟨top, rs⟩ ⟨top - p.size, rs⟩ p.begin.toNat p.size.toNat := by
  have hmax : top.toNat ≤ intMax := hw.max_le
  have hlast : p.last = top.toNat := by rw [← htop, FreedRange.toNat_end hp]
  -- the new top is where the released range begins
  have hl : p.last = p.begin.toNat + p.size.toNat := rfl
  have hsub : (top - p.size).toNat = p.begin.toNat := by
    rw [UInt64.toNat_sub_of_le _ _ (UInt64.le_iff_toNat_le.mpr (by omega))]
    omega
  have hbelow : ∀ r ∈ rs, ∀ i, r.Covers i → i < p.begin.toNat := by
    intro r hr i hi
    have hlt : i < top.toNat := hw.below r hr i hi
    have hn : ¬ p.Covers i := fun hc => hfree i hc (Or.inr ⟨r, hr, hi⟩)
    unfold FreedRange.Covers at hn
    omega
  refine ⟨fun i => ?_, ⟨?_, hw.noWrap, ?_, hw.apart⟩, fun hc _ => ⟨hc.nonempty, hc.separated, ?_⟩⟩
  · simp only [Free, hsub]
    constructor
    · rintro (h | h)
      · by_cases hi : top.toNat ≤ i
        · exact Or.inl (Or.inl hi)
        · exact Or.inr ⟨h, by omega⟩
      · exact Or.inl (Or.inr h)
    · rintro ((h | h) | h)
      · exact Or.inl (by omega)
      · exact Or.inr h
      · exact Or.inl h.1
  · simp only [hsub]
    omega
  · simpa only [hsub] using hbelow
  · -- a range that ended at the new top would have been merged
    intro r hr heq
    have hne := (mergeFirst_eq_none hnone r hr).1
    rw [hsub, ← FreedRange.toNat_end (hw.noWrap r hr), UInt64.toNat_inj] at heq
    exact hne heq

/-- Recording a new freed range. -/
theorem gives_push {top : UInt64} {p : FreedRange} {rs : List FreedRange}
    (hw : WellFormed ⟨top, rs⟩) (hp : p.last < 2 ^ 64)
    (hfree : ∀ i, p.Covers i → ¬ Free ⟨top, rs⟩ i) (htop : p.begin + p.size ≠ top)
    (hnone : mergeFirst p.begin p.size rs = none) :
    Gives ⟨top, rs⟩ ⟨top, rs ++ [p]⟩ p.begin.toNat p.size.toNat := by
  have hperm : (p :: rs).Perm (rs ++ [p]) := (List.perm_append_singleton p rs).symm
  refine ⟨fun i => ?_, (hw.cons hp hfree).congr hperm, fun hc hpos => ?_⟩
  · rw [← free_congr hperm, free_cons, or_comm]
    rfl
  refine Canonical.congr ⟨List.forall_mem_cons.mpr ⟨hpos, hc.nonempty⟩, ?_,
    List.forall_mem_cons.mpr ⟨?_, hc.notTop⟩⟩ hperm
  · have hsep := hc.separated
    simp only [List.forall_mem_cons] at hsep ⊢
    refine ⟨⟨by unfold FreedRange.last; omega, fun r hr heq => ?_⟩,
      fun r hr => ⟨fun heq => ?_, hsep r hr⟩⟩
    · rw [← FreedRange.toNat_end hp, UInt64.toNat_inj] at heq
      exact (mergeFirst_eq_none hnone r hr).2 heq
    · rw [← FreedRange.toNat_end (hw.noWrap r hr), UInt64.toNat_inj] at heq
      exact (mergeFirst_eq_none hnone r hr).1 heq
  · intro heq
    rw [← FreedRange.toNat_end hp, UInt64.toNat_inj] at heq
    exact htop heq

/-- **The abstract `release`**: exactly the released indices become free.  The
merged range and the remaining freed ranges make up the same free indices. -/
theorem release_spec {a : RangeAllocator} {p : FreedRange} (hw : a.WellFormed)
    (hp : p.last < 2 ^ 64) (hfree : ∀ i, p.Covers i → ¬ a.Free i) :
    Gives a (a.release p.begin p.size) p.begin.toNat p.size.toNat := by
  obtain ⟨top, rs⟩ := a
  refine release_induction (motive := fun rs p a' => WellFormed ⟨top, rs⟩ → p.last < 2 ^ 64 →
    (∀ i, p.Covers i → ¬ Free ⟨top, rs⟩ i) → Gives ⟨top, rs⟩ a' p.begin.toNat p.size.toNat)
    ?_ ?_ ?_ rs p hw hp hfree
  · intro rs p r rest rs' m a' hperm hperm' hm ih hw hp hfree
    have hw' := hw.congr hperm
    have hwrest := hw'.tail.congr hperm'.symm
    obtain ⟨hmlast, hmsize, hmcov⟩ := hm.spec hp (hw'.noWrap r List.mem_cons_self)
    -- the merged range takes the place of `p`, and `r` is off the list
    have hmfree : ∀ i, m.Covers i → ¬ Free ⟨top, rs'⟩ i := by
      intro i hi
      rw [free_congr hperm']
      rcases (hmcov i).mp hi with hri | hpi
      · exact hw'.head_not_free hri
      · have hn := hfree i hpi
        rw [free_congr hperm, free_cons] at hn
        exact fun h => hn (Or.inr h)
    have hg := ih hwrest hmlast hmfree
    refine ⟨fun i => ?_, hg.wellFormed, fun hc hpos => ?_⟩
    · have hcov : m.begin.toNat ≤ i ∧ i < m.begin.toNat + m.size.toNat ↔
          r.Covers i ∨ p.Covers i := hmcov i
      rw [hg.free_iff, hcov, free_congr hperm', free_congr hperm, free_cons]
      constructor
      · rintro (h | h | h)
        · exact Or.inl (Or.inr h)
        · exact Or.inl (Or.inl h)
        · exact Or.inr h
      · rintro ((h | h) | h)
        · exact Or.inr (Or.inl h)
        · exact Or.inl h
        · exact Or.inr (Or.inr h)
    · exact hg.canonical ((hc.congr hperm).tail.congr hperm'.symm) (by omega)
  · intro rs p hnone htop hw hp hfree
    exact gives_shrink hw hp hfree htop hnone
  · intro rs p hnone htop hw hp hfree
    exact gives_push hw hp hfree htop hnone

end RangeAllocator

end Vulkanite
