/-
# The SBT entries of accels

Every accel owns the range of SBT entries that its constructor asked the range
allocator for, and gives it back in its destructor.  An accel without entries
owns nothing: its range begins at -1 and its destructor releases the empty range
at `(size_t)-1`.  `Entries` says that the live accels own exactly the entries
that are not free, each entry by one accel; construction and destruction keep it.
-/
import Vulkanite.Context

namespace Vulkanite

section Owners

variable {ι : Type*}

/-- The owner `x` owns the entry `i`. -/
def Owns (range : ι → Option (ℤ × UInt64)) (x : ι) (i : ℕ) : Prop :=
  ∃ b n, range x = some (b, n) ∧ b ≤ i ∧ (i : ℤ) < b + n.toNat

/-- The ranges of the owners are empty at -1 or nonempty, do not overlap, and
make up exactly the entries that are not free. -/
structure Entries (a : RangeAllocator) (range : ι → Option (ℤ × UInt64)) : Prop where
  wellFormed : a.WellFormed
  shape : ∀ x b n, range x = some (b, n) → (b = -1 ∧ n = 0) ∨ (0 ≤ b ∧ 1 ≤ n.toNat)
  disjoint : ∀ x y i, Owns range x i → Owns range y i → x = y
  owned_iff : ∀ i, (∃ x, Owns range x i) ↔ ¬ a.Free i

theorem entries_init : Entries {} (fun _ : ι => none) where
  wellFormed := RangeAllocator.wellFormed_init
  shape := fun _ _ _ h => by cases h
  disjoint := by
    rintro x y i ⟨b, n, h, -⟩
    cases h
  owned_iff := fun i => by simp [Owns, RangeAllocator.Free]

namespace Entries

variable {a : RangeAllocator} {range : ι → Option (ℤ × UInt64)}

/-- An owned entry is below `maxAllocedID`. -/
theorem lt_max (h : Entries a range) {x : ι} {i : ℕ} (hi : Owns range x i) :
    i < a.maxAllocedID.toNat :=
  Nat.lt_of_not_le fun hle => (h.owned_iff i).mp ⟨x, hi⟩ (Or.inl hle)

/-- A nonempty range lies within the table. -/
theorem end_le (h : Entries a range) {x : ι} {b : ℤ} {n : UInt64} (hx : range x = some (b, n))
    (hb : 0 ≤ b) (hn : 1 ≤ n.toNat) : b + n.toNat ≤ a.maxAllocedID.toNat := by
  have hlt := h.lt_max (x := x) (i := (b + n.toNat - 1).toNat) ⟨b, n, hx, by omega, by omega⟩
  omega

section Update

variable [DecidableEq ι]

theorem owns_update_self {x : ι} {b : ℤ} {n : UInt64} {i : ℕ} :
    Owns (Function.update range x (some (b, n))) x i ↔ b ≤ i ∧ (i : ℤ) < b + n.toNat := by
  simp only [Owns, Function.update_self, Option.some.injEq, Prod.mk.injEq]
  constructor
  · rintro ⟨b', n', ⟨rfl, rfl⟩, hi⟩
    exact hi
  · exact fun hi => ⟨b, n, ⟨rfl, rfl⟩, hi⟩

theorem owns_update_of_ne {x y : ι} (hne : y ≠ x) {v : Option (ℤ × UInt64)} {i : ℕ} :
    Owns (Function.update range x v) y i ↔ Owns range y i := by
  simp only [Owns, Function.update_of_ne hne]

/-- What a fresh owner owns is what its range covers. -/
theorem owns_update_of_none {x : ι} (hx : range x = none) {b : ℤ} {n : UInt64} (y : ι) (i : ℕ) :
    Owns (Function.update range x (some (b, n))) y i ↔
      (y = x ∧ b ≤ i ∧ (i : ℤ) < b + n.toNat) ∨ Owns range y i := by
  by_cases hy : y = x
  · subst hy
    have hnot : ¬ Owns range y i := by
      rintro ⟨b', n', hc, -⟩
      rw [hx] at hc
      cases hc
    rw [owns_update_self, or_iff_left hnot, and_iff_right rfl]
  · rw [owns_update_of_ne hy, or_iff_right fun hc => hy hc.1]

/-- A range of the right shape for one owner. -/
theorem shape_update (h : Entries a range) (x : ι) {b : ℤ} {n : UInt64}
    (hshape : (b = -1 ∧ n = 0) ∨ (0 ≤ b ∧ 1 ≤ n.toNat)) (y : ι) (b' : ℤ) (n' : UInt64)
    (hy : Function.update range x (some (b, n)) y = some (b', n')) :
    (b' = -1 ∧ n' = 0) ∨ (0 ≤ b' ∧ 1 ≤ n'.toNat) := by
  by_cases hyx : y = x
  · subst hyx
    rw [Function.update_self, Option.some.injEq, Prod.mk.injEq] at hy
    obtain ⟨rfl, rfl⟩ := hy
    exact hshape
  · rw [Function.update_of_ne hyx] at hy
    exact h.shape y b' n' hy

/-- A fresh owner with an empty range. -/
theorem update_empty (h : Entries a range) {x : ι} (hx : range x = none) :
    Entries a (Function.update range x (some (-1, 0))) := by
  have howns : ∀ y i, Owns (Function.update range x (some (-1, 0))) y i ↔ Owns range y i := by
    intro y i
    rw [owns_update_of_none hx, or_iff_right]
    rintro ⟨-, h₁, h₂⟩
    rw [UInt64.toNat_zero] at h₂
    omega
  refine ⟨h.wellFormed, h.shape_update x (Or.inl ⟨rfl, rfl⟩), fun y z i hy hz => ?_, fun i => ?_⟩
  · exact h.disjoint y z i ((howns y i).mp hy) ((howns z i).mp hz)
  · simp only [howns]
    exact h.owned_iff i

/-- **Construction keeps the entries owned**: the entries of the new accel were free. -/
theorem allocEntries (h : Entries a range) {x : ι} (hx : range x = none) {n : UInt64}
    (hint : n ≠ 0 → a.StaysInInt n) :
    Entries (Context.allocEntries a n).2
      (Function.update range x (some ((Context.allocEntries a n).1, n))) := by
  unfold Context.allocEntries
  split_ifs with hn
  · subst hn
    exact h.update_empty hx
  have hpos : 1 ≤ n.toNat := by
    have hne : n.toNat ≠ 0 := fun hz => hn (UInt64.toNat_inj.mp hz)
    omega
  -- an accel with geometries calls `alloc`
  obtain ⟨b, hb, htakes⟩ := RangeAllocator.alloc_spec h.wellFormed hpos (hint hn)
  rw [hb]
  have howns : ∀ y i, Owns (Function.update range x (some ((b : ℤ), n))) y i ↔
      (y = x ∧ b ≤ i ∧ i < b + n.toNat) ∨ Owns range y i := by
    intro y i
    have hcast : ((b : ℤ) ≤ i ∧ (i : ℤ) < b + n.toNat) ↔ (b ≤ i ∧ i < b + n.toNat) := by omega
    rw [owns_update_of_none hx, hcast]
  -- what is taken was free, so no accel had it
  have hnot : ∀ i, b ≤ i ∧ i < b + n.toNat → ∀ y, ¬ Owns range y i := fun i hi y hy =>
    (h.owned_iff i).mp ⟨y, hy⟩ (htakes.were_free i hi.1 hi.2)
  refine ⟨htakes.wellFormed, h.shape_update x (Or.inr ⟨Int.natCast_nonneg b, hpos⟩),
    fun y z i hy hz => ?_, fun i => ?_⟩
  · rcases (howns y i).mp hy with ⟨rfl, hi⟩ | hy'
    · rcases (howns z i).mp hz with ⟨rfl, -⟩ | hz'
      · rfl
      · exact absurd hz' (hnot i hi z)
    · rcases (howns z i).mp hz with ⟨rfl, hi⟩ | hz'
      · exact absurd hy' (hnot i hi y)
      · exact h.disjoint y z i hy' hz'
  · simp only [howns, exists_or, exists_eq_left]
    exact htakes.owned_iff h.owned_iff i

omit [DecidableEq ι] in
/-- The range that a destructor releases does not wrap and covers what the accel
owns. -/
theorem released_range (h : Entries a range) {x : ι} {b : ℤ} {n : UInt64}
    (hx : range x = some (b, n)) :
    FreedRange.last ⟨sizeOfInt b, n⟩ < 2 ^ 64 ∧
      ∀ i, FreedRange.Covers ⟨sizeOfInt b, n⟩ i ↔ Owns range x i := by
  have howns : ∀ i : ℕ, Owns range x i ↔ b ≤ i ∧ (i : ℤ) < b + n.toNat := by
    intro i
    constructor
    · rintro ⟨b', n', hx', hi⟩
      obtain ⟨rfl, rfl⟩ := Prod.mk.inj (Option.some.inj (hx.symm.trans hx'))
      exact hi
    · exact fun hi => ⟨b, n, hx, hi⟩
  simp only [FreedRange.Covers, FreedRange.last, howns]
  -- an accel without geometries releases the empty range at `(size_t)-1`
  rcases h.shape x b n hx with ⟨rfl, rfl⟩ | ⟨hb, hn⟩
  · rw [toNat_sizeOfInt_neg_one, UInt64.toNat_zero]
    exact ⟨by omega, fun i => by omega⟩
  · have hend := h.end_le hx hb hn
    have hmax := h.wellFormed.max_le
    unfold intMax at hmax
    obtain ⟨k, rfl⟩ := Int.eq_ofNat_of_zero_le hb
    rw [toNat_sizeOfInt_natCast (by omega)]
    exact ⟨by omega, fun i => by omega⟩

/-- **Destruction gives back what the accel owned.** -/
theorem release (h : Entries a range) {x : ι} {b : ℤ} {n : UInt64}
    (hx : range x = some (b, n)) :
    Entries (a.release (sizeOfInt b) n) (Function.update range x none) := by
  obtain ⟨hlast, hcov⟩ := h.released_range hx
  have hgives := RangeAllocator.release_spec (p := ⟨sizeOfInt b, n⟩) h.wellFormed hlast
    fun i hi => (h.owned_iff i).mp ⟨x, (hcov i).mp hi⟩
  have hothers : ∀ y i, Owns (Function.update range x none) y i ↔ y ≠ x ∧ Owns range y i := by
    intro y i
    by_cases hyx : y = x
    · subst hyx
      simp [Owns, Function.update_self]
    · rw [owns_update_of_ne hyx]
      simp [hyx]
  refine ⟨hgives.wellFormed, fun y b' n' hy => ?_, fun y z i hy hz => ?_, ?_⟩
  · by_cases hyx : y = x
    · subst hyx
      rw [Function.update_self] at hy
      cases hy
    · rw [Function.update_of_ne hyx] at hy
      exact h.shape y b' n' hy
  · exact h.disjoint y z i ((hothers y i).mp hy).2 ((hothers z i).mp hz).2
  · refine hgives.owned_iff (fun i => ?_) fun i hi => ?_
    · rw [← h.owned_iff i]
      have hi : (sizeOfInt b).toNat ≤ i ∧ i < (sizeOfInt b).toNat + n.toNat ↔
          Owns range x i := hcov i
      simp only [hothers]
      constructor
      · rintro (hx' | ⟨y, -, hy⟩)
        · exact ⟨x, hi.mp hx'⟩
        · exact ⟨y, hy⟩
      · rintro ⟨y, hy⟩
        by_cases hyx : y = x
        · exact Or.inl (hi.mpr (hyx ▸ hy))
        · exact Or.inr ⟨y, hyx, hy⟩
    · rintro ⟨y, hy⟩
      rw [hothers] at hy
      exact hy.1 (h.disjoint y x i hy.2 ((hcov i).mp hi))

end Update

end Entries

end Owners

/-- The range of SBT entries of an accel. -/
def accelRange (h : Heap) : ObjectKind × Ptr → Option (ℤ × UInt64)
  | (.geomAccel, p) => (h .geomAccel p).map fun a => (a.sbtEntryBegin, a.sbtEntryCount)
  | (.instanceAccel, p) => (h .instanceAccel p).map fun a => (a.sbtEntryBegin, a.sbtEntryCount)
  | _ => none

/-- The ranges depend on the accels only. -/
theorem accelRange_congr {h h' : Heap} (hg : h' .geomAccel = h .geomAccel)
    (hi : h' .instanceAccel = h .instanceAccel) : accelRange h' = accelRange h := by
  funext r
  unfold accelRange
  split
  · rw [hg]
  · rw [hi]
  · rfl

theorem accelRange_set_geomAccel (h : Heap) (p : Ptr) (o : Option GeomAccel) :
    accelRange (TypedHeap.set h .geomAccel p o) = Function.update (accelRange h) (.geomAccel, p)
      (o.map fun a => (a.sbtEntryBegin, a.sbtEntryCount)) := by
  funext ⟨k, q⟩
  cases k with
  | geomAccel =>
    rw [Function.update_apply]
    simp only [accelRange, TypedHeap.set_apply, Prod.mk.injEq, true_and]
    split_ifs <;> rfl
  | instanceAccel => rw [Function.update_of_ne (by simp)]; rfl
  | _ => rw [Function.update_of_ne (by simp)]; rfl

theorem accelRange_set_instanceAccel (h : Heap) (p : Ptr) (o : Option InstanceAccel) :
    accelRange (TypedHeap.set h .instanceAccel p o) =
      Function.update (accelRange h) (.instanceAccel, p)
        (o.map fun a => (a.sbtEntryBegin, a.sbtEntryCount)) := by
  funext ⟨k, q⟩
  cases k with
  | instanceAccel =>
    rw [Function.update_apply]
    simp only [accelRange, TypedHeap.set_apply, Prod.mk.injEq, true_and]
    split_ifs <;> rfl
  | geomAccel => rw [Function.update_of_ne (by simp)]; rfl
  | _ => rw [Function.update_of_ne (by simp)]; rfl

end Vulkanite
