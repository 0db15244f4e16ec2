/-
# Enumerating a finite set by taking the next larger element

Iterating "the least element above the last one, or the sentinel `top` when
there is none" runs through the elements of a finite set below `top` in
increasing order, each once, and then stays at `top`
(`eq_getD_of_isNextAbove`).  The finite set is given by its strictly increasing
list.
-/
import Mathlib.Data.List.GetD
import Mathlib.Tactic

namespace NextEnumeration

variable {K : Type*} [LinearOrder K]

/-- `x` is the least member of `l` above `h`, or `top` if no member is above `h`. -/
def IsNextAbove (l : List K) (top h x : K) : Prop :=
  (x ∈ l ∧ h < x ∧ ∀ y ∈ l, h < y → x ≤ y) ∨ (x = top ∧ ∀ y ∈ l, ¬ h < y)

variable {l : List K} {top h : K}

/-- There is only one next element. -/
theorem IsNextAbove.unique {x y : K} (hx : IsNextAbove l top h x) (hy : IsNextAbove l top h y) :
    x = y := by
  rcases hx with ⟨hxl, hhx, hxmin⟩ | ⟨rfl, hnone⟩
  · rcases hy with ⟨hyl, hhy, hymin⟩ | ⟨rfl, hnone⟩
    · exact le_antisymm (hxmin y hyl hhy) (hymin x hxl hhx)
    · exact absurd hhx (hnone x hxl)
  · rcases hy with ⟨hyl, hhy, -⟩ | ⟨rfl, -⟩
    · exact absurd hhy (hnone y hyl)
    · rfl

/-- In an increasing list, what lies above the entry at `k` starts at `k + 1`. -/
theorem getElem_lt_iff (hl : l.Pairwise (· < ·)) {i k : ℕ} (hi : i < l.length)
    (hk : k < l.length) : l[k] < l[i] ↔ k < i := by
  rw [List.pairwise_iff_getElem] at hl
  constructor
  · intro hlt
    rcases lt_trichotomy i k with h | h | h
    · exact absurd hlt (lt_asymm (hl i k hi hk h))
    · subst h
      exact absurd hlt (lt_irrefl _)
    · exact h
  · exact hl k i hk hi

theorem getElem_le_iff (hl : l.Pairwise (· < ·)) {i k : ℕ} (hi : i < l.length)
    (hk : k < l.length) : l[k] ≤ l[i] ↔ k ≤ i := by
  rw [← not_lt, getElem_lt_iff hl hk hi, not_lt]

/-- Below every member, the next element is the first one. -/
theorem isNextAbove_zero (hl : l.Pairwise (· < ·)) (hh : ∀ y ∈ l, h < y) :
    IsNextAbove l top h (l.getD 0 top) := by
  by_cases hpos : 0 < l.length
  · rw [List.getD_eq_getElem _ _ hpos]
    refine Or.inl ⟨List.getElem_mem hpos, hh _ (List.getElem_mem hpos), fun y hy _ => ?_⟩
    obtain ⟨i, hi, rfl⟩ := List.getElem_of_mem hy
    exact (getElem_le_iff hl hi hpos).mpr (Nat.zero_le i)
  · obtain rfl := List.eq_nil_of_length_eq_zero (Nat.eq_zero_of_not_pos hpos)
    exact Or.inr ⟨rfl, by simp⟩

/-- The next element after the one at `k` is the one at `k + 1`. -/
theorem isNextAbove_succ (hl : l.Pairwise (· < ·)) (htop : ∀ y ∈ l, y < top) (k : ℕ) :
    IsNextAbove l top (l.getD k top) (l.getD (k + 1) top) := by
  by_cases hk : k < l.length
  · rw [List.getD_eq_getElem _ _ hk]
    by_cases hk' : k + 1 < l.length
    · rw [List.getD_eq_getElem _ _ hk']
      refine Or.inl ⟨List.getElem_mem hk', (getElem_lt_iff hl hk' hk).mpr k.lt_succ_self, ?_⟩
      intro y hy hlt
      obtain ⟨i, hi, rfl⟩ := List.getElem_of_mem hy
      exact (getElem_le_iff hl hi hk').mpr ((getElem_lt_iff hl hi hk).mp hlt)
    · refine Or.inr ⟨List.getD_eq_default _ _ (by omega), fun y hy hlt => ?_⟩
      obtain ⟨i, hi, rfl⟩ := List.getElem_of_mem hy
      have := (getElem_lt_iff hl hi hk).mp hlt
      omega
  · rw [List.getD_eq_default _ _ (by omega), List.getD_eq_default _ _ (by omega)]
    exact Or.inr ⟨rfl, fun y hy => lt_asymm (htop y hy)⟩

/-- **The iteration enumerates the list and then stays at the sentinel.** -/
theorem eq_getD_of_isNextAbove (hl : l.Pairwise (· < ·)) (htop : ∀ y ∈ l, y < top)
    (hh : ∀ y ∈ l, h < y) {f : ℕ → K} (hzero : IsNextAbove l top h (f 0))
    (hsucc : ∀ k, IsNextAbove l top (f k) (f (k + 1))) (k : ℕ) : f k = l.getD k top := by
  induction k with
  | zero => exact hzero.unique (isNextAbove_zero hl hh)
  | succ k ih =>
    have hnext := hsucc k
    rw [ih] at hnext
    exact hnext.unique (isNextAbove_succ hl htop k)

end NextEnumeration
