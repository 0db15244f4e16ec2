/-
# Tilings by spans

A span is a range of addresses.  Spans tile a block of addresses if they lie in it, no
two of them share an address and every address of the block is in one of them.

`consecutive` is what a running pointer makes of a list of lengths, and it tiles the block
of the total length (`tiles_consecutive`).  A tiling uses up the whole block: the lengths
add up to its size (`Tiles.sum_lengths`).
-/
import Mathlib.Algebra.Order.BigOperators.Group.List
import Mathlib.Order.Interval.Finset.Nat
import Mathlib.Tactic

namespace Tiling

/-- The addresses from `first` on. -/
structure Span where
  first : ℕ
  length : ℕ
  deriving DecidableEq, Repr

namespace Span

/-- The address is in the span. -/
def Covers (s : Span) (b : ℕ) : Prop := s.first ≤ b ∧ b < s.first + s.length

/-- No address is in both spans. -/
def Apart (s t : Span) : Prop := ∀ b, s.Covers b → ¬ t.Covers b

/-- The span lies in the block. -/
def Inside (s : Span) (base size : ℕ) : Prop :=
  base ≤ s.first ∧ s.first + s.length ≤ base + size

/-- The addresses of the span, as a set. -/
def cells (s : Span) : Finset ℕ := Finset.Ico s.first (s.first + s.length)

theorem mem_cells {s : Span} {b : ℕ} : b ∈ s.cells ↔ s.Covers b := Finset.mem_Ico

theorem card_cells (s : Span) : s.cells.card = s.length := by
  rw [cells, Nat.card_Ico, Nat.add_sub_cancel_left]

end Span

/-- The spans tile the block of addresses from `base` on. -/
structure Tiles (ss : List Span) (base size : ℕ) : Prop where
  inside : ∀ s ∈ ss, s.Inside base size
  apart : ss.Pairwise Span.Apart
  covered : ∀ b, base ≤ b → b < base + size → ∃ s ∈ ss, s.Covers b

/-! ## Lengths add up -/

/-- The addresses of all spans. -/
def cellsOf : List Span → Finset ℕ
  | [] => ∅
  | s :: ss => s.cells ∪ cellsOf ss

theorem mem_cellsOf {ss : List Span} {b : ℕ} : b ∈ cellsOf ss ↔ ∃ s ∈ ss, s.Covers b := by
  induction ss with
  | nil => simp [cellsOf]
  | cons s ss ih =>
    simp only [cellsOf, Finset.mem_union, Span.mem_cells, ih, List.exists_mem_cons_iff]

/-- Spans that share no address have as many addresses as their lengths say. -/
theorem card_cellsOf {ss : List Span} (h : ss.Pairwise Span.Apart) :
    (cellsOf ss).card = (ss.map Span.length).sum := by
  induction ss with
  | nil => rfl
  | cons s ss ih =>
    obtain ⟨hs, hss⟩ := List.pairwise_cons.mp h
    have hdisjoint : Disjoint s.cells (cellsOf ss) := by
      rw [Finset.disjoint_left]
      intro b hb hb'
      obtain ⟨t, ht, hcovers⟩ := mem_cellsOf.mp hb'
      exact hs t ht b (Span.mem_cells.mp hb) hcovers
    rw [cellsOf, Finset.card_union_of_disjoint hdisjoint, Span.card_cells, ih hss, List.map_cons,
      List.sum_cons]

/-- **The lengths of a tiling add up to the size of the block.** -/
theorem Tiles.sum_lengths {ss : List Span} {base size : ℕ} (h : Tiles ss base size) :
    (ss.map Span.length).sum = size := by
  have hcells : cellsOf ss = Finset.Ico base (base + size) := by
    ext b
    rw [mem_cellsOf, Finset.mem_Ico]
    constructor
    · rintro ⟨s, hs, hb⟩
      obtain ⟨hfirst, hlast⟩ := h.inside s hs
      exact ⟨hfirst.trans hb.1, lt_of_lt_of_le hb.2 hlast⟩
    · rintro ⟨hle, hlt⟩
      exact h.covered b hle hlt
  rw [← card_cellsOf h.apart, hcells, Nat.card_Ico, Nat.add_sub_cancel_left]

/-! ## Running pointers -/

/-- The spans of the lengths, each of which begins where the one before it ends. -/
def consecutive : ℕ → List ℕ → List Span
  | _, [] => []
  | base, n :: ns => ⟨base, n⟩ :: consecutive (base + n) ns

/-- **Consecutive spans tile the block of their total length.** -/
theorem tiles_consecutive (base : ℕ) (ns : List ℕ) :
    Tiles (consecutive base ns) base ns.sum := by
  induction ns generalizing base with
  | nil => exact ⟨fun s hs => absurd hs List.not_mem_nil, .nil, fun b hle hlt => by
      rw [List.sum_nil] at hlt; omega⟩
  | cons n ns ih =>
    obtain ⟨hinside, hapart, hcovered⟩ := ih (base + n)
    rw [consecutive, List.sum_cons]
    refine ⟨?_, List.pairwise_cons.mpr ⟨?_, hapart⟩, ?_⟩
    · rw [List.forall_mem_cons]
      refine ⟨⟨le_rfl, by dsimp only; omega⟩, fun s hs => ?_⟩
      obtain ⟨hfirst, hlast⟩ := hinside s hs
      exact ⟨by omega, by omega⟩
    -- the first span ends where all others lie
    · rintro s hs b ⟨-, hlt⟩ ⟨hle, -⟩
      have hfirst := (hinside s hs).1
      dsimp only at hlt
      omega
    · intro b hle hlt
      rcases Nat.lt_or_ge b (base + n) with hb | hb
      · exact ⟨⟨base, n⟩, List.mem_cons_self, hle, hb⟩
      · obtain ⟨s, hs, hcovers⟩ := hcovered b hb (by omega)
        exact ⟨s, List.mem_cons_of_mem _ hs, hcovers⟩

end Tiling
