/-
# Reference counts

A graph of nodes that hold strong references to each other, and of references held
from outside (`roots`).  A node dies when its use count is 0, and with it go the
references it holds; `collect` sweeps until no live node has use count 0.

Reference counting does not find cycles.  If the only cycles are nodes that refer to
themselves, then what lives on after `collect` is exactly what can be reached from a
root or from such a node (`mem_live_collect_iff`).  So the result does not depend on
the order in which nodes die.
-/
import Mathlib.Algebra.BigOperators.Group.Finset.Basic
import Mathlib.Algebra.Order.BigOperators.Group.Finset
import Mathlib.Tactic

/-- Live nodes, the references that each node holds, and those held from outside. -/
@[ext] structure RefGraph (N : Type*) where
  live : Finset N
  refs : N → List N
  roots : List N

namespace RefGraph

variable {N : Type*} [DecidableEq N]

/-- The number of references to the node. -/
def useCount (g : RefGraph N) (n : N) : ℕ := g.roots.count n + ∑ m ∈ g.live, (g.refs m).count n

/-- Nodes without references to them die. -/
def sweep (g : RefGraph N) : RefGraph N :=
  { g with live := g.live.filter fun n => g.useCount n ≠ 0 }

/-- As many sweeps as the number says. -/
def sweeps : ℕ → RefGraph N → RefGraph N
  | 0, g => g
  | k + 1, g => sweeps k g.sweep

/-- Sweeps until no node dies any more. -/
def collect (g : RefGraph N) : RefGraph N := sweeps g.live.card g

/-- No live node has use count 0. -/
def Settled (g : RefGraph N) : Prop := ∀ n ∈ g.live, g.useCount n ≠ 0

/-- All references lead to live nodes. -/
structure Closed (g : RefGraph N) : Prop where
  refs : ∀ m ∈ g.live, ∀ n ∈ g.refs m, n ∈ g.live
  roots : ∀ n ∈ g.roots, n ∈ g.live

/-- References to other nodes lead down. -/
def Ranked (g : RefGraph N) (rank : N → ℕ) : Prop :=
  ∀ m ∈ g.live, ∀ n ∈ g.refs m, n = m ∨ rank n < rank m

/-- The node has a root, or a reference to itself. -/
def Anchored (g : RefGraph N) (n : N) : Prop := n ∈ g.roots ∨ n ∈ g.refs n

/-- The node can be reached along references. -/
def Reaches (g : RefGraph N) : N → N → Prop := Relation.ReflTransGen fun m n => n ∈ g.refs m

variable {g : RefGraph N}

/-- A node is in use if a root or a live node points to it. -/
theorem useCount_ne_zero_iff {n : N} :
    g.useCount n ≠ 0 ↔ n ∈ g.roots ∨ ∃ m ∈ g.live, n ∈ g.refs m := by
  simp only [useCount, Ne, Nat.add_eq_zero_iff, List.count_eq_zero, Finset.sum_eq_zero_iff,
    not_and_or, not_not, not_forall, exists_prop]

omit [DecidableEq N] in
/-- Adding nodes and changing references to live ones. -/
theorem Closed.update (h : g.Closed) {g' : RefGraph N} (hlive : g.live ⊆ g'.live)
    (hrefs : ∀ m ∈ g'.live, (m ∈ g.live ∧ g'.refs m = g.refs m) ∨ ∀ n ∈ g'.refs m, n ∈ g'.live)
    (hroots : ∀ n ∈ g'.roots, n ∈ g'.live) : g'.Closed where
  refs := by
    intro m hm n hn
    rcases hrefs m hm with ⟨hm', heq⟩ | hall
    · exact hlive (h.refs m hm' n (heq ▸ hn))
    · exact hall n hn
  roots := hroots

/-! ## Sweeping -/

/-- Sweeping changes no pointers, and only takes nodes away. -/
theorem sweeps_frame (k : ℕ) (g : RefGraph N) :
    (sweeps k g).refs = g.refs ∧ (sweeps k g).roots = g.roots ∧ (sweeps k g).live ⊆ g.live := by
  induction k generalizing g with
  | zero => exact ⟨rfl, rfl, Finset.Subset.refl _⟩
  | succ k ih =>
    obtain ⟨hrefs, hroots, hlive⟩ := ih g.sweep
    exact ⟨hrefs, hroots, hlive.trans (Finset.filter_subset _ _)⟩

/-- References keep nodes alive. -/
theorem Closed.sweep (h : g.Closed) : g.sweep.Closed where
  refs := by
    intro m hm n hn
    have hm' := (Finset.mem_filter.mp hm).1
    exact Finset.mem_filter.mpr ⟨h.refs m hm' n hn, useCount_ne_zero_iff.mpr (Or.inr ⟨m, hm', hn⟩)⟩
  roots := fun n hn =>
    Finset.mem_filter.mpr ⟨h.roots n hn, useCount_ne_zero_iff.mpr (Or.inl hn)⟩

/-- Any number of sweeps keeps pointers to live nodes. -/
theorem Closed.sweeps (h : g.Closed) (k : ℕ) : (sweeps k g).Closed := by
  induction k generalizing g with
  | zero => exact h
  | succ k ih => exact ih h.sweep

/-- Where every live node is in use, a sweep takes nothing away. -/
theorem Settled.sweep_eq (h : g.Settled) : g.sweep = g := by
  rw [sweep, Finset.filter_true_of_mem h]

/-- Nor do more of them. -/
theorem Settled.sweeps (h : g.Settled) (k : ℕ) : (sweeps k g).Settled := by
  induction k with
  | zero => exact h
  | succ k ih => rwa [RefGraph.sweeps, h.sweep_eq]

/-- A sweep that is not idle takes a node away. -/
theorem settled_sweeps {k : ℕ} (hk : g.live.card ≤ k) : (sweeps k g).Settled := by
  induction k generalizing g with
  | zero =>
    have hempty : g.live = ∅ := Finset.card_eq_zero.mp (Nat.le_zero.mp hk)
    exact fun n hn => absurd (hempty ▸ hn : n ∈ (∅ : Finset N)) (Finset.notMem_empty n)
  | succ k ih =>
    by_cases hs : g.Settled
    · exact hs.sweeps (k + 1)
    · refine ih ?_
      have hlt : g.sweep.live.card < g.live.card := by
        simp only [Settled, not_forall, not_not, exists_prop] at hs
        obtain ⟨n, hn, hcount⟩ := hs
        refine Finset.card_lt_card ⟨Finset.filter_subset _ _, fun hsub => ?_⟩
        exact (Finset.mem_filter.mp (hsub hn)).2 hcount
      omega

/-! ## Collecting -/

@[simp] theorem refs_collect (g : RefGraph N) : g.collect.refs = g.refs := (sweeps_frame _ g).1

@[simp] theorem roots_collect (g : RefGraph N) : g.collect.roots = g.roots :=
  (sweeps_frame _ g).2.1

/-- What is alive after collecting was alive before. -/
theorem live_collect_subset (g : RefGraph N) : g.collect.live ⊆ g.live := (sweeps_frame _ g).2.2

/-- After collecting, every live node is in use. -/
theorem settled_collect (g : RefGraph N) : g.collect.Settled := settled_sweeps le_rfl

/-- After collecting, live nodes point to live nodes. -/
theorem Closed.collect (h : g.Closed) : g.collect.Closed := h.sweeps _

omit [DecidableEq N] in
/-- In a closed graph, what can be reached from a live node is live. -/
theorem Closed.live_of_reaches (h : g.Closed) {a n : N} (ha : a ∈ g.live) (hn : g.Reaches a n) :
    n ∈ g.live := by
  induction hn with
  | refl => exact ha
  | tail _ hstep ih => exact h.refs _ ih _ hstep

/-- An anchored node lives on. -/
theorem Anchored.sweep {a : N} (ha : g.Anchored a) (hlive : a ∈ g.live) : a ∈ g.sweep.live :=
  Finset.mem_filter.mpr ⟨hlive, useCount_ne_zero_iff.mpr (ha.imp_right fun h => ⟨a, hlive, h⟩)⟩

/-- An anchored node survives any number of sweeps. -/
theorem Anchored.sweeps {a : N} (ha : g.Anchored a) (hlive : a ∈ g.live) (k : ℕ) :
    a ∈ (sweeps k g).live := by
  induction k generalizing g with
  | zero => exact hlive
  | succ k ih => exact ih (g := g.sweep) ha (ha.sweep hlive)

/-- An anchored node survives collecting. -/
theorem Anchored.collect {a : N} (ha : g.Anchored a) (hlive : a ∈ g.live) : a ∈ g.collect.live :=
  ha.sweeps hlive _

/-- In a settled graph every live node can be reached from an anchored one: follow the
references upwards. -/
theorem Settled.reached (h : g.Settled) {rank : N → ℕ} (hr : g.Ranked rank) {n : N}
    (hn : n ∈ g.live) : ∃ a ∈ g.live, g.Anchored a ∧ g.Reaches a n := by
  -- induction on how far the rank is below the greatest one
  generalize hk : g.live.sup rank - rank n = k
  induction k using Nat.strong_induction_on generalizing n with
  | _ k ih =>
    rcases useCount_ne_zero_iff.mp (h n hn) with hroot | ⟨m, hm, hmn⟩
    · exact ⟨n, hn, Or.inl hroot, .refl⟩
    · rcases hr m hm n hmn with rfl | hlt
      · exact ⟨n, hn, Or.inr hmn, .refl⟩
      · have hle : rank m ≤ g.live.sup rank := Finset.le_sup hm
        obtain ⟨a, ha, hanchor, hreach⟩ := ih (g.live.sup rank - rank m) (by omega) hm rfl
        exact ⟨a, ha, hanchor, hreach.tail hmn⟩

/-- **What lives on is what can be reached from an anchored node.** -/
theorem mem_live_collect_iff (hc : g.Closed) {rank : N → ℕ} (hr : g.Ranked rank) (n : N) :
    n ∈ g.collect.live ↔ ∃ a ∈ g.live, g.Anchored a ∧ g.Reaches a n := by
  constructor
  · intro hn
    have hr' : g.collect.Ranked rank := fun m hm x hx =>
      hr m (g.live_collect_subset hm) x (by rwa [refs_collect] at hx)
    obtain ⟨a, ha, hanchor, hreach⟩ := g.settled_collect.reached hr' hn
    simp only [Anchored, Reaches, refs_collect, roots_collect] at hanchor hreach
    exact ⟨a, g.live_collect_subset ha, hanchor, hreach⟩
  · rintro ⟨a, ha, hanchor, hreach⟩
    refine hc.collect.live_of_reaches (hanchor.collect ha) ?_
    rwa [Reaches, refs_collect]

end RefGraph
