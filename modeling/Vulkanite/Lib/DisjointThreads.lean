/-
# Threads with memory of their own

Threads share a memory of cells.  Every cell has at most one owner; a thread writes
only cells that it owns, and what it does depends only on those and on cells without an
owner.  Its steps may leave a choice open.

However the steps of the threads interleave, each of them runs as if it were alone
(`Threads.alone_of_run`), and what the threads can do alone they can do together
(`Threads.run_of_alone`).  If every step of a thread makes some number smaller, then no
schedule goes on for ever (`Threads.wellFounded_poolStep`).
-/
import Mathlib.Algebra.BigOperators.Group.Finset.Basic
import Mathlib.Algebra.Order.BigOperators.Group.Finset
import Mathlib.Logic.Relation
import Mathlib.Tactic

/-- Threads `I` with local states `L`, over cells `C` with values `V`. -/
structure Threads (I C V L : Type*) where
  owner : C → Option I
  step : I → L × (C → V) → L × (C → V) → Prop
  frame : ∀ {i : I} {l l' : L} {m m' : C → V}, step i (l, m) (l', m') →
    ∀ c, owner c ≠ some i → m' c = m c
  transfer : ∀ {i : I} {l l' : L} {m m' n : C → V}, step i (l, m) (l', m') →
    (∀ c, owner c = none ∨ owner c = some i → n c = m c) →
    ∃ n', step i (l, n) (l', n') ∧ ∀ c, owner c = some i → n' c = m' c

namespace Threads

variable {I C V L : Type*} (p : Threads I C V L)

/-- The runs of one thread alone. -/
def Alone (i : I) : L × (C → V) → L × (C → V) → Prop := Relation.ReflTransGen (p.step i)

variable [DecidableEq I]

/-- One step of one of the threads. -/
def PoolStep (s s' : (I → L) × (C → V)) : Prop :=
  ∃ i l, p.step i (s.1 i, s.2) (l, s'.2) ∧ s'.1 = Function.update s.1 i l

/-- The runs of all threads together, in any interleaving. -/
def Run : (I → L) × (C → V) → (I → L) × (C → V) → Prop := Relation.ReflTransGen p.PoolStep

variable {p}

omit [DecidableEq I] in
/-- A thread alone leaves the cells of others as they are. -/
theorem Alone.frame {i : I} {x x' : L × (C → V)} (h : p.Alone i x x') {c : C}
    (hc : p.owner c ≠ some i) : x'.2 c = x.2 c := by
  induction h with
  | refl => rfl
  | tail _ hstep ih => rw [p.frame hstep c hc, ih]

/-- Cells without an owner stay as they are. -/
theorem Run.frame {s s' : (I → L) × (C → V)} (h : p.Run s s') {c : C}
    (hc : p.owner c = none) : s'.2 c = s.2 c := by
  induction h with
  | refl => rfl
  | tail _ hstep ih =>
    obtain ⟨i, l, hstep, -⟩ := hstep
    rw [p.frame hstep c (by simp [hc]), ih]

/-- **Each thread runs as if it were alone**: there is a run of the thread alone that
ends in the same local state and the same values of its own cells. -/
theorem alone_of_run {s s' : (I → L) × (C → V)} (h : p.Run s s') (i : I) :
    ∃ n, p.Alone i (s.1 i, s.2) (s'.1 i, n) ∧ ∀ c, p.owner c = some i → n c = s'.2 c := by
  induction h with
  | refl => exact ⟨s.2, .refl, fun _ _ => rfl⟩
  | @tail s₁ s₂ hrun hstep ih =>
    obtain ⟨n, halone, hn⟩ := ih
    obtain ⟨j, l, hstep, hl⟩ := hstep
    by_cases hij : i = j
    · subst hij
      -- nobody else has written what the thread sees
      have hsees : ∀ c, p.owner c = none ∨ p.owner c = some i → n c = s₁.2 c := by
        rintro c (hc | hc)
        · have hown : n c = s.2 c := halone.frame (by simp [hc])
          rw [hown, Run.frame hrun hc]
        · exact hn c hc
      obtain ⟨n', hstep', hn'⟩ := p.transfer hstep hsees
      refine ⟨n', ?_, hn'⟩
      rw [hl, Function.update_self]
      exact halone.tail hstep'
    · refine ⟨n, ?_, fun c hc => ?_⟩
      · rw [hl, Function.update_of_ne hij]
        exact halone
      · rw [hn c hc, p.frame hstep c fun hj => hij (Option.some.inj (hc.symm.trans hj))]

/-- One thread runs on, while the others wait. -/
theorem run_of_alone_one (ls : I → L) {i : I} {x x' : L × (C → V)} (h : p.Alone i x x') :
    p.Run (Function.update ls i x.1, x.2) (Function.update ls i x'.1, x'.2) := by
  induction h with
  | refl => exact .refl
  | @tail y z _ hstep ih =>
    refine ih.tail ⟨i, z.1, ?_, (Function.update_idem ..).symm⟩
    show p.step i (Function.update ls i y.1 i, y.2) (z.1, z.2)
    rw [Function.update_self]
    exact hstep

omit [DecidableEq I] in
/-- A thread alone can do the same in another memory that looks the same to it. -/
theorem Alone.transfer {i : I} {x x' : L × (C → V)} (h : p.Alone i x x') {n : C → V}
    (hn : ∀ c, p.owner c = none ∨ p.owner c = some i → n c = x.2 c) :
    ∃ n', p.Alone i (x.1, n) (x'.1, n') ∧ ∀ c, p.owner c = some i → n' c = x'.2 c := by
  induction h with
  | refl => exact ⟨n, .refl, fun c hc => hn c (Or.inr hc)⟩
  | @tail y z halone hstep ih =>
    obtain ⟨n₁, halone₁, hn₁⟩ := ih
    have hsees : ∀ c, p.owner c = none ∨ p.owner c = some i → n₁ c = y.2 c := by
      rintro c (hc | hc)
      · have hne : p.owner c ≠ some i := by simp [hc]
        calc n₁ c = n c := halone₁.frame hne
          _ = x.2 c := hn c (Or.inl hc)
          _ = y.2 c := (Alone.frame halone hne).symm
      · exact hn₁ c hc
    obtain ⟨n₂, hstep₂, hn₂⟩ := p.transfer hstep hsees
    exact ⟨n₂, halone₁.tail hstep₂, hn₂⟩

/-- **What threads can do alone they can do together**, for instance one after the
other. -/
theorem run_of_alone {is : List I} (hnodup : is.Nodup) (ls ls' : I → L) {m : C → V}
    {n : I → C → V} (h : ∀ i ∈ is, p.Alone i (ls i, m) (ls' i, n i)) :
    ∃ m', p.Run (ls, m) (fun i => if i ∈ is then ls' i else ls i, m') ∧
      (∀ i ∈ is, ∀ c, p.owner c = some i → m' c = n i c) ∧
      ∀ c, (∀ i ∈ is, p.owner c ≠ some i) → m' c = m c := by
  induction is using List.reverseRecOn with
  | nil => exact ⟨m, by simpa using .refl, by simp, fun _ _ => rfl⟩
  | append_singleton is i ih =>
    rw [← List.concat_eq_append, List.nodup_concat] at hnodup
    obtain ⟨hi, hnodup⟩ := hnodup
    obtain ⟨m₁, hrun, hown, hother⟩ := ih hnodup fun j hj => h j (by simp [hj])
    -- the last thread still finds the memory it started with
    have hsees : ∀ c, p.owner c = none ∨ p.owner c = some i → m₁ c = m c := by
      intro c hc
      refine hother c fun j hj hj' => ?_
      rcases hc with hc | hc
      · rw [hc] at hj'
        exact Option.some_ne_none j hj'.symm
      · obtain rfl := Option.some.inj (hc.symm.trans hj')
        exact hi hj
    obtain ⟨m₂, halone, hm₂⟩ := (h i (by simp)).transfer hsees
    have hlocals : ∀ l, Function.update (fun j => if j ∈ is then ls' j else ls j) i l =
        fun j => if j = i then l else if j ∈ is then ls' j else ls j := fun l => by
      funext j
      rw [Function.update_apply]
    have hlast := run_of_alone_one (fun j => if j ∈ is then ls' j else ls j) halone
    rw [Function.update_eq_self_iff.mpr (if_neg hi).symm] at hlast
    refine ⟨m₂, ?_, fun j hj c hc => ?_, fun c hc => ?_⟩
    · have hend : (fun j => if j ∈ is ++ [i] then ls' j else ls j) =
          Function.update (fun j => if j ∈ is then ls' j else ls j) i (ls' i) := by
        rw [hlocals]
        funext j
        by_cases hj : j = i
        · subst hj
          simp
        · simp [hj]
      rw [hend]
      exact hrun.trans hlast
    · rcases List.mem_append.mp hj with hj | hj
      · have hne : p.owner c ≠ some i := fun hi' =>
          hi (Option.some.inj (hc.symm.trans hi') ▸ hj)
        exact (halone.frame hne).trans (hown j hj c hc)
      · obtain rfl := List.mem_singleton.mp hj
        exact hm₂ c hc
    · exact (halone.frame (hc i (by simp))).trans (hother c fun j hj => hc j (by simp [hj]))

/-- **No schedule goes on for ever**, if every step of a thread makes its rank
smaller. -/
theorem wellFounded_poolStep [Fintype I] {rank : L → ℕ}
    (hrank : ∀ i x x', p.step i x x' → rank x'.1 < rank x.1) :
    WellFounded fun s' s => p.PoolStep s s' := by
  refine Subrelation.wf (r := InvImage (· < ·) fun s => ∑ i, rank (s.1 i)) ?_
    (InvImage.wf _ wellFounded_lt)
  rintro s' s ⟨i, l, hstep, hl⟩
  show ∑ j, rank (s'.1 j) < ∑ j, rank (s.1 j)
  refine Finset.sum_lt_sum (fun j _ => ?_) ⟨i, Finset.mem_univ i, ?_⟩
  · rw [hl, Function.update_apply]
    split_ifs with hj
    · exact hj ▸ (hrank i _ _ hstep).le
    · exact le_rfl
  · rw [hl, Function.update_self]
    exact hrank i _ _ hstep

end Threads
