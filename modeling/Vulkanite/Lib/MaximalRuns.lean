/-
# Maximal runs of a set of natural numbers

A set `D` of naturals below a bound `m` splits into maximal runs: the intervals
`[b, e)` inside `D` that cannot be extended on either side.  A family of
nonempty, pairwise disjoint intervals that covers `D` and in which no interval
ends where another begins is exactly the family of these runs
(`IsSeparatedCover.isMaximalRun_iff`), so it is determined by `D`.

Nothing here is about a particular program; free lists, extent maps and gap
buffers all keep such a family.
-/
import Mathlib.Tactic

namespace MaximalRuns

/-- `[b, e)` is a maximal run of `D` below `m`. -/
structure IsMaximalRun (D : ℕ → Prop) (m b e : ℕ) : Prop where
  lt : b < e
  le : e ≤ m
  mem : ∀ i, b ≤ i → i < e → D i
  left : b = 0 ∨ ¬ D (b - 1)
  right : e = m ∨ ¬ D e

/-- The intervals of `F` (pairs of begin and end) are nonempty, lie below `m`,
cover exactly the part of `D` below `m`, overlap only when equal, and never
adjoin. -/
structure IsSeparatedCover (D : ℕ → Prop) (m : ℕ) (F : ℕ × ℕ → Prop) : Prop where
  lt : ∀ p, F p → p.1 < p.2
  le : ∀ p, F p → p.2 ≤ m
  cover : ∀ i, i < m → (D i ↔ ∃ p, F p ∧ p.1 ≤ i ∧ i < p.2)
  disjoint : ∀ p q, F p → F q → ∀ i, p.1 ≤ i → i < p.2 → q.1 ≤ i → i < q.2 → p = q
  separated : ∀ p q, F p → F q → p.2 ≠ q.1

namespace IsSeparatedCover

variable {D : ℕ → Prop} {m : ℕ} {F : ℕ × ℕ → Prop}

/-- Just past an interval of the family lies nothing of `D`. -/
theorem not_mem_end (h : IsSeparatedCover D m F) {p : ℕ × ℕ} (hp : F p) (hlt : p.2 < m) :
    ¬ D p.2 := by
  intro hD
  obtain ⟨q, hq, hq1, hq2⟩ := (h.cover p.2 hlt).mp hD
  have hne := h.separated p q hp hq
  have hpq : p = q := by
    have hlt' := h.lt p hp
    exact h.disjoint p q hp hq (p.2 - 1) (by omega) (by omega) (by omega) (by omega)
  subst hpq
  omega

/-- Just before an interval of the family lies nothing of `D`. -/
theorem not_mem_pred (h : IsSeparatedCover D m F) {p : ℕ × ℕ} (hp : F p) (hpos : p.1 ≠ 0) :
    ¬ D (p.1 - 1) := by
  intro hD
  have hlt := h.lt p hp
  have hle := h.le p hp
  obtain ⟨q, hq, hq1, hq2⟩ := (h.cover (p.1 - 1) (by omega)).mp hD
  have hne := h.separated q p hq hp
  have hpq : q = p := h.disjoint q p hq hp p.1 (by omega) (by omega) (by omega) (by omega)
  subst hpq
  omega

/-- A run of `D` lies inside one interval of the family. -/
theorem exists_interval_of_run (h : IsSeparatedCover D m F) {b n : ℕ} (hn : 0 < n)
    (hm : b + n ≤ m) (hrun : ∀ i, b ≤ i → i < b + n → D i) :
    ∃ p, F p ∧ p.1 ≤ b ∧ b + n ≤ p.2 := by
  obtain ⟨p, hp, hp1, hp2⟩ := (h.cover b (by omega)).mp (hrun b le_rfl (by omega))
  refine ⟨p, hp, hp1, ?_⟩
  by_contra hlt
  exact h.not_mem_end hp (by omega) (hrun p.2 (by omega) (by omega))

/-- **A separated cover consists of the maximal runs.** -/
theorem isMaximalRun_iff (h : IsSeparatedCover D m F) (b e : ℕ) :
    IsMaximalRun D m b e ↔ F (b, e) := by
  constructor
  · intro hr
    have hlt := hr.lt
    have hle := hr.le
    obtain ⟨p, hp, hp1, hp2⟩ := h.exists_interval_of_run (n := e - b) (by omega) (by omega)
      (fun i hi hi' => hr.mem i hi (by omega))
    have hpm := h.le p hp
    have hb : p.1 = b := by
      rcases hr.left with h0 | hD
      · omega
      · by_contra hne
        exact hD ((h.cover (b - 1) (by omega)).mpr ⟨p, hp, by omega, by omega⟩)
    have he : p.2 = e := by
      rcases hr.right with hm | hD
      · omega
      · by_contra hne
        exact hD ((h.cover e (by omega)).mpr ⟨p, hp, by omega, by omega⟩)
    rw [← hb, ← he]
    exact hp
  · intro hF
    refine ⟨h.lt _ hF, h.le _ hF, ?_, ?_, ?_⟩
    · intro i hi hi'
      have hle := h.le _ hF
      exact (h.cover i (by omega)).mpr ⟨(b, e), hF, hi, hi'⟩
    · by_cases hb : b = 0
      · exact Or.inl hb
      · exact Or.inr (h.not_mem_pred hF hb)
    · by_cases he : e = m
      · exact Or.inl he
      · exact Or.inr (h.not_mem_end hF (lt_of_le_of_ne (h.le _ hF) he))

/-- Two separated covers of the same set below the same bound are the same
family. -/
theorem unique {G : ℕ × ℕ → Prop} (hF : IsSeparatedCover D m F) (hG : IsSeparatedCover D m G)
    (p : ℕ × ℕ) : F p ↔ G p := by
  rw [← hF.isMaximalRun_iff p.1 p.2, hG.isMaximalRun_iff p.1 p.2]

end IsSeparatedCover

end MaximalRuns
