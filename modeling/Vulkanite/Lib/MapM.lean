/-
# Visiting a list until a step fails

`xs.mapM f` in `Option` is the list of the results of `f` when all of them exist.  So
its elements and those of `xs` correspond position by position.
-/
import Mathlib.Tactic

namespace List

variable {α β : Type} {f : α → Option β} {xs : List α} {ys : List β}

theorem mapM_eq_some_iff_forall₂ :
    xs.mapM f = some ys ↔ List.Forall₂ (fun x y => f x = some y) xs ys := by
  induction xs generalizing ys with
  | nil => simp [List.forall₂_nil_left_iff, eq_comm]
  | cons x xs ih =>
    simp only [List.mapM_cons, Option.bind_eq_bind, Option.pure_def, Option.bind_eq_some_iff,
      Option.some.injEq, List.forall₂_cons_left_iff, ih]
    constructor
    · rintro ⟨y, hy, ys', hys', rfl⟩
      exact ⟨y, ys', hy, hys', rfl⟩
    · rintro ⟨y, ys', hy, hys', rfl⟩
      exact ⟨y, hy, ys', hys', rfl⟩

theorem length_of_mapM (h : xs.mapM f = some ys) : ys.length = xs.length :=
  (mapM_eq_some_iff_forall₂.mp h).length_eq.symm

/-- The element of the result at a position is the result for the element there. -/
theorem getElem?_mapM (h : xs.mapM f = some ys) (i : ℕ) : ys[i]? = xs[i]?.bind f := by
  have hall := mapM_eq_some_iff_forall₂.mp h
  clear h
  induction hall generalizing i with
  | nil => rfl
  | cons hxy _ ih =>
    cases i with
    | zero => exact hxy.symm
    | succ i => exact ih i

/-- All results exist if each of them does. -/
theorem isSome_mapM : (xs.mapM f).isSome ↔ ∀ x ∈ xs, (f x).isSome := by
  induction xs with
  | nil => simp
  | cons x xs ih =>
    rw [List.forall_mem_cons, ← ih, List.mapM_cons]
    cases f x with
    | none => simp
    | some y => simp [Option.isSome_bind]

end List
