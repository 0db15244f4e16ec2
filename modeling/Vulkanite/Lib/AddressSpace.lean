/-
# Memory by addresses

A memory says what is at each address.  `store` puts a list there and `load` reads one.
What was stored is there (`store_inside`), everything else is as before (`store_outside`),
and a load depends on what is at its addresses only (`load_congr`).
-/
import Mathlib.Data.List.GetD
import Mathlib.Tactic

namespace AddressSpace

variable {α : Type*}

/-- The memory after a list was stored from `a` on. -/
def store (mem : ℕ → α) (a : ℕ) (xs : List α) : ℕ → α := fun x =>
  if a ≤ x then xs.getD (x - a) (mem x) else mem x

/-- The `n` elements from `a` on. -/
def load (mem : ℕ → α) (a n : ℕ) : List α := (List.range n).map fun k => mem (a + k)

theorem store_inside (mem : ℕ → α) {a k : ℕ} {xs : List α} (hk : k < xs.length) :
    store mem a xs (a + k) = xs[k] := by
  rw [store, if_pos (Nat.le_add_right a k), Nat.add_sub_cancel_left, List.getD_eq_getElem _ _ hk]

theorem store_outside (mem : ℕ → α) {a x : ℕ} {xs : List α} (hx : x < a ∨ a + xs.length ≤ x) :
    store mem a xs x = mem x := by
  unfold store
  split_ifs with ha
  · exact List.getD_eq_default _ _ (by omega)
  · rfl

theorem load_congr {mem mem' : ℕ → α} {a a' n : ℕ}
    (h : ∀ k < n, mem (a + k) = mem' (a' + k)) : load mem a n = load mem' a' n :=
  List.map_congr_left fun k hk => h k (List.mem_range.mp hk)

end AddressSpace
