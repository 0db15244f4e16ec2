/-
# Ordered sets

A set kept as its strictly increasing list: iteration runs in increasing order
and meets every member once.  The order is part of the structure, so a list that
is out of order or repeats a member cannot be built.
-/
import Mathlib.Data.List.Sort

/-- A finite set of a linear order, with its members in increasing order. -/
structure OrderedSet (α : Type*) [LinearOrder α] where
  toList : List α
  sorted : toList.Pairwise (· < ·)

namespace OrderedSet

variable {α : Type*} [LinearOrder α]

instance : Membership α (OrderedSet α) := ⟨fun s a => a ∈ s.toList⟩

theorem nodup (s : OrderedSet α) : s.toList.Nodup := s.sorted.imp ne_of_lt

/-- The empty set. -/
def empty : OrderedSet α := ⟨[], List.Pairwise.nil⟩

theorem notMem_empty (a : α) : a ∉ (empty : OrderedSet α) := List.not_mem_nil

/-- Inserting into a strictly increasing list a value it does not contain. -/
theorem pairwise_orderedInsert {a : α} {l : List α} (h : l.Pairwise (· < ·)) (ha : a ∉ l) :
    (l.orderedInsert (· ≤ ·) a).Pairwise (· < ·) := by
  have hle : (l.orderedInsert (· ≤ ·) a).Pairwise (· ≤ ·) :=
    List.Pairwise.orderedInsert a l (h.imp le_of_lt)
  have hnodup : (l.orderedInsert (· ≤ ·) a).Nodup :=
    (List.perm_orderedInsert (· ≤ ·) a l).nodup_iff.mpr
      (List.nodup_cons.mpr ⟨ha, h.imp ne_of_lt⟩)
  exact (hle.and hnodup).imp fun hab => lt_of_le_of_ne hab.1 hab.2

/-- Insertion; a member already present is not inserted again. -/
def insert (s : OrderedSet α) (a : α) : OrderedSet α :=
  if h : a ∈ s.toList then s
  else ⟨s.toList.orderedInsert (· ≤ ·) a, pairwise_orderedInsert s.sorted h⟩

/-- Removal; without effect if the value is not a member. -/
def erase (s : OrderedSet α) (a : α) : OrderedSet α :=
  ⟨s.toList.erase a, s.sorted.sublist List.erase_sublist⟩

/-- The elements after an insertion. -/
@[simp] theorem mem_insert {s : OrderedSet α} {a b : α} : b ∈ s.insert a ↔ b = a ∨ b ∈ s := by
  unfold insert
  split_ifs with h
  · exact ⟨Or.inr, fun hb => hb.elim (fun heq => heq ▸ h) id⟩
  · exact List.mem_orderedInsert (· ≤ ·)

/-- The elements after an erasure. -/
@[simp] theorem mem_erase {s : OrderedSet α} {a b : α} : b ∈ s.erase a ↔ b ≠ a ∧ b ∈ s :=
  s.nodup.mem_erase_iff

end OrderedSet
