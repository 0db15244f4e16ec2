/-
# Slot tables

A slot table hands out small numbers (slots) for objects and takes them back.
It is a growing list of optional entries with a stack of the slots that became
free; `insert` re-uses the slot on top of that stack, and only grows the list
when the stack is empty.  `WellFormed` says that the stack holds exactly the
empty slots, each once, and `Tracks` that the table and the objects agree on which
object is in which slot.
-/
import Mathlib.Tactic

/-- The entries and the stack of free slots. -/
structure SlotTable (α : Type*) where
  freeIDs : List ℕ := []
  elements : List (Option α) := []

namespace SlotTable

variable {α : Type*}

/-- The slot for a new entry, and the table with the entry in it. -/
def insert (t : SlotTable α) (x : α) : ℕ × SlotTable α :=
  match t.freeIDs with
  | [] => (t.elements.length, ⟨[], t.elements ++ [some x]⟩)
  | id :: ids => (id, ⟨ids, t.elements.set id (some x)⟩)

/-- Empties a slot and puts it on the stack. -/
def release (t : SlotTable α) (id : ℕ) : SlotTable α :=
  ⟨id :: t.freeIDs, t.elements.set id none⟩

/-- The entry in a slot. -/
def get? (t : SlotTable α) (id : ℕ) : Option α := t.elements[id]?.join

/-- The stack holds exactly the empty slots, each once. -/
structure WellFormed (t : SlotTable α) : Prop where
  nodup : t.freeIDs.Nodup
  free_iff : ∀ id, id ∈ t.freeIDs ↔ t.elements[id]? = some none

theorem wellFormed_empty : WellFormed ({} : SlotTable α) := ⟨List.nodup_nil, by simp⟩

theorem get?_eq_some {t : SlotTable α} {id : ℕ} {x : α} :
    t.get? id = some x ↔ t.elements[id]? = some (some x) := Option.join_eq_some_iff

/-- An occupied slot is a position of the list. -/
theorem lt_length_of_get? {t : SlotTable α} {id : ℕ} {x : α} (h : t.get? id = some x) :
    id < t.elements.length :=
  (List.getElem?_eq_some_iff.mp (get?_eq_some.mp h)).1

/-! ## `insert` -/

/-- A new entry goes to an empty slot. -/
theorem get?_insert_fst {t : SlotTable α} (h : t.WellFormed) (x : α) :
    t.get? (t.insert x).1 = none := by
  unfold insert get?
  split
  · simp
  · rename_i id ids hfree
    have hid := (h.free_iff id).mp (by rw [hfree]; exact List.mem_cons_self)
    simp [hid]

/-- Inserting changes the new slot only. -/
theorem get?_insert {t : SlotTable α} (h : t.WellFormed) (x : α) (j : ℕ) :
    (t.insert x).2.get? j = if j = (t.insert x).1 then some x else t.get? j := by
  unfold insert get?
  split
  · split_ifs with hj
    · simp [hj]
    · rcases Nat.lt_or_gt_of_ne hj with hlt | hgt
      · rw [List.getElem?_append_left hlt]
      · rw [List.getElem?_eq_none (by simp; omega), List.getElem?_eq_none (by omega)]
  · rename_i id ids hfree
    have hid := (h.free_iff id).mp (by rw [hfree]; exact List.mem_cons_self)
    have hlt := (List.getElem?_eq_some_iff.mp hid).1
    simp only
    rw [List.getElem?_set]
    split_ifs with hj hj'
    · rfl
    · exact absurd hj.symm hj'
    · rename_i hne
      exact absurd hne.symm hj
    · rfl

theorem WellFormed.insert {t : SlotTable α} (h : t.WellFormed) (x : α) :
    (t.insert x).2.WellFormed := by
  unfold SlotTable.insert
  split
  · rename_i hfree
    refine ⟨List.nodup_nil, fun id => ?_⟩
    have hid := h.free_iff id
    rw [hfree] at hid
    simp only [List.not_mem_nil, false_iff] at hid ⊢
    rcases Nat.lt_trichotomy id t.elements.length with hlt | heq | hgt
    · rwa [List.getElem?_append_left hlt]
    · simp [heq]
    · rw [List.getElem?_eq_none (by simp; omega)]
      rintro ⟨⟩
  · rename_i id ids hfree
    have hnodup := h.nodup
    rw [hfree, List.nodup_cons] at hnodup
    refine ⟨hnodup.2, fun j => ?_⟩
    have hj := h.free_iff j
    rw [hfree, List.mem_cons] at hj
    simp only
    rw [List.getElem?_set]
    split_ifs with heq hlt
    · subst heq
      simp [hnodup.1]
    · subst heq
      rw [List.getElem?_eq_none (by omega)] at hj
      simp only [reduceCtorEq, iff_false, not_or] at hj ⊢
      exact hj.2
    · rw [← hj]
      exact ⟨Or.inr, fun hor => hor.resolve_left fun hc => heq hc.symm⟩

/-- Inserting keeps the slots. -/
theorem length_le_insert (t : SlotTable α) (x : α) :
    t.elements.length ≤ (t.insert x).2.elements.length := by
  unfold insert
  split
  · simp
  · simp

/-! ## `release` -/

/-- Releasing keeps the slots. -/
@[simp] theorem length_release (t : SlotTable α) (id : ℕ) :
    (t.release id).elements.length = t.elements.length :=
  List.length_set

/-- Releasing an occupied slot empties that slot only. -/
theorem get?_release {t : SlotTable α} {id : ℕ} {x : α} (hid : t.get? id = some x) (j : ℕ) :
    (t.release id).get? j = if j = id then none else t.get? j := by
  have hlt := lt_length_of_get? hid
  unfold release get?
  simp only
  rw [List.getElem?_set]
  split_ifs with h h' h'
  · rfl
  · exact absurd h.symm h'
  · exact absurd h'.symm h
  · rfl

theorem WellFormed.release {t : SlotTable α} (h : t.WellFormed) {id : ℕ} {x : α}
    (hid : t.get? id = some x) : (t.release id).WellFormed := by
  have hlt := lt_length_of_get? hid
  have hnotfree : id ∉ t.freeIDs := by
    rw [h.free_iff, get?_eq_some.mp hid]
    simp
  refine ⟨List.nodup_cons.mpr ⟨hnotfree, h.nodup⟩, fun j => ?_⟩
  unfold SlotTable.release
  simp only [List.mem_cons]
  rw [List.getElem?_set, h.free_iff]
  split_ifs with heq
  · simp [heq]
  · exact ⟨fun hor => hor.resolve_left fun hc => heq hc.symm, Or.inr⟩

/-! ## Tables of objects that store their slots -/

section Tracks

variable [DecidableEq α]

/-- The table holds each object in the slot that the object stores, and nothing else. -/
structure Tracks (t : SlotTable α) (slot : α → Option ℕ) : Prop where
  wellFormed : t.WellFormed
  get?_iff : ∀ id x, t.get? id = some x ↔ slot x = some id

omit [DecidableEq α] in
theorem tracks_empty : Tracks ({} : SlotTable α) fun _ => none :=
  ⟨wellFormed_empty, fun id x => by simp [get?]⟩

/-- An object that stores the slot it was given. -/
theorem Tracks.insert {t : SlotTable α} {slot : α → Option ℕ} (ht : t.Tracks slot) {x : α}
    (hx : slot x = none) :
    (t.insert x).2.Tracks (Function.update slot x (some (t.insert x).1)) := by
  refine ⟨ht.wellFormed.insert x, fun id y => ?_⟩
  have hfree : ∀ y, slot y ≠ some (t.insert x).1 := fun y hy => by
    have hget := (ht.get?_iff _ y).mpr hy
    rw [get?_insert_fst ht.wellFormed x] at hget
    cases hget
  rw [get?_insert ht.wellFormed, Function.update_apply]
  by_cases hy : y = x
  · subst hy
    rw [if_pos rfl, Option.some.injEq]
    split_ifs with hid
    · exact ⟨fun _ => hid.symm, fun _ => rfl⟩
    · rw [ht.get?_iff, hx]
      exact ⟨by rintro ⟨⟩, fun h => absurd h.symm hid⟩
  · rw [if_neg hy, ← ht.get?_iff]
    split_ifs with hid
    · rw [hid, ht.get?_iff, Option.some.injEq]
      exact ⟨fun h => absurd h.symm hy, fun h => absurd h (hfree y)⟩
    · rfl

/-- An object that leaves its slot. -/
theorem Tracks.release {t : SlotTable α} {slot : α → Option ℕ} (ht : t.Tracks slot) {x : α}
    {id : ℕ} (hx : slot x = some id) : (t.release id).Tracks (Function.update slot x none) := by
  have hget := (ht.get?_iff id x).mpr hx
  refine ⟨ht.wellFormed.release hget, fun j y => ?_⟩
  rw [get?_release hget, Function.update_apply]
  by_cases hy : y = x
  · subst hy
    rw [if_pos rfl]
    split_ifs with hj
    · rfl
    · rw [ht.get?_iff, hx, Option.some.injEq]
      exact ⟨fun h => absurd h.symm hj, fun h => by cases h⟩
  · rw [if_neg hy, ← ht.get?_iff]
    split_ifs with hj
    · rw [hj, hget, Option.some.injEq]
      exact ⟨by rintro ⟨⟩, fun h => absurd h.symm hy⟩
    · rfl

end Tracks

end SlotTable
