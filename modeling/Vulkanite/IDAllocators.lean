/-
# The three ID allocators

`ListOf` and `IndexedListOf` (`RTPipeline.h`) number the objects of a pipeline and
keep a table of them; `IDPool` (`Context.h`) hands out numbers alone.  All three
take the ID that was released last, and a new one only if none is released.

Each is shown to be a slot table: `ListOf` and `IndexedListOf` are one, up to the
names, and `IDPool` is one without its entries.  A run gives the same calls to all
three; the number of live and of free IDs add up to the length of the table, so the
table grows only when every slot is in use, which makes its length the peak.

An ID is a natural number here.  The source keeps it in an `int`, which holds it as long
as no more than `INT_MAX` objects were ever live at the same time (`Reachable.int_eq`).
-/
import Mathlib.Logic.Relation
import Vulkanite.Lib.SlotTable
import Vulkanite.SizeT

namespace Vulkanite

/-! ## The allocators of the source -/

/-- `ListOf<T>`; the top of the stack is the head of the list. -/
structure ListOf (T : Type*) where
  freeIDs : List ℕ := []
  elements : List (Option T) := []

/-- `ListOf::insert`. -/
def ListOf.insert {T : Type*} (l : ListOf T) (me : T) : ℕ × ListOf T :=
  match l.freeIDs with
  | [] => (l.elements.length, { l with elements := l.elements ++ [some me] })
  | ID :: ids => (ID, { freeIDs := ids, elements := l.elements.set ID (some me) })

/-- `ListOf::release`. -/
def ListOf.release {T : Type*} (l : ListOf T) (ID : ℕ) : ListOf T :=
  { freeIDs := ID :: l.freeIDs, elements := l.elements.set ID none }

/-- `IndexedListOf<T>`. -/
structure IndexedListOf (T : Type*) where
  data : List (Option T) := []
  freeIDs : List ℕ := []

/-- `IndexedListOf::track`. -/
def IndexedListOf.track {T : Type*} (l : IndexedListOf T) (t : T) : ℕ × IndexedListOf T :=
  match l.freeIDs with
  | [] => (l.data.length, { l with data := l.data ++ [some t] })
  | ID :: ids => (ID, { data := l.data.set ID (some t), freeIDs := ids })

/-- `IndexedListOf::forget`. -/
def IndexedListOf.forget {T : Type*} (l : IndexedListOf T) (ID : ℕ) : IndexedListOf T :=
  { data := l.data.set ID none, freeIDs := ID :: l.freeIDs }

/-- `IDPool`. -/
structure IDPool where
  freeIDs : List ℕ := []
  maxUsed : ℕ := 0
  deriving DecidableEq, Repr

/-- `IDPool::alloc`. -/
def IDPool.alloc (p : IDPool) : ℕ × IDPool :=
  match p.freeIDs with
  | [] => (p.maxUsed, { p with maxUsed := p.maxUsed + 1 })
  | ID :: ids => (ID, { p with freeIDs := ids })

/-- `IDPool::release`. -/
def IDPool.release (p : IDPool) (ID : ℕ) : IDPool := { p with freeIDs := ID :: p.freeIDs }

section Refinement

variable {T : Type*}

/-! ## Each is a slot table -/

/-- The slot table that a `ListOf` is. -/
def ListOf.slots (l : ListOf T) : SlotTable T := ⟨l.freeIDs, l.elements⟩

/-- The slot table that an `IndexedListOf` is. -/
def IndexedListOf.slots (l : IndexedListOf T) : SlotTable T := ⟨l.freeIDs, l.data⟩

/-- The pool counts the slots of the table and has the same free ones. -/
structure IDPool.Counts (p : IDPool) (t : SlotTable T) : Prop where
  freeIDs : p.freeIDs = t.freeIDs
  maxUsed : p.maxUsed = t.elements.length

/-- `ListOf::insert` is that of a slot table. -/
theorem ListOf.slots_insert (l : ListOf T) (me : T) :
    (l.insert me).1 = (l.slots.insert me).1 ∧ (l.insert me).2.slots = (l.slots.insert me).2 := by
  obtain ⟨freeIDs, elements⟩ := l
  cases freeIDs with
  | nil => exact ⟨rfl, rfl⟩
  | cons ID ids => exact ⟨rfl, rfl⟩

/-- `ListOf::release` is that of a slot table. -/
theorem ListOf.slots_release (l : ListOf T) (ID : ℕ) :
    (l.release ID).slots = l.slots.release ID := rfl

/-- `IndexedListOf::track` is the insertion into a slot table. -/
theorem IndexedListOf.slots_track (l : IndexedListOf T) (t : T) :
    (l.track t).1 = (l.slots.insert t).1 ∧ (l.track t).2.slots = (l.slots.insert t).2 := by
  obtain ⟨data, freeIDs⟩ := l
  cases freeIDs with
  | nil => exact ⟨rfl, rfl⟩
  | cons ID ids => exact ⟨rfl, rfl⟩

/-- `IndexedListOf::forget` is the release of a slot. -/
theorem IndexedListOf.slots_forget (l : IndexedListOf T) (ID : ℕ) :
    (l.forget ID).slots = l.slots.release ID := rfl

/-- The pool hands out the slot of the table. -/
theorem IDPool.Counts.alloc {p : IDPool} {t : SlotTable T} (h : p.Counts t) (x : T) :
    p.alloc.1 = (t.insert x).1 ∧ p.alloc.2.Counts (t.insert x).2 := by
  obtain ⟨freeIDs, elements⟩ := t
  obtain rfl : p = ⟨freeIDs, elements.length⟩ := by
    cases p
    rw [IDPool.mk.injEq]
    exact ⟨h.freeIDs, h.maxUsed⟩
  cases freeIDs with
  | nil =>
    refine ⟨rfl, rfl, ?_⟩
    show elements.length + 1 = (elements ++ [some x]).length
    rw [List.length_append, List.length_singleton]
  | cons ID ids =>
    refine ⟨rfl, rfl, ?_⟩
    show elements.length = (elements.set ID (some x)).length
    rw [List.length_set]

/-- The pool takes the slot back with the table. -/
theorem IDPool.Counts.release {p : IDPool} {t : SlotTable T} (h : p.Counts t) (ID : ℕ) :
    (p.release ID).Counts (t.release ID) where
  freeIDs := congrArg (ID :: ·) h.freeIDs
  maxUsed := by rw [SlotTable.length_release, ← h.maxUsed]; rfl

end Refinement

/-! ## Runs -/

/-- The three allocators after the same calls.  `live` are the objects inserted and
not released, each with the ID it was given; `peak` is the largest number of objects
that were live at the same time. -/
structure IDRun (T : Type*) where
  listOf : ListOf T := {}
  indexedListOf : IndexedListOf T := {}
  idPool : IDPool := {}
  live : List (ℕ × T) := []
  peak : ℕ := 0

namespace IDRun

variable {T : Type*}

/-- A new object. -/
def insert (s : IDRun T) (x : T) : IDRun T where
  listOf := (s.listOf.insert x).2
  indexedListOf := (s.indexedListOf.track x).2
  idPool := s.idPool.alloc.2
  live := ((s.listOf.insert x).1, x) :: s.live
  peak := max s.peak (s.live.length + 1)

/-- The object with this ID dies. -/
def release (s : IDRun T) (ID : ℕ) : IDRun T where
  listOf := s.listOf.release ID
  indexedListOf := s.indexedListOf.forget ID
  idPool := s.idPool.release ID
  live := s.live.eraseP fun p => p.1 = ID
  peak := s.peak

/-- One call to each allocator; `release` names a live ID. -/
inductive Step : IDRun T → IDRun T → Prop
  | insert (s : IDRun T) (x : T) : Step s (s.insert x)
  | release (s : IDRun T) (ID : ℕ) (hlive : ID ∈ s.live.map Prod.fst) : Step s (s.release ID)

/-- The states of the runs that start with empty tables. -/
def Reachable (s : IDRun T) : Prop := Relation.ReflTransGen Step {} s

/-- The allocators are one slot table, which holds the live objects; every slot is
live or free, and once they were all live. -/
structure Invariant (s : IDRun T) : Prop where
  indexed : s.indexedListOf.slots = s.listOf.slots
  pool : s.idPool.Counts s.listOf.slots
  wellFormed : s.listOf.slots.WellFormed
  get?_iff : ∀ ID x, s.listOf.slots.get? ID = some x ↔ (ID, x) ∈ s.live
  nodup : (s.live.map Prod.fst).Nodup
  count : s.live.length + s.listOf.freeIDs.length = s.listOf.elements.length
  peak : s.listOf.elements.length = s.peak

theorem invariant_init : Invariant ({} : IDRun T) where
  indexed := rfl
  pool := ⟨rfl, rfl⟩
  wellFormed := SlotTable.wellFormed_empty
  get?_iff := fun ID x => by simp [SlotTable.get?, ListOf.slots]
  nodup := List.nodup_nil
  count := rfl
  peak := rfl

/-- The ID of a new object is no live one. -/
theorem Invariant.insert_notMem {s : IDRun T} (h : s.Invariant) (x : T) :
    (s.listOf.insert x).1 ∉ s.live.map Prod.fst := by
  intro hmem
  obtain ⟨⟨ID, y⟩, hy, hID⟩ := List.mem_map.mp hmem
  have hget := (h.get?_iff ID y).mpr hy
  have hfree := SlotTable.get?_insert_fst h.wellFormed x
  rw [← (s.listOf.slots_insert x).1, ← hID, hget] at hfree
  cases hfree

/-- The table grows by the slot of the new object, if no slot is free. -/
theorem length_insert (l : ListOf T) (x : T) :
    (l.freeIDs = [] → (l.insert x).2.freeIDs = [] ∧
      (l.insert x).2.elements.length = l.elements.length + 1) ∧
    (l.freeIDs ≠ [] → (l.insert x).2.freeIDs.length + 1 = l.freeIDs.length ∧
      (l.insert x).2.elements.length = l.elements.length) := by
  obtain ⟨freeIDs, elements⟩ := l
  cases freeIDs with
  | nil =>
    refine ⟨fun _ => ⟨rfl, ?_⟩, fun hne => absurd rfl hne⟩
    show (elements ++ [some x]).length = elements.length + 1
    rw [List.length_append, List.length_singleton]
  | cons ID ids =>
    exact ⟨fun hnil => absurd hnil (List.cons_ne_nil ID ids), fun _ => ⟨rfl, List.length_set⟩⟩

/-- The new object is in its slot, and the others are where they were. -/
theorem Invariant.get?_insert {s : IDRun T} (h : s.Invariant) (x : T) (ID : ℕ) (y : T) :
    (s.listOf.insert x).2.slots.get? ID = some y ↔
      (ID, y) ∈ ((s.listOf.insert x).1, x) :: s.live := by
  obtain ⟨hID, hslots⟩ := s.listOf.slots_insert x
  rw [hslots, SlotTable.get?_insert h.wellFormed, ← hID, List.mem_cons, Prod.mk.injEq]
  split_ifs with heq
  · have hnot : (ID, y) ∉ s.live := fun hmem =>
      h.insert_notMem x (heq ▸ List.mem_map_of_mem hmem)
    rw [Option.some.injEq, or_iff_left hnot]
    exact ⟨fun hxy => ⟨heq, hxy.symm⟩, fun hxy => hxy.2.symm⟩
  · rw [h.get?_iff, or_iff_right fun hc => heq hc.1]

/-- With a new object every slot is still live or free, and there are as many slots as
objects were ever live. -/
theorem Invariant.count_insert {s : IDRun T} (h : s.Invariant) (x : T) :
    s.live.length + 1 + (s.listOf.insert x).2.freeIDs.length =
        (s.listOf.insert x).2.elements.length ∧
      (s.listOf.insert x).2.elements.length = max s.peak (s.live.length + 1) := by
  have hlen := length_insert s.listOf x
  have hcount := h.count
  have hpeak := h.peak
  by_cases hfree : s.listOf.freeIDs = []
  · -- every slot is live
    obtain ⟨hnil, hgrow⟩ := hlen.1 hfree
    rw [hfree, List.length_nil] at hcount
    rw [hnil, List.length_nil]
    omega
  · obtain ⟨hpop, hkeep⟩ := hlen.2 hfree
    omega

/-- A new object keeps the invariant. -/
theorem Invariant.insert {s : IDRun T} (h : s.Invariant) (x : T) : (s.insert x).Invariant where
  indexed := by
    show (s.indexedListOf.track x).2.slots = (s.listOf.insert x).2.slots
    rw [(s.indexedListOf.slots_track x).2, (s.listOf.slots_insert x).2, h.indexed]
  pool := by
    show s.idPool.alloc.2.Counts (s.listOf.insert x).2.slots
    rw [(s.listOf.slots_insert x).2]
    exact (h.pool.alloc x).2
  wellFormed := by
    show (s.listOf.insert x).2.slots.WellFormed
    rw [(s.listOf.slots_insert x).2]
    exact h.wellFormed.insert x
  get?_iff := h.get?_insert x
  nodup := by
    show (((s.listOf.insert x).1, x) :: s.live).map Prod.fst |>.Nodup
    rw [List.map_cons, List.nodup_cons]
    exact ⟨h.insert_notMem x, h.nodup⟩
  count := (h.count_insert x).1
  peak := (h.count_insert x).2

/-- Among entries with distinct IDs, those left are the ones with another ID. -/
theorem mem_eraseP_fst {xs : List (ℕ × T)} (h : (xs.map Prod.fst).Nodup) {ID ID' : ℕ} {x : T} :
    (ID', x) ∈ xs.eraseP (fun p => p.1 = ID) ↔ ID' ≠ ID ∧ (ID', x) ∈ xs := by
  induction xs with
  | nil => simp
  | cons p xs ih =>
    rw [List.map_cons, List.nodup_cons] at h
    by_cases hp : p.1 = ID
    · rw [List.eraseP_cons_of_pos (by simpa using hp), List.mem_cons]
      constructor
      · intro hmem
        refine ⟨?_, Or.inr hmem⟩
        rintro rfl
        exact h.1 (hp ▸ List.mem_map_of_mem hmem)
      · rintro ⟨hne, rfl | hmem⟩
        · exact absurd hp hne
        · exact hmem
    · rw [List.eraseP_cons_of_neg (by simpa using hp), List.mem_cons, ih h.2, List.mem_cons]
      constructor
      · rintro (rfl | ⟨hne, hmem⟩)
        · exact ⟨hp, Or.inl rfl⟩
        · exact ⟨hne, Or.inr hmem⟩
      · rintro ⟨hne, rfl | hmem⟩
        · exact Or.inl rfl
        · exact Or.inr ⟨hne, hmem⟩

/-- The other objects are where they were. -/
theorem Invariant.get?_release {s : IDRun T} (h : s.Invariant) {ID : ℕ} {x : T}
    (hx : (ID, x) ∈ s.live) (ID' : ℕ) (y : T) :
    (s.listOf.release ID).slots.get? ID' = some y ↔
      (ID', y) ∈ s.live.eraseP fun p => p.1 = ID := by
  rw [ListOf.slots_release, SlotTable.get?_release ((h.get?_iff ID x).mpr hx),
    mem_eraseP_fst h.nodup]
  split_ifs with heq
  · simp [heq]
  · rw [h.get?_iff]
    exact ⟨fun hmem => ⟨heq, hmem⟩, And.right⟩

/-- An object that dies keeps the invariant. -/
theorem Invariant.release {s : IDRun T} (h : s.Invariant) {ID : ℕ} {x : T}
    (hx : (ID, x) ∈ s.live) : (s.release ID).Invariant where
  indexed := by
    show (s.indexedListOf.forget ID).slots = (s.listOf.release ID).slots
    rw [IndexedListOf.slots_forget, ListOf.slots_release, h.indexed]
  pool := by
    show (s.idPool.release ID).Counts (s.listOf.release ID).slots
    rw [ListOf.slots_release]
    exact h.pool.release ID
  wellFormed := by
    show (s.listOf.release ID).slots.WellFormed
    rw [ListOf.slots_release]
    exact h.wellFormed.release ((h.get?_iff ID x).mpr hx)
  get?_iff := h.get?_release hx
  nodup := h.nodup.sublist (List.eraseP_sublist.map Prod.fst)
  count := by
    show (s.live.eraseP fun p => p.1 = ID).length + (s.listOf.freeIDs.length + 1) =
      (s.listOf.elements.set ID none).length
    have hcount := h.count
    have herase := List.length_eraseP_add_one (p := fun p => decide (p.1 = ID)) hx (by simp)
    rw [List.length_set]
    omega
  peak := by
    show (s.listOf.elements.set ID none).length = s.peak
    rw [List.length_set, h.peak]

/-- Run lemma. -/
theorem Reachable.invariant {s : IDRun T} (h : s.Reachable) : s.Invariant := by
  induction h with
  | refl => exact invariant_init
  | tail _ hstep ih =>
    cases hstep with
    | insert x => exact ih.insert x
    | release ID hlive =>
      obtain ⟨⟨_, x⟩, hx, rfl⟩ := List.mem_map.mp hlive
      exact ih.release hx

/-! ## The free IDs -/

/-- The slots of the table are the live IDs and the free ones. -/
theorem Invariant.mem_freeIDs {s : IDRun T} (h : s.Invariant) (ID : ℕ) :
    ID ∈ s.listOf.freeIDs ↔
      ID < s.listOf.elements.length ∧ ID ∉ s.live.map Prod.fst := by
  have hfree : ID ∈ s.listOf.freeIDs ↔ s.listOf.elements[ID]? = some none :=
    h.wellFormed.free_iff ID
  have hlive : ID ∈ s.live.map Prod.fst ↔ ∃ x, s.listOf.elements[ID]? = some (some x) := by
    rw [List.mem_map]
    constructor
    · rintro ⟨⟨_, x⟩, hx, rfl⟩
      exact ⟨x, SlotTable.get?_eq_some.mp ((h.get?_iff _ x).mpr hx)⟩
    · rintro ⟨x, hx⟩
      exact ⟨(ID, x), (h.get?_iff ID x).mp (SlotTable.get?_eq_some.mpr hx), rfl⟩
  rw [hfree, hlive]
  constructor
  · intro hnone
    refine ⟨(List.getElem?_eq_some_iff.mp hnone).1, ?_⟩
    rintro ⟨x, hx⟩
    rw [hnone] at hx
    cases hx
  · rintro ⟨hlt, hnot⟩
    rw [List.getElem?_eq_getElem hlt] at hnot ⊢
    cases hx : s.listOf.elements[ID] with
    | none => rfl
    | some x => exact absurd ⟨x, congrArg some hx⟩ hnot

/-! ## The `int`s of the source -/

/-- No more than `INT_MAX` objects were ever live at the same time. -/
def IDsFit (s : IDRun T) : Prop := s.peak ≤ intMax

/-- The IDs in use and the free ones are below the peak. -/
theorem Invariant.lt_peak {s : IDRun T} (h : s.Invariant) {ID : ℕ}
    (hID : ID ∈ s.live.map Prod.fst ∨ ID ∈ s.listOf.freeIDs) : ID < s.peak := by
  rw [← h.peak]
  rcases hID with hlive | hfree
  · obtain ⟨⟨ID, x⟩, hx, rfl⟩ := List.mem_map.mp hlive
    have hslot := SlotTable.get?_eq_some.mp ((h.get?_iff ID x).mpr hx)
    exact (List.getElem?_eq_some_iff.mp hslot).1
  · exact ((h.mem_freeIDs ID).mp hfree).1

/-- **An `int` holds every number of the allocators**: the IDs in use, those on the stacks,
and the length of the table, which is the next one. -/
theorem Reachable.int_eq {s : IDRun T} (h : s.Reachable) (hfit : s.IDsFit) :
    (∀ ID, ID ∈ s.live.map Prod.fst ∨ ID ∈ s.listOf.freeIDs → Int.bmod ID (2 ^ 32) = ID) ∧
      Int.bmod s.listOf.elements.length (2 ^ 32) = s.listOf.elements.length ∧
      Int.bmod s.idPool.maxUsed (2 ^ 32) = s.idPool.maxUsed := by
  have hinv := h.invariant
  have hlength : s.listOf.elements.length ≤ intMax := hinv.peak.trans_le hfit
  have hmax : s.idPool.maxUsed = s.listOf.elements.length := hinv.pool.maxUsed
  refine ⟨fun ID hID => bmod_of_le_intMax ((hinv.lt_peak hID).le.trans hfit),
    bmod_of_le_intMax hlength, ?_⟩
  rw [hmax]
  exact bmod_of_le_intMax hlength

/-! ## One allocator -/

/-- **The three ID allocators implement the same one.**  After every step of every
run a new object gets the same ID from each; the IDs of the live objects are distinct;
both tables hold each live object in its own slot and nothing else; the free IDs of
each are the slots that no live object has, each once; and the length of the table,
or `maxUsed`, is the peak number of live objects. -/
theorem id_allocators_agree (s : IDRun T) (h : s.Reachable) :
    (∀ x, (s.listOf.insert x).1 = (s.indexedListOf.track x).1 ∧
        (s.listOf.insert x).1 = s.idPool.alloc.1) ∧
      (s.live.map Prod.fst).Nodup ∧
      (∀ ID x, s.listOf.elements[ID]? = some (some x) ↔ (ID, x) ∈ s.live) ∧
      (∀ ID x, s.indexedListOf.data[ID]? = some (some x) ↔ (ID, x) ∈ s.live) ∧
      (s.listOf.freeIDs.Nodup ∧ ∀ ID, ID ∈ s.listOf.freeIDs ↔
        ID < s.listOf.elements.length ∧ ID ∉ s.live.map Prod.fst) ∧
      (s.indexedListOf.freeIDs.Nodup ∧ ∀ ID, ID ∈ s.indexedListOf.freeIDs ↔
        ID < s.indexedListOf.data.length ∧ ID ∉ s.live.map Prod.fst) ∧
      (s.idPool.freeIDs.Nodup ∧ ∀ ID, ID ∈ s.idPool.freeIDs ↔
        ID < s.idPool.maxUsed ∧ ID ∉ s.live.map Prod.fst) ∧
      s.listOf.elements.length = s.peak ∧ s.indexedListOf.data.length = s.peak ∧
      s.idPool.maxUsed = s.peak := by
  have hinv := h.invariant
  have hdata : s.indexedListOf.data = s.listOf.elements :=
    congrArg SlotTable.elements hinv.indexed
  have hids : s.indexedListOf.freeIDs = s.listOf.freeIDs :=
    congrArg SlotTable.freeIDs hinv.indexed
  have hpool : s.idPool.freeIDs = s.listOf.freeIDs := hinv.pool.freeIDs
  have hmax : s.idPool.maxUsed = s.listOf.elements.length := hinv.pool.maxUsed
  have hget : ∀ ID x, s.listOf.elements[ID]? = some (some x) ↔ (ID, x) ∈ s.live := fun ID x =>
    SlotTable.get?_eq_some.symm.trans (hinv.get?_iff ID x)
  have hfree := And.intro hinv.wellFormed.nodup hinv.mem_freeIDs
  rw [hdata, hids, hpool, hmax]
  refine ⟨fun x => ⟨?_, ?_⟩, hinv.nodup, hget, hget, hfree, hfree, hfree, hinv.peak, hinv.peak,
    hinv.peak⟩
  · rw [(s.listOf.slots_insert x).1, (s.indexedListOf.slots_track x).1, hinv.indexed]
  · rw [(s.listOf.slots_insert x).1, (hinv.pool.alloc x).1]

/-- Two objects, the first of which died, and a third in its slot. -/
def sampleRun : IDRun Bool := (((insert {} true).insert false).release 0).insert true

theorem id_allocators_agree_sampleRun :
    sampleRun.live = [(0, true), (1, false)] ∧ sampleRun.idPool.maxUsed = 2 ∧
      sampleRun.listOf.elements.length = sampleRun.peak := by
  have h : sampleRun.Reachable :=
    (((Relation.ReflTransGen.single (Step.insert {} true)).tail (Step.insert _ false)).tail
      (Step.release _ 0 (by decide))).tail (Step.insert _ true)
  exact ⟨by decide, by decide, (id_allocators_agree sampleRun h).2.2.2.2.2.2.2.1⟩

end IDRun

end Vulkanite
