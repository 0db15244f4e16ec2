/-
# Bounded memory and tables of records

A block of memory is a list of cells.  `write` and `read` are `memcpy` with the
bounds checked: they fail when they would leave the block.  `writeAll` is a
sequence of writes.  Writes that stay within the block and do not overlap all
succeed, and each cell range then holds what was written to it
(`exists_writeAll`).  Records at multiples of a stride do not overlap as long as
none is longer than the stride (`apart_of_stride`).
-/
import Mathlib.Tactic

namespace ByteMemory

variable {α : Type*}

/-- Overwrites the cells from `off` on. -/
def write (m : List α) (off : ℕ) (bs : List α) : Option (List α) :=
  if off + bs.length ≤ m.length then some (m.take off ++ (bs ++ m.drop (off + bs.length)))
  else none

/-- The `len` cells from `off` on. -/
def read (m : List α) (off len : ℕ) : Option (List α) :=
  if off + len ≤ m.length then some ((m.drop off).take len) else none

theorem write_of_le {m : List α} {off : ℕ} {bs : List α} (h : off + bs.length ≤ m.length) :
    write m off bs = some (m.take off ++ (bs ++ m.drop (off + bs.length))) := if_pos h

theorem le_of_write {m m' : List α} {off : ℕ} {bs : List α} (h : write m off bs = some m') :
    off + bs.length ≤ m.length := by
  unfold write at h
  split_ifs at h with hle
  exact hle

theorem length_write {m m' : List α} {off : ℕ} {bs : List α} (h : write m off bs = some m') :
    m'.length = m.length := by
  have hle := le_of_write h
  rw [write_of_le hle] at h
  obtain rfl := Option.some.inj h
  simp only [List.length_append, List.length_take, List.length_drop]
  omega

/-- The cells after a write. -/
theorem getElem?_write {m m' : List α} {off : ℕ} {bs : List α} (h : write m off bs = some m')
    (i : ℕ) : m'[i]? = if off ≤ i ∧ i < off + bs.length then bs[i - off]? else m[i]? := by
  have hle := le_of_write h
  rw [write_of_le hle] at h
  obtain rfl := Option.some.inj h
  have htake : (m.take off).length = off := by rw [List.length_take]; omega
  by_cases h₁ : i < off
  · rw [List.getElem?_append_left (by omega), List.getElem?_take_of_lt h₁, if_neg (by omega)]
  · rw [List.getElem?_append_right (by omega), htake]
    by_cases h₂ : i < off + bs.length
    · rw [List.getElem?_append_left (by omega), if_pos (by omega)]
    · rw [List.getElem?_append_right (by omega), List.getElem?_drop, if_neg (by omega)]
      congr 1
      omega

/-- Reading from the first cell on. -/
theorem read_zero_eq_some {m bs : List α} {len : ℕ} :
    read m 0 len = some bs ↔ len ≤ m.length ∧ m.take len = bs := by
  unfold read
  rw [Nat.zero_add, List.drop_zero]
  split_ifs with h
  · simp [h]
  · simp [h]

theorem read_eq_some {m bs : List α} {off len : ℕ} :
    read m off len = some bs ↔
      off + len ≤ m.length ∧ bs.length = len ∧ ∀ i, i < len → m[off + i]? = bs[i]? := by
  unfold read
  constructor
  · intro h
    split_ifs at h with hle
    obtain rfl := Option.some.inj h
    refine ⟨hle, by rw [List.length_take, List.length_drop]; omega, fun i hi => ?_⟩
    rw [List.getElem?_take_of_lt hi, List.getElem?_drop]
  · rintro ⟨hle, hlen, hbs⟩
    rw [if_pos hle, Option.some.injEq]
    refine List.ext_getElem? fun i => ?_
    by_cases hi : i < len
    · rw [List.getElem?_take_of_lt hi, List.getElem?_drop, hbs i hi]
    · rw [List.getElem?_eq_none (by rw [List.length_take]; omega),
        List.getElem?_eq_none (by omega)]

/-- What was written is read back. -/
theorem read_write_same {m m' : List α} {off : ℕ} {bs : List α}
    (h : write m off bs = some m') : read m' off bs.length = some bs := by
  have hle := le_of_write h
  refine read_eq_some.mpr ⟨by rw [length_write h]; exact hle, rfl, fun i hi => ?_⟩
  rw [getElem?_write h, if_pos (by omega), Nat.add_sub_cancel_left]

/-- Cells away from a write keep their content. -/
theorem read_write_apart {m m' : List α} {off o len : ℕ} {bs : List α}
    (h : write m off bs = some m') (hd : o + len ≤ off ∨ off + bs.length ≤ o) :
    read m' o len = read m o len := by
  refine Option.ext fun x => ?_
  have hcell : ∀ i, i < len → m'[o + i]? = m[o + i]? := fun i hi => by
    rw [getElem?_write h, if_neg (by omega)]
  rw [read_eq_some, read_eq_some, length_write h]
  constructor
  · rintro ⟨hle, hlen, hx⟩
    exact ⟨hle, hlen, fun i hi => (hcell i hi).symm.trans (hx i hi)⟩
  · rintro ⟨hle, hlen, hx⟩
    exact ⟨hle, hlen, fun i hi => (hcell i hi).trans (hx i hi)⟩

/-- A part of a range that was read. -/
theorem read_part {m bs : List α} {off len o l : ℕ} (h : read m off len = some bs)
    (ho : o + l ≤ len) : read m (off + o) l = read bs o l := by
  obtain ⟨hle, hlen, hcell⟩ := read_eq_some.mp h
  have hpart : ∀ i, i < l → m[off + o + i]? = bs[o + i]? := fun i hi => by
    rw [Nat.add_assoc, hcell _ (by omega)]
  refine Option.ext fun x => ?_
  rw [read_eq_some, read_eq_some]
  constructor
  · rintro ⟨-, hx, hcells⟩
    exact ⟨by omega, hx, fun i hi => (hpart i hi).symm.trans (hcells i hi)⟩
  · rintro ⟨-, hx, hcells⟩
    exact ⟨by omega, hx, fun i hi => (hpart i hi).trans (hcells i hi)⟩

/-- Writing two pieces one after the other is writing them at once. -/
theorem write_append {m : List α} {off : ℕ} {as bs : List α}
    (h : off + (as ++ bs).length ≤ m.length) :
    (write m off as).bind (write · (off + as.length) bs) = write m off (as ++ bs) := by
  rw [List.length_append] at h
  have has := write_of_le (show off + as.length ≤ m.length by omega)
  have hlen := length_write has
  rw [has, Option.bind_some, write_of_le (by rw [hlen]; omega),
    write_of_le (by rw [List.length_append]; omega), Option.some.injEq]
  refine List.ext_getElem? fun i => ?_
  have hbs : write (m.take off ++ (as ++ m.drop (off + as.length))) (off + as.length) bs =
      some _ := write_of_le (by rw [hlen]; omega)
  have habs := write_of_le (show off + (as ++ bs).length ≤ m.length by
    rw [List.length_append]; omega)
  rw [getElem?_write hbs, getElem?_write has, getElem?_write habs, List.length_append]
  split_ifs with h₁ h₂ h₂ h₂
  · rw [List.getElem?_append_right (by omega)]
    congr 1
    omega
  · omega
  · rw [List.getElem?_append_left (by omega)]
  · omega
  · omega
  · rfl

/-! ## Sequences of writes -/

/-- Performs the writes in order; a write is an offset and the cells. -/
def writeAll (m : List α) (ws : List (ℕ × List α)) : Option (List α) :=
  ws.foldlM (fun m w => write m w.1 w.2) m

theorem writeAll_singleton (m : List α) (w : ℕ × List α) : writeAll m [w] = write m w.1 w.2 := by
  unfold writeAll
  rw [List.foldlM_cons]
  cases write m w.1 w.2 <;> rfl

theorem writeAll_append (m : List α) (ws ws' : List (ℕ × List α)) :
    writeAll m (ws ++ ws') = (writeAll m ws).bind (writeAll · ws') := List.foldlM_append

theorem length_writeAll {m m' : List α} {ws : List (ℕ × List α)} (h : writeAll m ws = some m') :
    m'.length = m.length := by
  induction ws generalizing m with
  | nil => rw [← Option.some.inj h]
  | cons w ws ih =>
    unfold writeAll at h
    rw [List.foldlM_cons] at h
    obtain ⟨m₁, hm₁, h⟩ := Option.bind_eq_some_iff.mp h
    exact (ih h).trans (length_write hm₁)

/-- Cells that no write touches keep their content. -/
theorem getElem?_writeAll {m m' : List α} {ws : List (ℕ × List α)} (h : writeAll m ws = some m')
    {i : ℕ} (hi : ∀ w ∈ ws, ¬ (w.1 ≤ i ∧ i < w.1 + w.2.length)) : m'[i]? = m[i]? := by
  induction ws generalizing m with
  | nil => rw [← Option.some.inj h]
  | cons w ws ih =>
    unfold writeAll at h
    rw [List.foldlM_cons] at h
    obtain ⟨m₁, hm₁, h⟩ := Option.bind_eq_some_iff.mp h
    rw [ih h fun w' hw' => hi w' (List.mem_cons_of_mem w hw'), getElem?_write hm₁,
      if_neg (hi w List.mem_cons_self)]

/-- Two writes do not overlap. -/
def Apart (w w' : ℕ × List α) : Prop :=
  w.1 + w.2.length ≤ w'.1 ∨ w'.1 + w'.2.length ≤ w.1

/-- **Writes that stay inside and do not overlap all succeed**, and afterwards
every range that was written holds what was written there. -/
theorem exists_writeAll {m : List α} {ws : List (ℕ × List α)}
    (hin : ∀ w ∈ ws, w.1 + w.2.length ≤ m.length) (hap : ws.Pairwise Apart) :
    ∃ m', writeAll m ws = some m' ∧ m'.length = m.length ∧
      ∀ w ∈ ws, read m' w.1 w.2.length = some w.2 := by
  induction ws using List.reverseRecOn with
  | nil => exact ⟨m, rfl, rfl, by simp⟩
  | append_singleton ws w ih =>
    rw [List.pairwise_append] at hap
    obtain ⟨m₁, hrun, hlen, hread⟩ := ih (fun w' hw' => hin w' (by simp [hw'])) hap.1
    have hwrite := write_of_le (show w.1 + w.2.length ≤ m₁.length by
      rw [hlen]; exact hin w (by simp))
    refine ⟨_, ?_, (length_write hwrite).trans hlen, fun w' hw' => ?_⟩
    · unfold writeAll at hrun ⊢
      rw [List.foldlM_append, hrun]
      exact (Option.bind_some ..).trans ((congrArg (Option.bind · some) hwrite).trans
        (Option.bind_some ..))
    · rcases List.mem_append.mp hw' with hold | hnew
      · rw [read_write_apart hwrite (hap.2.2 w' hold w (by simp))]
        exact hread w' hold
      · obtain rfl := List.mem_singleton.mp hnew
        exact read_write_same hwrite

/-- **A loop each of whose iterations performs some writes performs all of them.** -/
theorem foldlM_eq_writeAll {β : Type*} {f : List α → β → Option (List α)}
    {ws : β → List (ℕ × List α)} {xs : List β} {m : List α}
    (hstep : ∀ x ∈ xs, ∀ m' : List α, m'.length = m.length → f m' x = writeAll m' (ws x)) :
    xs.foldlM f m = writeAll m (xs.flatMap ws) := by
  induction xs generalizing m with
  | nil => rfl
  | cons x xs ih =>
    rw [List.foldlM_cons, List.flatMap_cons, writeAll_append, hstep x List.mem_cons_self m rfl]
    cases hx : writeAll m (ws x) with
    | none => rfl
    | some m₁ =>
      refine ih fun y hy m' hm' => hstep y (List.mem_cons_of_mem x hy) m' ?_
      rw [hm', length_writeAll hx]

/-- Records at different multiples of a stride do not overlap if they fit. -/
theorem apart_of_stride {i j stride : ℕ} {as bs : List α} (hij : i ≠ j)
    (ha : as.length ≤ stride) (hb : bs.length ≤ stride) :
    Apart (i * stride, as) (j * stride, bs) := by
  unfold Apart
  rcases Nat.lt_or_gt_of_ne hij with hlt | hgt
  · left
    have := Nat.mul_le_mul_right stride hlt
    rw [Nat.succ_mul] at this
    simp only
    omega
  · right
    have := Nat.mul_le_mul_right stride hgt
    rw [Nat.succ_mul] at this
    simp only
    omega

/-- A record at a multiple of the stride below the count lies in the table. -/
theorem record_le_table {i n stride len : ℕ} (hi : i < n) (hlen : len ≤ stride) :
    i * stride + len ≤ n * stride := by
  have := Nat.mul_le_mul_right stride hi
  rw [Nat.succ_mul] at this
  omega

/-- The pieces of equal length of a concatenation. -/
theorem read_flatten {pieces : List (List α)} {len : ℕ} (hlen : ∀ p ∈ pieces, p.length = len)
    {i : ℕ} (hi : i < pieces.length) :
    read pieces.flatten (i * len) len = some pieces[i] := by
  have htotal : pieces.flatten.length = pieces.length * len := by
    rw [List.length_flatten, List.map_congr_left hlen, List.map_const', List.sum_replicate,
      smul_eq_mul]
  induction pieces generalizing i with
  | nil => exact absurd hi (Nat.not_lt_zero i)
  | cons p ps ih =>
    have hp : p.length = len := hlen p List.mem_cons_self
    have hps : ∀ q ∈ ps, q.length = len := fun q hq => hlen q (List.mem_cons_of_mem _ hq)
    refine read_eq_some.mpr ⟨?_, hlen _ (List.getElem_mem hi), fun j hj => ?_⟩
    · rw [htotal]
      exact record_le_table hi le_rfl
    cases i with
    | zero =>
      rw [Nat.zero_mul, Nat.zero_add, List.flatten_cons, List.getElem?_append_left (by omega)]
      rfl
    | succ i =>
      have hi' : i < ps.length := Nat.lt_of_succ_lt_succ hi
      have htotal' : ps.flatten.length = ps.length * len := by
        rw [List.flatten_cons, List.length_append, List.length_cons, Nat.succ_mul] at htotal
        omega
      have hread := (read_eq_some.mp (ih hps hi' htotal')).2.2 j hj
      rw [List.flatten_cons, Nat.succ_mul, List.getElem?_append_right (by omega),
        List.getElem_cons_succ, ← hread]
      congr 1
      omega

end ByteMemory
