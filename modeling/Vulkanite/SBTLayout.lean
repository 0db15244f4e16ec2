/-
# The layout of the shader binding table

Every record of a table fits its stride, the index of a record is below the number
of records, and different owners have different indices (`Invariant.recordOf_lt`,
`Invariant.recordOf_injective`).  The stride comes from maxima over the slots and over
the tracked geometry types, the number of records from the slot tables and the
range allocator, and the records from the live objects; the invariant of the
context links them.

From this `buildSBT_spec` derives what `buildSBT` leaves behind: no access outside
a buffer, no record that overwrites another, and in each record the handle of the
type's group and the data of the object.
-/
import Vulkanite.BuildSBT

namespace Vulkanite

open TypedHeap

/-! ## Record sizes -/

namespace PipelineProperties

/-- The record size in exact arithmetic. -/
def stride (p : PipelineProperties) (maxDataSize : ℕ) : ℕ :=
  p.shaderGroupBaseAlignment.toNat *
    ((p.shaderGroupHandleSize.toNat + maxDataSize + p.shaderGroupBaseAlignment.toNat - 1) /
      p.shaderGroupBaseAlignment.toNat)

variable (p : PipelineProperties)

theorem toNat_headerSize : p.headerSize.toNat = p.shaderGroupHandleSize.toNat :=
  UInt32.toNat_toUInt64 _

theorem toNat_alignment : p.alignment.toNat = p.shaderGroupBaseAlignment.toNat :=
  UInt32.toNat_toUInt64 _

/-- The record size does not overflow. -/
def RecordFits (maxDataSize : UInt64) : Prop :=
  p.shaderGroupHandleSize.toNat + maxDataSize.toNat + p.shaderGroupBaseAlignment.toNat ≤ 2 ^ 64

instance (maxDataSize : UInt64) : Decidable (p.RecordFits maxDataSize) :=
  inferInstanceAs (Decidable (_ ≤ _))

variable {p}

theorem toNat_headerSize_add {maxDataSize : UInt64}
    (h : p.shaderGroupHandleSize.toNat + maxDataSize.toNat < 2 ^ 64) :
    (p.headerSize + maxDataSize).toNat =
      p.shaderGroupHandleSize.toNat + maxDataSize.toNat := by
  rw [toNat_add_of_lt, toNat_headerSize]
  rwa [toNat_headerSize]

/-- Without overflow the record size is exact and has room for header and data. -/
theorem toNat_recordSize {maxDataSize : UInt64}
    (h : p.RecordFits maxDataSize) :
    (p.recordSize maxDataSize).toNat = p.stride maxDataSize.toNat ∧
      p.shaderGroupHandleSize.toNat + maxDataSize.toNat ≤ (p.recordSize maxDataSize).toNat := by
  have hpos := p.alignment_pos
  have halign := p.toNat_alignment
  unfold RecordFits at h
  have hsum : _ = p.shaderGroupHandleSize.toNat + maxDataSize.toNat :=
    toNat_headerSize_add (by omega)
  have hle := le_toNat_nextMultipleOf (a := p.alignment) (b := p.headerSize + maxDataSize)
    (by omega) (by omega)
  rw [recordSize, toNat_nextMultipleOf (by omega) (by omega), stride, halign, hsum]
  rw [toNat_nextMultipleOf (by omega) (by omega), halign, hsum] at hle
  exact ⟨rfl, hle⟩

end PipelineProperties

/-- The record at an index: the handle of the group, then the data. -/
def Table.Holds (table : Table) (pl : VkPipeline) (id : ℤ) (r : Record) : Prop :=
  ∃ (n i : ℕ) (handle : List UInt8), id = n ∧ r.shaderGroupIndex = i ∧
    pl.handles[i]? = some handle ∧
    ByteMemory.read table.bytes (n * table.region.stride.toNat)
      (handle.length + r.data.length) = some (handle ++ r.data)

/-- A loop that takes maxima ends above what it started from and above what each
element asks for. -/
theorem foldlM_max {β : Type} {f : UInt64 → β → Option UInt64} {bound : β → ℕ} {es : List β}
    (hstep : ∀ e ∈ es, ∀ s, ∃ s', f s e = some s' ∧ s.toNat ≤ s'.toNat ∧ bound e ≤ s'.toNat)
    (s : UInt64) : ∃ m, es.foldlM f s = some m ∧ s.toNat ≤ m.toNat ∧
      ∀ e ∈ es, bound e ≤ m.toNat := by
  induction es generalizing s with
  | nil => exact ⟨s, rfl, le_rfl, by simp⟩
  | cons e es ih =>
    obtain ⟨s', hs', hle, hbound⟩ := hstep e List.mem_cons_self s
    obtain ⟨m, hm, hle', hrest⟩ := ih (fun x hx => hstep x (List.mem_cons_of_mem e hx)) s'
    refine ⟨m, by rw [List.foldlM_cons, hs']; exact hm, hle.trans hle', fun x hx => ?_⟩
    rcases List.mem_cons.mp hx with rfl | hx
    · exact hbound.trans hle'
    · exact hrest x hx

namespace Context

variable {c : Context}

/-- The entry in a slot is a live program that stores the slot. -/
theorem Invariant.getElem?_elements (h : c.Invariant) {k : ProgKind} {p : Ptr} {i : ℕ} :
    (c.rtPipeline.progs k).elements[i]? = some (some p) ↔
      ∃ o, c.heap (.prog k) p = some o ∧ o.sbtIndex = i := by
  rw [← SlotTable.get?_eq_some, (h.progs k).get?_iff]

/-- The data size of a slot's program. -/
theorem Invariant.maxWithProg_spec (h : c.Invariant) {k : ProgKind} {e : Option Ptr}
    (he : e ∈ (c.rtPipeline.progs k).elements) (size : UInt64) :
    ∃ size', c.maxWithProg k size e = some size' ∧ size.toNat ≤ size'.toNat ∧
      ((e.bind (c.progRecord k)).map (·.data.length)).getD 0 ≤ size'.toNat := by
  cases e with
  | none => exact ⟨size, rfl, le_rfl, Nat.zero_le _⟩
  | some p =>
    obtain ⟨i, hi⟩ := List.mem_iff_getElem?.mp he
    obtain ⟨o, ho, -⟩ := h.getElem?_elements.mp hi
    obtain ⟨type, htype, hlen⟩ := h.progData k p o ho
    refine ⟨max size type.dataSize, by simp [maxWithProg, ho, htype], ?_, ?_⟩
    · rw [toNat_max]
      exact le_max_left _ _
    · simp only [progRecord, ho, htype, Option.bind_some, Option.bind_eq_bind,
        Option.pure_def, Option.map_some, Option.getD_some, hlen, toNat_max]
      exact le_max_right _ _

/-- The data size of a tracked geometry type. -/
theorem Invariant.maxWithGeomType_spec (h : c.Invariant) {t : Ptr}
    (ht : t ∈ c.rtPipeline.geomTypes.toList) (size : UInt64) :
    ∃ size', c.maxWithGeomType size t = some size' ∧ size.toNat ≤ size'.toNat ∧
      ((c.heap .geomType t).map (·.dataSize.toNat)).getD 0 ≤ size'.toNat := by
  obtain ⟨gt, hgt⟩ := Option.isSome_iff_exists.mp ((h.geomTypes t).mp ht)
  refine ⟨max size gt.dataSize, by simp [maxWithGeomType, hgt], ?_, ?_⟩
  · rw [toNat_max]
    exact le_max_left _ _
  · simp only [hgt, Option.map_some, Option.getD_some, toNat_max]
    exact le_max_right _ _

/-- **The maxima cover the data of every record.** -/
theorem Invariant.maxDataSize_spec (h : c.Invariant) (t : SBTTable) :
    ∃ m, c.maxDataSize t = some m ∧
      ∀ x y, x.table = t → c.recordOf x = some y → y.2.data.length ≤ m.toNat := by
  cases t with
  | progs k =>
    obtain ⟨m, hm, -, hbound⟩ := foldlM_max (fun e he s => h.maxWithProg_spec (k := k) he s) 0
    refine ⟨m, hm, fun x y hx hy => ?_⟩
    cases x with
    | geom a j => cases hx
    | prog k' p =>
      obtain rfl : k' = k := SBTTable.progs.inj hx
      obtain ⟨o, type, ho, htype, rfl⟩ := recordOf_prog.mp hy
      have hmem := List.mem_of_getElem? (h.getElem?_elements.mpr ⟨o, ho, rfl⟩)
      simpa [progRecord, ho, htype] using hbound (some p) hmem
  | hitGroups =>
    obtain ⟨m, hm, -, hbound⟩ := foldlM_max (fun t ht s => h.maxWithGeomType_spec ht s) 0
    -- here the maximum 0 becomes 1
    refine ⟨if m = 0 then 1 else m, by simp only [maxDataSize, hm]; rfl, fun x y hx hy => ?_⟩
    cases x with
    | prog k p => cases hx
    | geom a j =>
      obtain ⟨accel, g, o, type, -, -, ho, htype, rfl⟩ := recordOf_geom.mp hy
      obtain ⟨type', htype', hlen⟩ := h.geomData g o ho
      obtain rfl := Option.some.inj (htype.symm.trans htype')
      have hmem := (h.geomTypes o.type).mpr (Option.isSome_of_eq_some htype)
      have hle : type.dataSize.toNat ≤ m.toNat := by simpa [htype] using hbound o.type hmem
      simp only [hlen]
      split_ifs with hzero
      · rw [hzero, UInt64.toNat_zero] at hle
        omega
      · exact hle

/-! ## Indices -/

theorem numRecords_progs (k : ProgKind) :
    c.numRecords (.progs k) = (c.rtPipeline.progs k).elements.length := rfl

/-- The number of hit group records, in exact arithmetic. -/
theorem Invariant.numRecords_hitGroups (h : c.Invariant) :
    c.numRecords .hitGroups = max 1 (c.sbtRangeAllocator.maxAllocedID.toNat : ℤ) := by
  have hmax := intOfSize_of_le h.entries.wellFormed.max_le
  simp only [numRecords, hmax]
  split_ifs with hzero <;> omega

/-- The position of an accel's geometry is one of the accel's entries. -/
theorem Invariant.owns_geom (h : c.Invariant) {a : Ptr} {accel : GeomAccel}
    (ha : c.heap .geomAccel a = some accel) {j : ℕ} (hj : j < accel.geoms.length) :
    ∃ i : ℕ, accel.sbtEntryBegin + j = i ∧ Owns (accelRange c.heap) (.geomAccel, a) i := by
  have hcount := h.geomAccelCount a accel ha
  have hrange : accelRange c.heap (.geomAccel, a) =
      some (accel.sbtEntryBegin, accel.sbtEntryCount) := by simp [accelRange, ha]
  have hbegin : 0 ≤ accel.sbtEntryBegin := by
    rcases h.entries.shape _ _ _ hrange with ⟨-, hzero⟩ | ⟨hbegin, -⟩
    · rw [hzero, UInt64.toNat_zero] at hcount
      omega
    · exact hbegin
  refine ⟨(accel.sbtEntryBegin + j).toNat, by omega, accel.sbtEntryBegin, _, hrange, ?_, ?_⟩ <;>
    omega

/-- **The index of a record is below the number of records.** -/
theorem Invariant.recordOf_lt (h : c.Invariant) {x : RecordOwner} {y : ℤ × Record}
    (hy : c.recordOf x = some y) : ∃ i : ℕ, y.1 = i ∧ i < (c.numRecords x.table).toNat := by
  cases x with
  | prog k p =>
    obtain ⟨o, type, ho, -, rfl⟩ := recordOf_prog.mp hy
    have hslot := h.getElem?_elements.mpr ⟨o, ho, rfl⟩
    have hlt := (List.getElem?_eq_some_iff.mp hslot).1
    refine ⟨o.sbtIndex, rfl, ?_⟩
    rw [RecordOwner.table, numRecords_progs, Int.toNat_natCast]
    exact hlt
  | geom a j =>
    obtain ⟨accel, g, o, type, ha, hg, -, -, rfl⟩ := recordOf_geom.mp hy
    obtain ⟨i, hi, howns⟩ := h.owns_geom ha (List.getElem?_eq_some_iff.mp hg).1
    have hlt := h.entries.lt_max howns
    refine ⟨i, hi, ?_⟩
    rw [RecordOwner.table, h.numRecords_hitGroups]
    omega

/-- **Different owners have different indices.** -/
theorem Invariant.recordOf_injective (h : c.Invariant) {x x' : RecordOwner} {y y' : ℤ × Record}
    (hy : c.recordOf x = some y) (hy' : c.recordOf x' = some y') (ht : x.table = x'.table)
    (hid : y.1 = y'.1) : x = x' := by
  cases x with
  | prog k p =>
    cases x' with
    | geom a j => cases ht
    | prog k' p' =>
      obtain rfl : k = k' := SBTTable.progs.inj ht
      obtain ⟨o, type, ho, -, rfl⟩ := recordOf_prog.mp hy
      obtain ⟨o', type', ho', -, rfl⟩ := recordOf_prog.mp hy'
      have hslot := h.getElem?_elements.mpr ⟨o, ho, rfl⟩
      rw [Int.natCast_inj.mp hid] at hslot
      have hslot' := h.getElem?_elements.mpr ⟨o', ho', rfl⟩
      -- a slot holds one program
      rw [Option.some.inj (Option.some.inj (hslot.symm.trans hslot'))]
  | geom a j =>
    cases x' with
    | prog k p => cases ht
    | geom a' j' =>
      obtain ⟨accel, g, o, type, ha, hg, -, -, rfl⟩ := recordOf_geom.mp hy
      obtain ⟨accel', g', o', type', ha', hg', -, -, rfl⟩ := recordOf_geom.mp hy'
      obtain ⟨i, hi, howns⟩ := h.owns_geom ha (List.getElem?_eq_some_iff.mp hg).1
      obtain ⟨i', hi', howns'⟩ := h.owns_geom ha' (List.getElem?_eq_some_iff.mp hg').1
      dsimp only at hid
      obtain rfl : i = i' := by omega
      -- an entry belongs to one accel, and in it to one position
      obtain rfl : a = a' := congrArg Prod.snd (h.entries.disjoint _ _ i howns howns')
      obtain rfl := Option.some.inj (ha.symm.trans ha')
      obtain rfl : j = j' := by omega
      rfl

/-! ## The owners -/

/-- Positions of a list occur once in its enumeration. -/
theorem pairwise_zipIdx {α : Type} (l : List α) : l.zipIdx.Pairwise fun e e' => e.2 ≠ e'.2 := by
  have hlt : (l.zipIdx.map Prod.snd).Pairwise (· < ·) := by
    rw [List.zipIdx_map_snd]
    exact List.pairwise_lt_range'
  exact (List.pairwise_map.mp hlt).imp fun hlt' => Nat.ne_of_lt hlt'

/-- Every owner of a record is listed. -/
theorem Invariant.mem_owners (h : c.Invariant) {x : RecordOwner} {y : ℤ × Record}
    (hy : c.recordOf x = some y) : x ∈ c.owners x.table := by
  cases x with
  | prog k p =>
    obtain ⟨o, type, ho, -, rfl⟩ := recordOf_prog.mp hy
    have hslot := h.getElem?_elements.mpr ⟨o, ho, rfl⟩
    exact List.mem_flatMap.mpr ⟨(some p, o.sbtIndex), List.mem_zipIdx_iff_getElem?.mpr hslot,
      List.mem_map.mpr ⟨p, by simp, rfl⟩⟩
  | geom a j =>
    obtain ⟨accel, g, o, type, ha, hg, -, -, rfl⟩ := recordOf_geom.mp hy
    refine List.mem_flatMap.mpr ⟨a, (h.geomAccels a).mpr (Option.isSome_of_eq_some ha), ?_⟩
    rw [ha]
    exact List.mem_flatMap.mpr ⟨accel, by simp, List.mem_map.mpr
      ⟨(some g, j), List.mem_zipIdx_iff_getElem?.mpr hg, rfl⟩⟩

/-- No owner is listed twice. -/
theorem Invariant.nodup_owners (h : c.Invariant) (t : SBTTable) : (c.owners t).Nodup := by
  cases t with
  | progs k =>
    refine List.nodup_flatMap.mpr ⟨fun e _ => ?_, ?_⟩
    · cases e.1 <;> simp
    · refine (pairwise_zipIdx _).imp_of_mem fun {e e'} he he' hne => ?_
      rw [Function.onFun, List.disjoint_left]
      intro x hx hx'
      obtain ⟨p, hp, rfl⟩ := List.mem_map.mp hx
      obtain ⟨p', hp', heq⟩ := List.mem_map.mp hx'
      obtain rfl := (RecordOwner.prog.inj heq).2
      -- one program is in both slots, but it stores one slot
      have hslot := List.mem_zipIdx_iff_getElem?.mp he
      have hslot' := List.mem_zipIdx_iff_getElem?.mp he'
      rw [Option.mem_toList.mp hp] at hslot
      rw [Option.mem_toList.mp hp'] at hslot'
      obtain ⟨o, ho, hidx⟩ := h.getElem?_elements.mp hslot
      obtain ⟨o', ho', hidx'⟩ := h.getElem?_elements.mp hslot'
      obtain rfl := Option.some.inj (ho.symm.trans ho')
      exact hne (hidx.symm.trans hidx')
  | hitGroups =>
    refine List.nodup_flatMap.mpr ⟨fun a _ => ?_, ?_⟩
    · cases c.heap .geomAccel a with
      | none => simp
      | some accel =>
        simp only [Option.toList_some, List.flatMap_cons, List.flatMap_nil, List.append_nil]
        refine List.pairwise_map.mpr ((pairwise_zipIdx _).imp fun hne heq => hne ?_)
        exact (RecordOwner.geom.inj heq).2
    · refine c.rtPipeline.geomAccels.nodup.imp fun hne => ?_
      rw [Function.onFun, List.disjoint_left]
      intro x hx hx'
      obtain ⟨accel, -, hx⟩ := List.mem_flatMap.mp hx
      obtain ⟨accel', -, hx'⟩ := List.mem_flatMap.mp hx'
      obtain ⟨e, -, rfl⟩ := List.mem_map.mp hx
      obtain ⟨e', -, heq⟩ := List.mem_map.mp hx'
      exact hne (RecordOwner.geom.inj heq).1.symm

/-! ## Writing one table -/

/-- The type of a record's owner has the index of a handle. -/
theorem HandlesCurrent.recordOf {pl : VkPipeline} (hp : c.HandlesCurrent pl) {x : RecordOwner}
    {y : ℤ × Record} (hy : c.recordOf x = some y) :
    ∃ i : ℕ, y.2.shaderGroupIndex = i ∧ i < pl.handles.length := by
  cases x with
  | prog k p =>
    obtain ⟨o, type, -, htype, rfl⟩ := recordOf_prog.mp hy
    exact hp.index (.progType k, o.type) _ (by simp [groupIndex, htype])
  | geom a j =>
    obtain ⟨accel, g, o, type, -, -, -, htype, rfl⟩ := recordOf_geom.mp hy
    exact hp.index (.geomType, o.type) _ (by simp [groupIndex, htype])

/-- Reading a handle back from the host copy. -/
theorem HandlesCurrent.read_handle {pl : VkPipeline} (hp : c.HandlesCurrent pl)
    (hstorage : c.rtPipeline.shaderHandleStorage.length < 2 ^ 64) {i : ℕ}
    (hi : i < pl.handles.length) :
    ByteMemory.read c.rtPipeline.shaderHandleStorage
      (sizeOfInt i * c.rtPipeline.properties.headerSize).toNat
      c.rtPipeline.properties.headerSize.toNat = some pl.handles[i] := by
  have hread := ByteMemory.read_flatten hp.size_eq hi
  rw [← hp.storage] at hread
  have hle := (ByteMemory.read_eq_some.mp hread).1
  rw [← PipelineProperties.toNat_headerSize] at hread hle
  rw [toNat_sizeOfInt_mul (by omega)]
  exact hread

/-- What a table needs: room for each record, and no overflow. -/
structure TableFits (c : Context) (t : SBTTable) (stride : UInt64) : Prop where
  storage : c.rtPipeline.shaderHandleStorage.length < 2 ^ 64
  table : (c.numRecords t).toNat * stride.toNat < 2 ^ 64
  record : ∀ x y, x.table = t → c.recordOf x = some y →
    c.rtPipeline.properties.shaderGroupHandleSize.toNat + y.2.data.length ≤ stride.toNat

section Writes

variable {pl : VkPipeline} {t : SBTTable} {stride : UInt64}

/-- A record is its handle and its data, at its place. -/
theorem recordWrites_of_recordOf {x : RecordOwner} {y : ℤ × Record} {n i : ℕ}
    (hy : c.recordOf x = some y) (hi : y.2.shaderGroupIndex = i) (hlt : i < pl.handles.length) :
    c.recordWrites pl n x = [(y.1.toNat * n, pl.handles[i] ++ y.2.data)] := by
  simp [recordWrites, hy, hi, hlt]

/-- The header and the data of a record are one write. -/
theorem writeRecord_eq (h : c.Invariant) (hp : c.HandlesCurrent pl) (hf : c.TableFits t stride)
    {x : RecordOwner} {y : ℤ × Record} (ht : x.table = t) (hy : c.recordOf x = some y)
    {m : List UInt8} (hm : m.length = (c.numRecords t).toNat * stride.toNat) :
    c.rtPipeline.writeRecord stride m y.1 y.2 =
      ByteMemory.writeAll m (c.recordWrites pl stride.toNat x) := by
  obtain ⟨i, hi, hlt⟩ := hp.recordOf hy
  obtain ⟨id, hid, hidlt⟩ := h.recordOf_lt hy
  have hroom := hf.record x y ht hy
  have hsize := hp.size_eq _ (List.getElem_mem hlt)
  rw [ht] at hidlt
  have hin := ByteMemory.record_le_table hidlt hroom
  have htable := hf.table
  rw [recordWrites_of_recordOf hy hi hlt, ByteMemory.writeAll_singleton, hid, Int.toNat_natCast,
    ← ByteMemory.write_append (by rw [List.length_append]; omega)]
  unfold RTPipeline.writeRecord RTPipeline.writeHeader
  simp only [hi, hp.read_handle hf.storage hlt, Option.bind_eq_bind, Option.bind_some]
  rw [toNat_sizeOfInt_mul (by omega), PipelineProperties.toNat_headerSize, hsize]

/-- **The loops write one record for each owner.** -/
theorem writeRecords_eq_writeAll (h : c.Invariant) (hp : c.HandlesCurrent pl)
    (hf : c.TableFits t stride)
    (hgeoms : ∀ a accel, c.heap .geomAccel a = some accel → none ∉ accel.geoms)
    {m : List UInt8} (hm : m.length = (c.numRecords t).toNat * stride.toNat) :
    c.writeRecords stride m t =
      ByteMemory.writeAll m ((c.owners t).flatMap (c.recordWrites pl stride.toNat)) := by
  cases t with
  | progs k =>
    rw [owners, List.flatMap_assoc]
    refine ByteMemory.foldlM_eq_writeAll fun e he m' hm' => ?_
    obtain ⟨e, id⟩ := e
    cases e with
    | none => rfl
    | some p =>
      obtain ⟨o, ho, rfl⟩ := h.getElem?_elements.mp (List.mem_zipIdx_iff_getElem?.mp he)
      obtain ⟨type, htype, -⟩ := h.progData k p o ho
      have hy := recordOf_prog.mpr ⟨o, type, ho, htype, rfl⟩
      have hwrite := writeRecord_eq h hp hf rfl hy (hm'.trans hm)
      simpa [progRecord, ho, htype] using hwrite
  | hitGroups =>
    rw [owners, List.flatMap_assoc]
    refine ByteMemory.foldlM_eq_writeAll fun a ha m' hm' => ?_
    obtain ⟨accel, haccel⟩ := Option.isSome_iff_exists.mp ((h.geomAccels a).mp ha)
    simp only [haccel, Option.bind_eq_bind, Option.bind_some, Option.toList_some,
      List.flatMap_cons, List.flatMap_nil, List.append_nil, List.flatMap_map]
    refine ByteMemory.foldlM_eq_writeAll fun e he m'' hm'' => ?_
    obtain ⟨e, j⟩ := e
    have hj := List.mem_zipIdx_iff_getElem?.mp he
    cases e with
    -- the assertion of the loop: no geometry is missing
    | none => exact absurd (List.mem_of_getElem? hj) (hgeoms a accel haccel)
    | some g =>
      obtain ⟨o, ho⟩ := h.closed.get haccel (mem_refs_geomAccel (List.mem_of_getElem? hj))
      obtain ⟨type, htype, -⟩ := h.geomData g o ho
      have hy := recordOf_geom.mpr ⟨accel, g, o, type, haccel, hj, ho, htype, rfl⟩
      have hwrite := writeRecord_eq h hp hf rfl hy (hm''.trans (hm'.trans hm))
      simpa [geomRecord, ho, htype] using hwrite

/-- The records of a table are in place and do not overlap. -/
structure TableWritten (c : Context) (pl : VkPipeline) (t : SBTTable) (table : Table) : Prop where
  length_eq : table.bytes.length = table.region.size.toNat
  size_eq : table.region.size.toNat = (c.numRecords t).toNat * table.region.stride.toNat
  holds : ∀ x y, x.table = t → c.recordOf x = some y → table.Holds pl y.1 y.2
  apart : ∀ x x' y y', x ≠ x' → x.table = t → x'.table = t →
    c.recordOf x = some y → c.recordOf x' = some y' →
    ∀ w ∈ c.recordWrites pl table.region.stride.toNat x,
      ∀ w' ∈ c.recordWrites pl table.region.stride.toNat x', ByteMemory.Apart w w'

/-- Records of different owners do not overlap. -/
theorem recordWrites_apart (h : c.Invariant) (hp : c.HandlesCurrent pl)
    (hf : c.TableFits t stride) {x x' : RecordOwner} {y y' : ℤ × Record} (hne : x ≠ x')
    (ht : x.table = t) (ht' : x'.table = t) (hy : c.recordOf x = some y)
    (hy' : c.recordOf x' = some y') {w w' : ℕ × List UInt8}
    (hw : w ∈ c.recordWrites pl stride.toNat x) (hw' : w' ∈ c.recordWrites pl stride.toNat x') :
    ByteMemory.Apart w w' := by
  obtain ⟨i, hi, hlt⟩ := hp.recordOf hy
  obtain ⟨i', hi', hlt'⟩ := hp.recordOf hy'
  obtain ⟨id, hid, -⟩ := h.recordOf_lt hy
  obtain ⟨id', hid', -⟩ := h.recordOf_lt hy'
  have hids : id ≠ id' := fun heq =>
    hne (h.recordOf_injective hy hy' (ht.trans ht'.symm) (by rw [hid, hid', heq]))
  rw [recordWrites_of_recordOf hy hi hlt, List.mem_singleton] at hw
  rw [recordWrites_of_recordOf hy' hi' hlt', List.mem_singleton] at hw'
  rw [hw, hw', hid, hid', Int.toNat_natCast, Int.toNat_natCast]
  refine ByteMemory.apart_of_stride hids ?_ ?_
  · rw [List.length_append, hp.size_eq _ (List.getElem_mem hlt)]
    exact hf.record x y ht hy
  · rw [List.length_append, hp.size_eq _ (List.getElem_mem hlt')]
    exact hf.record x' y' ht' hy'

/-- An owner that is listed and writes has a record. -/
theorem recordOf_of_mem_recordWrites {x : RecordOwner} {n : ℕ} {w : ℕ × List UInt8}
    (hw : w ∈ c.recordWrites pl n x) : ∃ y, c.recordOf x = some y := by
  obtain ⟨y, hy, -⟩ := List.mem_map.mp hw
  exact ⟨y, Option.mem_toList.mp hy⟩

/-- Listed owners belong to the table. -/
theorem table_of_mem_owners {x : RecordOwner} (hx : x ∈ c.owners t) : x.table = t := by
  cases t with
  | progs k =>
    obtain ⟨e, -, hx⟩ := List.mem_flatMap.mp hx
    obtain ⟨p, -, rfl⟩ := List.mem_map.mp hx
    rfl
  | hitGroups =>
    obtain ⟨a, -, hx⟩ := List.mem_flatMap.mp hx
    obtain ⟨accel, -, hx⟩ := List.mem_flatMap.mp hx
    obtain ⟨e, -, rfl⟩ := List.mem_map.mp hx
    rfl

/-- Every record lies within the table. -/
theorem recordWrites_le (h : c.Invariant) (hp : c.HandlesCurrent pl) (hf : c.TableFits t stride) :
    ∀ w ∈ (c.owners t).flatMap (c.recordWrites pl stride.toNat),
      w.1 + w.2.length ≤ (c.numRecords t).toNat * stride.toNat := by
  intro w hw
  obtain ⟨x, hx, hw⟩ := List.mem_flatMap.mp hw
  have ht := table_of_mem_owners hx
  obtain ⟨y, hy⟩ := recordOf_of_mem_recordWrites hw
  obtain ⟨i, hi, hlt⟩ := hp.recordOf hy
  obtain ⟨id, hid, hidlt⟩ := h.recordOf_lt hy
  rw [recordWrites_of_recordOf hy hi hlt, List.mem_singleton] at hw
  rw [hw, hid, Int.toNat_natCast]
  refine ByteMemory.record_le_table (ht ▸ hidlt) ?_
  rw [List.length_append, hp.size_eq _ (List.getElem_mem hlt)]
  exact hf.record x y ht hy

/-- The records of a table do not overlap. -/
theorem pairwise_recordWrites (h : c.Invariant) (hp : c.HandlesCurrent pl)
    (hf : c.TableFits t stride) :
    ((c.owners t).flatMap (c.recordWrites pl stride.toNat)).Pairwise ByteMemory.Apart := by
  refine List.pairwise_flatMap.mpr ⟨fun x _ => ?_, ?_⟩
  · unfold recordWrites
    cases c.recordOf x <;> simp
  · refine (h.nodup_owners t).imp_of_mem fun {x x'} hx hx' hne w hw w' hw' => ?_
    obtain ⟨y, hy⟩ := recordOf_of_mem_recordWrites hw
    obtain ⟨y', hy'⟩ := recordOf_of_mem_recordWrites hw'
    exact recordWrites_apart h hp hf hne (table_of_mem_owners hx) (table_of_mem_owners hx') hy hy'
      hw hw'

/-- **One table is written.** -/
theorem buildTable_spec (h : c.Invariant) (hp : c.HandlesCurrent pl) {maxSize : UInt64}
    (hmax : c.maxDataSize t = some maxSize)
    (hf : c.TableFits t (c.rtPipeline.properties.recordSize maxSize))
    (hgeoms : ∀ a accel, c.heap .geomAccel a = some accel → none ∉ accel.geoms)
    (mem : DeviceMemory) :
    ∃ table, c.buildTable mem t = some table ∧
      table.region.deviceAddress = mem.address t ∧
      table.region.stride = c.rtPipeline.properties.recordSize maxSize ∧
      c.TableWritten pl t table := by
  generalize hstride : c.rtPipeline.properties.recordSize maxSize = stride at hf
  have hnum : ∃ n : ℕ, c.numRecords t = n := by
    cases t with
    | progs k => exact ⟨_, numRecords_progs k⟩
    | hitGroups =>
      refine ⟨(c.numRecords .hitGroups).toNat, ?_⟩
      rw [h.numRecords_hitGroups]
      omega
  obtain ⟨n, hn⟩ := hnum
  have htable := hf.table
  rw [hn, Int.toNat_natCast] at htable
  have hsize := toNat_sizeOfInt_mul htable
  have hm := mem.length_eq t (sizeOfInt (n : ℤ) * stride).toNat
  have hmn : (mem.bytes t (sizeOfInt (n : ℤ) * stride).toNat).length =
      (c.numRecords t).toNat * stride.toNat := by
    rw [hm, hsize, hn, Int.toNat_natCast]
  have hwrites := writeRecords_eq_writeAll h hp hf hgeoms hmn
  obtain ⟨bytes, hbytes, hlen, hread⟩ := ByteMemory.exists_writeAll
    (fun w hw => by rw [hmn]; exact recordWrites_le h hp hf w hw) (pairwise_recordWrites h hp hf)
  · refine ⟨⟨⟨mem.address t, stride, sizeOfInt n * stride⟩, bytes⟩, ?_, rfl, rfl, ?_⟩
    · simp only [buildTable, hmax, hn, Option.bind_eq_bind, Option.bind_some, hstride, hwrites,
        hbytes, Option.pure_def]
    · refine ⟨hlen.trans hm, by rw [hsize, hn, Int.toNat_natCast], fun x y ht hy => ?_,
        fun x x' y y' hne ht ht' hy hy' w hw w' hw' =>
          recordWrites_apart h hp hf hne ht ht' hy hy' hw hw'⟩
      obtain ⟨i, hi, hlt⟩ := hp.recordOf hy
      obtain ⟨id, hid, -⟩ := h.recordOf_lt hy
      refine ⟨id, i, pl.handles[i], hid, hi, List.getElem?_eq_getElem hlt, ?_⟩
      have hwrite := recordWrites_of_recordOf (n := stride.toNat) hy hi hlt
      rw [hid, Int.toNat_natCast] at hwrite
      have hmem : (id * stride.toNat, pl.handles[i] ++ y.2.data) ∈
          (c.owners t).flatMap (c.recordWrites pl stride.toNat) :=
        List.mem_flatMap.mpr
          ⟨x, ht ▸ h.mem_owners hy, by rw [hwrite]; exact List.mem_singleton_self _⟩
      have hcell := hread _ hmem
      rwa [List.length_append] at hcell

end Writes

/-! ## `buildSBT` -/

/-- The assertions of `buildSBT` about its input. -/
structure SBTAssertions (c : Context) : Prop where
  rayGen : ∃ p o type, c.heap (.prog .rayGen) p = some o ∧
    c.heap (.progType .rayGen) o.type = some type ∧ 0 < type.dataSize.toNat
  missProgs : (c.rtPipeline.progs .missProg).elements ≠ []
  geoms : ∀ a accel, c.heap .geomAccel a = some accel → none ∉ accel.geoms

/-- No size overflows `size_t`. -/
structure SBTSizesFit (c : Context) : Prop where
  storage : c.rtPipeline.shaderHandleStorage.length < 2 ^ 64
  record : ∀ t m, c.maxDataSize t = some m → c.rtPipeline.properties.RecordFits m
  table : ∀ t m, c.maxDataSize t = some m →
    (c.numRecords t).toNat * c.rtPipeline.properties.stride m.toNat < 2 ^ 64

/-- What `buildSBT` leaves behind. -/
structure SBTWritten (c : Context) (pl : VkPipeline) (mem : DeviceMemory) (sbt : SBT) : Prop where
  table : ∀ t, c.TableWritten pl t (sbt.table t)
  address : ∀ t, (sbt.table t).region.deviceAddress = mem.address t
  callables : sbt.callablesTable = sbt.rayGens.region

/-- Sizes that do not overflow fit each table. -/
theorem SBTSizesFit.tableFits (hf : c.SBTSizesFit) (h : c.Invariant) {t : SBTTable} {m : UInt64}
    (hm : c.maxDataSize t = some m) :
    c.TableFits t (c.rtPipeline.properties.recordSize m) := by
  obtain ⟨hsize, hroom⟩ := PipelineProperties.toNat_recordSize (hf.record t m hm)
  obtain ⟨m', hm', hbound⟩ := h.maxDataSize_spec t
  obtain rfl := Option.some.inj (hm.symm.trans hm')
  refine ⟨hf.storage, hsize ▸ hf.table t m hm, fun x y ht hy => ?_⟩
  have hle := hbound x y ht hy
  omega

/-- The hit groups have room for at least one byte of data. -/
theorem maxDataSize_hitGroups_pos {m : UInt64} (hm : c.maxDataSize .hitGroups = some m) :
    0 < m.toNat := by
  obtain ⟨size, -, hsize⟩ := Option.bind_eq_some_iff.mp hm
  obtain rfl := Option.some.inj hsize
  split_ifs with hzero
  · decide
  · have hne : size.toNat ≠ 0 := fun hz => hzero (UInt64.toNat_inj.mp hz)
    omega

/-- **`buildSBT` completes and writes what it should**, with the handles current, its
assertions met and no overflow. -/
theorem buildSBT_spec (h : c.Invariant) {pl : VkPipeline} (hp : c.HandlesCurrent pl)
    (hassert : c.SBTAssertions) (hf : c.SBTSizesFit) (mem : DeviceMemory) :
    ∃ sbt, c.buildSBT mem = some sbt ∧ c.SBTWritten pl mem sbt := by
  obtain ⟨m₁, hm₁, hbound₁⟩ := h.maxDataSize_spec (.progs .rayGen)
  obtain ⟨m₂, hm₂, -⟩ := h.maxDataSize_spec (.progs .missProg)
  obtain ⟨m₃, hm₃, -⟩ := h.maxDataSize_spec .hitGroups
  obtain ⟨t₁, ht₁, ha₁, -, hw₁⟩ :=
    buildTable_spec h hp hm₁ (hf.tableFits h hm₁) hassert.geoms mem
  obtain ⟨t₂, ht₂, ha₂, -, hw₂⟩ :=
    buildTable_spec h hp hm₂ (hf.tableFits h hm₂) hassert.geoms mem
  obtain ⟨t₃, ht₃, ha₃, hstride, hw₃⟩ :=
    buildTable_spec h hp hm₃ (hf.tableFits h hm₃) hassert.geoms mem
  have hrayGen : m₁ > 0 := by
    obtain ⟨p, o, type, ho, htype, hpos⟩ := hassert.rayGen
    obtain ⟨type', htype', hlen⟩ := h.progData .rayGen p o ho
    obtain rfl := Option.some.inj (htype.symm.trans htype')
    have hle := hbound₁ (.prog .rayGen p) _ rfl (recordOf_prog.mpr ⟨o, type, ho, htype, rfl⟩)
    rw [gt_iff_lt, UInt64.lt_iff_toNat_lt, UInt64.toNat_zero]
    dsimp only at hle
    omega
  have hmiss : ¬ (c.rtPipeline.progs .missProg).elements.isEmpty := by
    rw [List.isEmpty_iff]
    exact hassert.missProgs
  have hhit : t₃.region.stride > 0 := by
    have hroom := (PipelineProperties.toNat_recordSize (hf.record .hitGroups m₃ hm₃)).2
    have hpos := maxDataSize_hitGroups_pos hm₃
    rw [gt_iff_lt, UInt64.lt_iff_toNat_lt, UInt64.toNat_zero, hstride]
    omega
  refine ⟨⟨t₁, t₂, t₃, t₁.region⟩, ?_, fun t => ?_, fun t => ?_, rfl⟩
  · simp only [buildSBT, hm₁, ht₁, ht₂, ht₃, Option.bind_eq_bind, Option.bind_some, hrayGen, hmiss,
      hhit, guard, Option.pure_def]
    rfl
  · rcases t with (_ | _) | _
    · exact hw₁
    · exact hw₂
    · exact hw₃
  · rcases t with (_ | _) | _
    · exact ha₁
    · exact ha₂
    · exact ha₃

/-- **`buildSBT` writes a well-formed table**, from every reachable state whose pipeline
was built after the last type was created: it completes, no access leaves a buffer,
records do not overlap, and every live program and every geometry of an accel has its
record. -/
theorem buildSBT_wellFormed {s s' : Context} (hs : s.Reachable) (hbuild : Step .build s s')
    (hrun : Run KeepsHandles s' c) (hassert : c.SBTAssertions) (hf : c.SBTSizesFit)
    (mem : DeviceMemory) :
    ∃ pl sbt, c.rtPipeline.pipeline = some pl ∧
      (∀ handle ∈ pl.handles,
        handle.length = c.rtPipeline.properties.shaderGroupHandleSize.toNat) ∧
      c.buildSBT mem = some sbt ∧ c.SBTWritten pl mem sbt ∧
      (∀ k p o, c.heap (.prog k) p = some o → ∃ type,
        c.heap (.progType k) o.type = some type ∧
        (sbt.table (.progs k)).Holds pl o.sbtIndex ⟨type.shaderGroupIndex, o.data⟩) ∧
      ∀ a accel, a ∈ c.rtPipeline.geomAccels → c.heap .geomAccel a = some accel →
        ∀ j < accel.geoms.length, ∃ g o type, accel.geoms[j]? = some (some g) ∧
          c.heap .geom g = some o ∧ c.heap .geomType o.type = some type ∧
          sbt.hitGroups.Holds pl (accel.sbtEntryBegin + j) ⟨type.shaderGroupIndex, o.data⟩ := by
  obtain ⟨pl, hp, -⟩ := hbuild.build_spec hs.invariant
  have hp' := hp.run hrun
  have h := ((hs.step hbuild).run hrun).invariant
  obtain ⟨sbt, hsbt, hwritten⟩ := buildSBT_spec h hp' hassert hf mem
  refine ⟨pl, sbt, hp'.pipeline, hp'.size_eq, hsbt, hwritten, fun k p o ho => ?_,
    fun a accel _ ha j hj => ?_⟩
  · obtain ⟨type, htype, -⟩ := h.progData k p o ho
    exact ⟨type, htype, (hwritten.table (.progs k)).holds (.prog k p) _ rfl
      (recordOf_prog.mpr ⟨o, type, ho, htype, rfl⟩)⟩
  · obtain ⟨e, he⟩ : ∃ e, accel.geoms[j]? = some e := ⟨_, List.getElem?_eq_getElem hj⟩
    cases e with
    | none => exact absurd (List.mem_of_getElem? he) (hassert.geoms a accel ha)
    | some g =>
      obtain ⟨o, ho⟩ := h.closed.get ha (mem_refs_geomAccel (List.mem_of_getElem? he))
      obtain ⟨type, htype, -⟩ := h.geomData g o ho
      exact ⟨g, o, type, he, ho, htype, (hwritten.table .hitGroups).holds (.geom a j) _ rfl
        (recordOf_geom.mpr ⟨accel, g, o, type, ha, he, ho, htype, rfl⟩)⟩

/-! ## The sample scene -/

/-- Buffers full of zeros. -/
def sampleMemory : DeviceMemory :=
  ⟨fun _ => 4096, fun _ n => List.replicate n 0, fun _ _ => List.length_replicate⟩

/-- The sample scene with its pipeline built. -/
def sampleBuilt : Context :=
  match sampleScene.gatherPrograms with
  | (.ok (stages, groups), c) => c.finishBuild stages groups
      [List.replicate 32 1, List.replicate 32 2, List.replicate 32 3]
  | (.error _, c) => c

theorem sampleBuilt_step : Step .build sampleScene sampleBuilt :=
  .build _ _ _ _ _ rfl ⟨rfl, by decide⟩

/-- No geometry of its accel is missing. -/
theorem sampleBuilt_geoms {a : Ptr} {accel : GeomAccel}
    (ha : sampleBuilt.heap .geomAccel a = some accel) : none ∉ accel.geoms := by
  rw [sampleBuilt_step.heap_frame (by decide)] at ha
  have hheap : sampleScene.heap .geomAccel = Function.update (fun _ => none) 11
    (some ⟨[some 10], (allocEntries {} (UInt64.ofNat 1)).1, UInt64.ofNat 1⟩) := rfl
  rw [hheap, Function.update_apply] at ha
  split_ifs at ha
  obtain rfl := Option.some.inj ha
  decide

/-- What holds of the three tables and their maxima. -/
theorem forall_maxDataSize {c : Context} {m₁ m₂ m₃ : UInt64} {P : SBTTable → UInt64 → Prop}
    (h : c.maxDataSize (.progs .rayGen) = some m₁ ∧ c.maxDataSize (.progs .missProg) = some m₂ ∧
      c.maxDataSize .hitGroups = some m₃)
    (hrayGen : P (.progs .rayGen) m₁) (hmiss : P (.progs .missProg) m₂) (hhit : P .hitGroups m₃)
    (t : SBTTable) (m : UInt64) (hm : c.maxDataSize t = some m) : P t m := by
  obtain ⟨h₁, h₂, h₃⟩ := h
  rcases t with (_ | _) | _
  · obtain rfl := Option.some.inj (h₁.symm.trans hm)
    exact hrayGen
  · obtain rfl := Option.some.inj (h₂.symm.trans hm)
    exact hmiss
  · obtain rfl := Option.some.inj (h₃.symm.trans hm)
    exact hhit

/-! ### A scene that changes after the build -/

/-- The sample scene with a second type of triangles, which has an any hit program, and a
geometry of it with 24 bytes of data. -/
def sampleTwoTypes : Context :=
  let c := sampleScene.newGeomType .TRIANGLES 24 13
  let mod : ShaderModule :=
    { sampleModule' with
      programs := Function.update (Function.update sampleModule'.programs "miss" (some 6))
        "closestHit" (some 9) }
  let r := c.get 1 mod "anyHit" .ANY_HIT 14
  let gt : GeomType := { kind := .TRIANGLES, dataSize := 24 }
  (r.2.setHitProg gt .ah r.1 13).newGeom 13 (gt.setProg .ah r.1) 15

theorem sampleTwoTypes_reachable : sampleTwoTypes.Reachable := by
  have h₁ := sampleScene_reachable.step (.newGeomType _ .TRIANGLES 24 13 rfl)
  have h₂ := h₁.step (.setHitProg _ 13 _ .ah 1 _ "anyHit" 14 rfl rfl rfl)
  exact h₂.step (.newGeom _ 13 _ 15 rfl (by decide) rfl)

/-- The same with its pipeline built. -/
def sampleTwoTypesBuilt : Context :=
  match sampleTwoTypes.gatherPrograms with
  | (.ok (stages, groups), c) => c.finishBuild stages groups
      [List.replicate 32 1, List.replicate 32 2, List.replicate 32 3, List.replicate 32 4]
  | (.error _, c) => c

theorem sampleTwoTypesBuilt_step : Step .build sampleTwoTypes sampleTwoTypesBuilt :=
  .build _ _ _ _ _ rfl ⟨rfl, by decide⟩

/-- An accel of both geometries and an instance accel of both accels are made, two ray
generation programs as well, and the first of these and the earlier instance accel die. -/
def sampleHoles : Context :=
  let c := sampleTwoTypesBuilt.newGeomAccel [some 10, some 15] 16
  let c := c.newInstanceAccel [some 16, some 11] 17
  let type : ProgType := { dataSize := 8, program := 3, shaderGroupIndex := 0 }
  let c := (c.newProg .rayGen 2 type 18).newProg .rayGen 2 type 19
  (c.deleteProg .rayGen ⟨2, List.replicate 8 0, 1⟩ 18).deleteInstanceAccel ⟨[some 11], 1, 1⟩ 12

/-- The run from the build. -/
theorem sampleHoles_run {allowed : Op → Prop}
    (hallowed : ∀ op ∈ [Op.newGeomAccel, .newInstanceAccel, .newProg, .deleteProg,
      .deleteInstanceAccel], allowed op) : Run allowed sampleTwoTypesBuilt sampleHoles := by
  have h₁ : Run allowed sampleTwoTypesBuilt _ := .single ⟨.newGeomAccel, hallowed _ (by decide),
    .newGeomAccel _ [some 10, some 15] 16 (fun g hg => by
      rcases List.mem_pair.mp hg with h | h <;> obtain rfl := Option.some.inj h <;> rfl)
      ⟨by decide, fun _ _ => by decide⟩ rfl⟩
  have h₂ := h₁.tail ⟨.newInstanceAccel, hallowed _ (by decide),
    .newInstanceAccel _ [some 16, some 11] 17 (fun a ha => by
      rcases List.mem_pair.mp ha with h | h <;> obtain rfl := Option.some.inj h <;> rfl)
      ⟨by decide, fun _ _ => by decide⟩ rfl⟩
  have h₃ := h₂.tail ⟨.newProg, hallowed _ (by decide), .newProg _ .rayGen 2 _ 18 rfl rfl⟩
  have h₄ := h₃.tail ⟨.newProg, hallowed _ (by decide), .newProg _ .rayGen 2 _ 19 rfl rfl⟩
  have h₅ := h₄.tail ⟨.deleteProg, hallowed _ (by decide), .deleteProg _ .rayGen _ 18 rfl⟩
  exact h₅.tail ⟨.deleteInstanceAccel, hallowed _ (by decide),
    .deleteInstanceAccel _ ⟨[some 11], 1, 1⟩ 12 (by decide)⟩

/-- Six entries were handed out, and the second is free again. -/
theorem sampleHoles_allocator : sampleHoles.sbtRangeAllocator = ⟨6, [⟨1, 1⟩]⟩ := by
  show RangeAllocator.release ⟨6, []⟩ 1 1 = _
  rw [RangeAllocator.release]
  rfl

/-- The second slot is free. -/
example : (sampleHoles.rtPipeline.progs .rayGen).elements = [some 4, none, some 19] := by decide

theorem sampleHoles_maxDataSize : sampleHoles.maxDataSize (.progs .rayGen) = some 8 ∧
    sampleHoles.maxDataSize (.progs .missProg) = some 4 ∧
    sampleHoles.maxDataSize .hitGroups = some 24 := by decide

/-- No geometry of an accel is missing. -/
theorem sampleHoles_geoms (a : Ptr) (accel : GeomAccel)
    (ha : sampleHoles.heap .geomAccel a = some accel) : none ∉ accel.geoms := by
  have hheap : sampleHoles.heap .geomAccel = Function.update
      (sampleTwoTypesBuilt.heap .geomAccel) 16 (some ⟨[some 10, some 15], _, _⟩) := rfl
  have hbuilt : sampleTwoTypesBuilt.heap .geomAccel = sampleBuilt.heap .geomAccel := by
    rw [sampleTwoTypesBuilt_step.heap_frame (by decide), sampleBuilt_step.heap_frame (by decide)]
    rfl
  rw [hheap, Function.update_apply, hbuilt] at ha
  split_ifs at ha
  · obtain rfl := Option.some.inj ha
    decide
  · exact sampleBuilt_geoms ha

theorem sampleHoles_assertions : sampleHoles.SBTAssertions where
  rayGen := ⟨4, _, _, rfl, rfl, by decide⟩
  missProgs := by rintro ⟨⟩
  geoms := sampleHoles_geoms

theorem sampleHoles_sizes : sampleHoles.SBTSizesFit where
  storage := by decide +kernel
  record := forall_maxDataSize sampleHoles_maxDataSize (by decide) (by decide) (by decide)
  table := forall_maxDataSize sampleHoles_maxDataSize (by decide) (by decide)
    (by rw [numRecords, sampleHoles_allocator]; decide)

/-- The table of the changed scene: the ray generation program in the third slot has its
record there, and the second geometry of its accel has the fourth hit record. -/
theorem buildSBT_wellFormed_sampleHoles :
    ∃ pl sbt, sampleHoles.rtPipeline.pipeline = some pl ∧
      sampleHoles.buildSBT sampleMemory = some sbt ∧
      sampleHoles.SBTWritten pl sampleMemory sbt ∧
      sbt.rayGens.Holds pl 2 ⟨1, List.replicate 8 0⟩ ∧
      sbt.hitGroups.Holds pl 3 ⟨3, List.replicate 24 0⟩ := by
  have hgeomAccel : 16 ∈ sampleHoles.rtPipeline.geomAccels.toList := by decide
  obtain ⟨pl, sbt, hpl, -, hsbt, hwritten, hprogs, hgeoms⟩ :=
    buildSBT_wellFormed sampleTwoTypes_reachable sampleTwoTypesBuilt_step
      (sampleHoles_run (by decide)) sampleHoles_assertions sampleHoles_sizes sampleMemory
  refine ⟨pl, sbt, hpl, hsbt, hwritten, ?_, ?_⟩
  · obtain ⟨type, htype, hholds⟩ := hprogs .rayGen 19 ⟨2, List.replicate 8 0, 2⟩ rfl
    obtain rfl : _ = type := Option.some.inj htype
    exact hholds
  · obtain ⟨g, o, type, hg, ho, htype, hholds⟩ := hgeoms 16 _ hgeomAccel rfl 1 (by decide)
    obtain rfl : 15 = g := Option.some.inj (Option.some.inj hg)
    obtain rfl : _ = o := Option.some.inj ho
    obtain rfl : _ = type := Option.some.inj htype
    exact hholds

end Context

end Vulkanite
