/-
# The state of a context, and its constructors and destructors

`Context` and its `RTPipeline` keep, beside the objects themselves, the sets of
tracked pointers, the slot tables of ray generation and miss programs and the
SBT range allocator.  The definitions of this file are the constructors and
destructors of the object classes and the member functions that change objects,
each as a function on the state.  The address of a new object is an argument.

Two properties of the code are built in.  A context uses objects of its own only,
and the `int` counters of slots are natural numbers (there are fewer than `2^31`
objects).
-/
import Vulkanite.Lib.OrderedSet
import Vulkanite.Lib.SlotTable
import Vulkanite.Objects
import Vulkanite.RangeAllocator

namespace Vulkanite

/-! ## Pipelines -/

/-- `VK_SHADER_UNUSED_KHR`, the `uint32_t` of the `int` -1. -/
def VK_SHADER_UNUSED : ℤ := -1

/-- `VkPipelineShaderStageCreateInfo`. -/
structure ShaderStageInfo where
  stage : ShaderStage
  module : ℕ
  pName : String
  deriving DecidableEq, Repr

/-- `VkRayTracingShaderGroupTypeKHR`. -/
inductive ShaderGroupType where
  | GENERAL
  | TRIANGLES_HIT_GROUP
  | PROCEDURAL_HIT_GROUP
  deriving DecidableEq, Repr

/-- `VkRayTracingShaderGroupCreateInfoKHR`. -/
structure ShaderGroupInfo where
  type : ShaderGroupType
  generalShader : ℤ
  closestHitShader : ℤ
  anyHitShader : ℤ
  intersectionShader : ℤ
  deriving DecidableEq, Repr

/-- A ray tracing pipeline on the Vulkan side: what it was created from, and the
handle of each shader group. -/
structure VkPipeline where
  stages : List ShaderStageInfo
  groups : List ShaderGroupInfo
  handles : List (List UInt8)
  deriving DecidableEq

/-- `VkPhysicalDeviceRayTracingPipelinePropertiesKHR`, as far as it is used.  Vulkan
reports neither size as 0. -/
structure PipelineProperties where
  shaderGroupHandleSize : UInt32
  shaderGroupBaseAlignment : UInt32
  handleSize_pos : 0 < shaderGroupHandleSize.toNat
  alignment_pos : 0 < shaderGroupBaseAlignment.toNat

/-- `RTPipeline`.  `progTypes` are `rayGenTypes` and `missProgTypes`, `progs` are
`rayGens` and `missProgs`. -/
structure RTPipeline where
  programs : OrderedSet Ptr := .empty
  progTypes : ProgKind → OrderedSet Ptr := fun _ => .empty
  geomTypes : OrderedSet Ptr := .empty
  geomAccels : OrderedSet Ptr := .empty
  progs : ProgKind → SlotTable Ptr := fun _ => {}
  properties : PipelineProperties
  pipeline : Option VkPipeline := none
  shaderHandleStorage : List UInt8 := []

/-- `Context`, with the objects that belong to it. -/
structure Context where
  heap : Heap := fun _ _ => none
  rtPipeline : RTPipeline
  sbtRangeAllocator : RangeAllocator := {}

namespace Context

/-- The context with another object, or none, at one address. -/
def setObj (c : Context) (k : ObjectKind) (p : Ptr) (o : Option (Obj k)) : Context :=
  { c with heap := TypedHeap.set c.heap k p o }

/-! ## Shader modules and programs -/

/-- `ShaderModule::ShaderModule`. -/
def newShaderModule (c : Context) (handle : ℕ) (p : Ptr) : Context :=
  c.setObj .shaderModule p (some { handle, programs := fun _ => none })

/-- `ShaderModule::~ShaderModule`. -/
def deleteShaderModule (c : Context) (p : Ptr) : Context := c.setObj .shaderModule p none

/-- `ShaderProgram::ShaderProgram`. -/
def newShaderProgram (c : Context) (shaderModule : Ptr) (entryPoint : String)
    (stage : ShaderStage) (p : Ptr) : Context :=
  { c.setObj .shaderProgram p (some { entryPoint, shaderModule, stage }) with
    rtPipeline := { c.rtPipeline with programs := c.rtPipeline.programs.insert p } }

/-- `Compute::Compute`. -/
def newCompute (c : Context) (shaderModule : Ptr) (entryPoint : String) (p : Ptr) : Context :=
  c.newShaderProgram shaderModule entryPoint .COMPUTE p

/-- The weak pointers to the program `p` expire. -/
def expireWeak (h : Heap) (p : Ptr) : Heap :=
  Function.update h .shaderModule fun m => (h .shaderModule m).map fun mod =>
    { mod with programs := fun e => if mod.programs e = some p then none else mod.programs e }

/-- `ShaderProgram::~ShaderProgram`. -/
def deleteShaderProgram (c : Context) (p : Ptr) : Context :=
  { c with
    heap := expireWeak (TypedHeap.set c.heap .shaderProgram p none) p
    rtPipeline := { c.rtPipeline with programs := c.rtPipeline.programs.erase p } }

/-- `ShaderModule::get` of the module `mod` at `m`: the program the weak pointer
leads to, whatever its stage, or else a new program, at `p`. -/
def get (c : Context) (m : Ptr) (mod : ShaderModule) (entryPoint : String)
    (stage : ShaderStage) (p : Ptr) : Ptr × Context :=
  match mod.programs entryPoint with
  | some q => (q, c)
  | none =>
    (p, (c.newShaderProgram m entryPoint stage p).setObj .shaderModule m
      (some { mod with programs := Function.update mod.programs entryPoint (some p) }))

/-! ## Ray generation and miss programs -/

/-- `RayGenType::RayGenType` and `MissProgType::MissProgType`, for a program `q`
from the module. -/
def newProgType (c : Context) (k : ProgKind) (q : Ptr) (dataSize : UInt64) (t : Ptr) : Context :=
  { c.setObj (.progType k) t (some { dataSize, program := q }) with
    rtPipeline := { c.rtPipeline with
      progTypes := Function.update c.rtPipeline.progTypes k
        ((c.rtPipeline.progTypes k).insert t) } }

/-- `RayGenType::~RayGenType` and `MissProgType::~MissProgType`. -/
def deleteProgType (c : Context) (k : ProgKind) (t : Ptr) : Context :=
  { c.setObj (.progType k) t none with
    rtPipeline := { c.rtPipeline with
      progTypes := Function.update c.rtPipeline.progTypes k
        ((c.rtPipeline.progTypes k).erase t) } }

/-- `RayGen::RayGen` and `MissProg::MissProg`, for the type `type` at `t`. -/
def newProg (c : Context) (k : ProgKind) (t : Ptr) (type : ProgType) (p : Ptr) : Context :=
  let slot := (c.rtPipeline.progs k).insert p
  { c.setObj (.prog k) p (some
      { type := t, data := List.replicate type.dataSize.toNat 0, sbtIndex := slot.1 }) with
    rtPipeline := { c.rtPipeline with
      progs := Function.update c.rtPipeline.progs k slot.2 } }

/-- `RayGen::~RayGen` and `MissProg::~MissProg` of the object `o` at `p`. -/
def deleteProg (c : Context) (k : ProgKind) (o : Prog) (p : Ptr) : Context :=
  { c.setObj (.prog k) p none with
    rtPipeline := { c.rtPipeline with
      progs := Function.update c.rtPipeline.progs k
        ((c.rtPipeline.progs k).release o.sbtIndex) } }

/-- `RayGen::setData` and `MissProg::setData`: as many bytes as `data` has. -/
def setProgData (c : Context) (k : ProgKind) (o : Prog) (data : List UInt8) (p : Ptr) : Context :=
  c.setObj (.prog k) p (some { o with data })

/-! ## Geometry types and geometries -/

/-- `GeomType::GeomType`. -/
def newGeomType (c : Context) (kind : GeomKind) (dataSize : UInt64) (t : Ptr) : Context :=
  { c.setObj .geomType t (some { kind, dataSize }) with
    rtPipeline := { c.rtPipeline with geomTypes := c.rtPipeline.geomTypes.insert t } }

/-- `GeomType::~GeomType`. -/
def deleteGeomType (c : Context) (t : Ptr) : Context :=
  { c.setObj .geomType t none with
    rtPipeline := { c.rtPipeline with geomTypes := c.rtPipeline.geomTypes.erase t } }

/-- `GeomType::setCH`, `setAH` and `setIS`, for a program `q` from the module. -/
def setHitProg (c : Context) (gt : GeomType) (role : HitRole) (q t : Ptr) : Context :=
  c.setObj .geomType t (some (gt.setProg role q))

/-- `GeomType::setBoundsProg`, for a new `Compute` `q`. -/
def setBoundsProg (c : Context) (gt : GeomType) (q t : Ptr) : Context :=
  c.setObj .geomType t (some { gt with boundsKernel := some q })

/-- `Geom::Geom`, for the type `type` at `t`. -/
def newGeom (c : Context) (t : Ptr) (type : GeomType) (p : Ptr) : Context :=
  c.setObj .geom p (some { type := t, data := List.replicate type.dataSize.toNat 0 })

/-- `Geom::~Geom`. -/
def deleteGeom (c : Context) (p : Ptr) : Context := c.setObj .geom p none

/-- `Geom::setData`: as many bytes as `data` has. -/
def setGeomData (c : Context) (o : Geom) (data : List UInt8) (p : Ptr) : Context :=
  c.setObj .geom p (some { o with data })

/-! ## Acceleration structures -/

/-- The SBT entries that `Accel::Accel` asks for; none for an accel without
entries, which begins at -1. -/
def allocEntries (a : RangeAllocator) (sbtEntryCount : UInt64) : ℤ × RangeAllocator :=
  if sbtEntryCount = 0 then (-1, a) else a.alloc sbtEntryCount

/-- The constructors of `TrianglesGeomAccel` and `UserGeomAccel`. -/
def newGeomAccel (c : Context) (geoms : List (Option Ptr)) (p : Ptr) : Context :=
  let sbtEntryCount := UInt64.ofNat geoms.length
  let entries := allocEntries c.sbtRangeAllocator sbtEntryCount
  { c.setObj .geomAccel p (some { geoms, sbtEntryBegin := entries.1, sbtEntryCount }) with
    rtPipeline := { c.rtPipeline with geomAccels := c.rtPipeline.geomAccels.insert p }
    sbtRangeAllocator := entries.2 }

/-- The destructors of `TrianglesGeomAccel` and `UserGeomAccel`. -/
def deleteGeomAccel (c : Context) (o : GeomAccel) (p : Ptr) : Context :=
  { c.setObj .geomAccel p none with
    rtPipeline := { c.rtPipeline with geomAccels := c.rtPipeline.geomAccels.erase p }
    sbtRangeAllocator := c.sbtRangeAllocator.release (sizeOfInt o.sbtEntryBegin) o.sbtEntryCount }

/-- `InstanceAccel::InstanceAccel`. -/
def newInstanceAccel (c : Context) (accels : List (Option Ptr)) (p : Ptr) : Context :=
  let sbtEntryCount := UInt64.ofNat accels.length
  let entries := allocEntries c.sbtRangeAllocator sbtEntryCount
  { c.setObj .instanceAccel p (some { accels, sbtEntryBegin := entries.1, sbtEntryCount }) with
    sbtRangeAllocator := entries.2 }

/-- `InstanceAccel::~InstanceAccel`. -/
def deleteInstanceAccel (c : Context) (o : InstanceAccel) (p : Ptr) : Context :=
  { c.setObj .instanceAccel p none with
    sbtRangeAllocator := c.sbtRangeAllocator.release (sizeOfInt o.sbtEntryBegin) o.sbtEntryCount }

end Context

end Vulkanite
