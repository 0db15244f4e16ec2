/-
# The objects of a context

The classes that make up the state of a ray tracing context: shader modules and
programs, the types and instances of ray generation and miss programs, geometry
types and geometries, and the two levels of acceleration structures.  A
`shared_ptr` member is the pointer to the object, and `refs` lists the
`shared_ptr` members of each class.

`RayGenType` and `MissProgType`, and `RayGen` and `MissProg`, differ only in the
shader stage and in the tables they go to, so they are one class each with a
`ProgKind`.  `Compute` is a shader program with the compute stage.  Members that
no modelled operation reads (vertex arrays, Vulkan handles of buffers and
acceleration structures, transforms) are left out.
-/
import Vulkanite.SizeT
import Vulkanite.Lib.TypedHeap

namespace Vulkanite

/-- The address of an object. -/
abbrev Ptr := ℕ

/-- `VkShaderStageFlagBits`, as far as the code uses them. -/
inductive ShaderStage where
  | RAYGEN
  | ANY_HIT
  | CLOSEST_HIT
  | MISS
  | INTERSECTION
  | COMPUTE
  deriving DecidableEq, Repr

/-- `VKNGeomKind`; `other` is any value of the enumeration's type without a name. -/
inductive GeomKind where
  | TRIANGLES
  | USER
  | other
  deriving DecidableEq, Repr

/-- The two kinds of programs with SBT records of their own. -/
inductive ProgKind where
  | rayGen
  | missProg
  deriving DecidableEq, Repr

/-- The stage a `RayGenType` or a `MissProgType` asks its module for. -/
def ProgKind.stage : ProgKind → ShaderStage
  | .rayGen => .RAYGEN
  | .missProg => .MISS

theorem ProgKind.stage_ne_compute (k : ProgKind) : k.stage ≠ .COMPUTE := by
  cases k <;> decide

/-- The hit programs of a geometry type: `ch`, `ah` and `is`. -/
inductive HitRole where
  | ch
  | ah
  | is
  deriving DecidableEq, Repr

/-- The stage that `setCH`, `setAH` and `setIS` ask the module for. -/
def HitRole.stage : HitRole → ShaderStage
  | .ch => .CLOSEST_HIT
  | .ah => .ANY_HIT
  | .is => .INTERSECTION

theorem HitRole.stage_ne_compute (role : HitRole) : role.stage ≠ .COMPUTE := by
  cases role <;> decide

/-! ## Classes -/

/-- `ShaderModule`: the Vulkan handle and the map of weak pointers to the
programs made from it.  An expired weak pointer is no entry. -/
structure ShaderModule where
  handle : ℕ
  programs : String → Option Ptr

/-- `ShaderProgram`, and `Compute` when the stage is `COMPUTE`. -/
structure ShaderProgram where
  entryPoint : String
  shaderModule : Ptr
  stage : ShaderStage
  shaderStageIndex : ℤ := -1
  deriving DecidableEq, Repr

/-- `RayGenType` and `MissProgType`. -/
structure ProgType where
  dataSize : UInt64
  shaderGroupIndex : ℤ := -1
  program : Ptr
  deriving DecidableEq, Repr

/-- `RayGen` and `MissProg`. -/
structure Prog where
  type : Ptr
  data : List UInt8
  sbtIndex : ℕ
  deriving DecidableEq, Repr

/-- `GeomType`. -/
structure GeomType where
  kind : GeomKind
  dataSize : UInt64
  shaderGroupIndex : ℤ := -1
  ch : Option Ptr := none
  ah : Option Ptr := none
  is : Option Ptr := none
  boundsKernel : Option Ptr := none
  deriving DecidableEq, Repr

/-- `Geom`: `TrianglesGeom` and `UserGeom`. -/
structure Geom where
  type : Ptr
  data : List UInt8
  deriving DecidableEq, Repr

/-- `GeomAccel`: `TrianglesGeomAccel` and `UserGeomAccel`.  An entry of `geoms`
is null if the geometry passed in was not of the accel's class. -/
structure GeomAccel where
  geoms : List (Option Ptr)
  sbtEntryBegin : ℤ
  sbtEntryCount : UInt64
  deriving DecidableEq, Repr

/-- `InstanceAccel`.  An entry of `accels` is null if the accel passed in was not
a `GeomAccel`. -/
structure InstanceAccel where
  accels : List (Option Ptr)
  sbtEntryBegin : ℤ
  sbtEntryCount : UInt64
  deriving DecidableEq, Repr

/-- The program a geometry type holds in a role. -/
def GeomType.prog (gt : GeomType) : HitRole → Option Ptr
  | .ch => gt.ch
  | .ah => gt.ah
  | .is => gt.is

/-- The geometry type with another program in a role. -/
def GeomType.setProg (gt : GeomType) (role : HitRole) (q : Ptr) : GeomType :=
  match role with
  | .ch => { gt with ch := some q }
  | .ah => { gt with ah := some q }
  | .is => { gt with is := some q }

theorem GeomType.prog_setProg (gt : GeomType) (role role' : HitRole) (q : Ptr) :
    (gt.setProg role q).prog role' = if role' = role then some q else gt.prog role' := by
  cases role <;> cases role' <;> rfl

/-! ## The heap -/

/-- The classes, with `ProgType` and `Prog` split by kind. -/
inductive ObjectKind where
  | shaderModule
  | shaderProgram
  | progType (k : ProgKind)
  | prog (k : ProgKind)
  | geomType
  | geom
  | geomAccel
  | instanceAccel
  deriving DecidableEq, Repr

/-- The class of a kind of objects. -/
@[reducible] def Obj : ObjectKind → Type
  | .shaderModule => ShaderModule
  | .shaderProgram => ShaderProgram
  | .progType _ => ProgType
  | .prog _ => Prog
  | .geomType => GeomType
  | .geom => Geom
  | .geomAccel => GeomAccel
  | .instanceAccel => InstanceAccel

/-- The live objects. -/
abbrev Heap := TypedHeap.Heap Ptr Obj

/-- The reference in a `shared_ptr` member, unless it is null. -/
def refTo (k : ObjectKind) (q : Option Ptr) : List (ObjectKind × Ptr) := q.toList.map (k, ·)

@[simp] theorem mem_refTo {k : ObjectKind} {q : Option Ptr} {r : ObjectKind × Ptr} :
    r ∈ refTo k q ↔ r.1 = k ∧ q = some r.2 := by
  obtain ⟨k', p⟩ := r
  cases q <;> simp [refTo, eq_comm]

/-- The `shared_ptr` members of each class. -/
def refs : (k : ObjectKind) → Obj k → List (ObjectKind × Ptr)
  | .shaderModule, _ => []
  | .shaderProgram, p => [(.shaderModule, p.shaderModule)]
  | .progType _, t => [(.shaderProgram, t.program)]
  | .prog k, p => [(.progType k, p.type)]
  | .geomType, gt => refTo .shaderProgram gt.ch ++ refTo .shaderProgram gt.ah ++
      refTo .shaderProgram gt.is ++ refTo .shaderProgram gt.boundsKernel
  | .geom, g => [(.geomType, g.type)]
  | .geomAccel, a => a.geoms.flatMap (refTo .geom)
  | .instanceAccel, a => a.accels.flatMap (refTo .geomAccel)

/-- A program that a geometry type holds in a role is one of its references. -/
theorem mem_refs_geomType_prog {gt : GeomType} {role : HitRole} {q : Ptr}
    (h : gt.prog role = some q) : (.shaderProgram, q) ∈ refs .geomType gt := by
  cases role <;> simp only [GeomType.prog] at h <;> simp [refs, h]

/-- A geometry of an accel is one of its references. -/
theorem mem_refs_geomAccel {a : GeomAccel} {g : Ptr} (h : some g ∈ a.geoms) :
    (.geom, g) ∈ refs .geomAccel a :=
  List.mem_flatMap.mpr ⟨some g, h, by simp⟩

/-- Storing another stage index in a program. -/
def ShaderProgram.setStageIndex (i : ℕ) (p : ShaderProgram) : ShaderProgram :=
  { p with shaderStageIndex := i }

/-- Storing another group index in a type of programs. -/
def ProgType.setGroupIndex (i : ℕ) (t : ProgType) : ProgType := { t with shaderGroupIndex := i }

/-- Storing another group index in a geometry type. -/
def GeomType.setGroupIndex (i : ℕ) (gt : GeomType) : GeomType := { gt with shaderGroupIndex := i }

end Vulkanite
