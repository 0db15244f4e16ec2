/-
# The contexts of the prime library

The functions of `prime.h` and the constructors behind them, as functions on the context
of the rendering library that a prime context owns.  `vpContextCreate` selects a device,
makes one geometry type for all meshes, one miss program and one ray generation program,
and builds the pipeline; it is built once.  From then on meshes, groups and models are only
ever made.

`Scene` is a prime context together with what was made in it and with the memory of its
device, where the meshes have their buffers.  Addresses of new objects are arguments, and
so is what Vulkan answers.  A call of Vulkan that has no answer here succeeds.
-/
import Vulkanite.DriverInstance
import Vulkanite.Launch
import Vulkanite.MeshTriangles
import Vulkanite.ModelInstances
import Vulkanite.MultiHit

namespace Vulkanite.Prime

open Vulkanite (Context)

/-! ## Bytes -/

/-- The bytes of a `uint32_t`, lowest first. -/
def bytes32 (w : UInt32) : List UInt8 :=
  [w.toUInt8, (w >>> 8).toUInt8, (w >>> 16).toUInt8, (w >>> 24).toUInt8]

/-- The bytes of a `uint64_t`, lowest first. -/
def bytes64 (w : UInt64) : List UInt8 := bytes32 w.toUInt32 ++ bytes32 (w >>> 32).toUInt32

/-- `RayGenData`. -/
structure RayGenData where
  rays : UInt64
  rayIDs : UInt64
  hits : UInt64
  hitIDs : UInt64
  traceMode : UInt32
  world : UInt64
  numRays : UInt32
  deriving DecidableEq, Repr

/-- A `RayGenData` in memory.  Two times four bytes of padding follow a 32-bit member. -/
def RayGenData.bytes (d : RayGenData) (padding : UInt64) : List UInt8 :=
  bytes64 d.rays ++ bytes64 d.rayIDs ++ bytes64 d.hits ++ bytes64 d.hitIDs ++
    (bytes32 d.traceMode ++ bytes32 padding.toUInt32) ++ bytes64 d.world ++
    (bytes32 d.numRays ++ bytes32 (padding >>> 32).toUInt32)

/-- `sizeof(TrianglesGeomData)`. -/
def sizeofTrianglesGeomData : UInt64 := 4

/-- `sizeof(MissProgData)`. -/
def sizeofMissProgData : UInt64 := 4

/-- `sizeof(RayGenData)`. -/
def sizeofRayGenData : UInt64 := 56

/-! ## The calls that a prime context makes -/

/-- What Vulkan answers when a pipeline is made: the handle of each group. -/
structure PipelineMaker where
  handles : PipelineProperties → List ShaderGroupInfo → List (List UInt8)
  isGroupHandles : ∀ properties groups, IsGroupHandles properties groups (handles properties groups)

/-- `vknGeomTypeSetClosestHit` and `vknGeomTypeSetAnyHit`, with the address of a new
program. -/
def vknGeomTypeSetProg (c : Context) (role : HitRole) (t m : Ptr) (entryPoint : String) (q : Ptr) :
    Option Context := do
  let gt ← c.heap .geomType t
  let mod ← c.heap .shaderModule m
  let r := c.get m mod entryPoint role.stage q
  return r.2.setHitProg gt role r.1 t

/-- `vknMissProgCreate` and `vknRayGenCreate`, with the addresses of a new program, the
type and the object. -/
def vknProgCreate (c : Context) (k : ProgKind) (m : Ptr) (entryPoint : String)
    (sizeOfData : UInt64) (q t p : Ptr) : Option Context := do
  let mod ← c.heap .shaderModule m
  let r := c.get m mod entryPoint k.stage q
  let c := r.2.newProgType k r.1 sizeOfData t
  let type ← c.heap (.progType k) t
  return c.newProg k t type p

/-- `vknBuildPipeline`. -/
def vknBuildPipeline (c : Context) (vk : PipelineMaker) : Option Context :=
  match c.gatherPrograms with
  | (.ok (stages, groups), c) =>
    some (c.finishBuild stages groups (vk.handles c.rtPipeline.properties groups))
  | (.error _, _) => none

/-! ## Contexts -/

/-- The addresses of the objects that `Context::Context` makes: the shader module, the
geometry type with its programs, and for `mp` and `rg` the program, the type and the
object. -/
structure SetUp where
  sm : Ptr
  meshGT : Ptr
  ch : Ptr
  ah : Ptr
  program : ProgKind → Ptr
  type : ProgKind → Ptr
  prog : ProgKind → Ptr
  nodup : [ch, ah, program .missProg, program .rayGen].Nodup

/-- The entry points of `mp` and `rg`. -/
def entryPoint : ProgKind → String
  | .missProg => "missProg"
  | .rayGen => "traceRays"

/-- The sizes of the data of `mp` and `rg`. -/
def sizeOfData : ProgKind → UInt64
  | .missProg => sizeofMissProgData
  | .rayGen => sizeofRayGenData

/-- `Context::Context` up to the call of `vknBuildPipeline`; `vknBuildPrograms` does
nothing.  The handle is that of the shader module. -/
def SetUp.programs (p : SetUp) (properties : PipelineProperties) (handle : ℕ) :
    Option Context := do
  let c : Context := { rtPipeline := { properties } }
  let c := c.newShaderModule handle p.sm
  let c := c.newGeomType .TRIANGLES sizeofTrianglesGeomData p.meshGT
  let c ← vknGeomTypeSetProg c .ch p.meshGT p.sm "TriangleMesh_CH" p.ch
  let c ← vknGeomTypeSetProg c .ah p.meshGT p.sm "TriangleMesh_AH" p.ah
  let c ← vknProgCreate c .missProg p.sm (entryPoint .missProg) (sizeOfData .missProg)
    (p.program .missProg) (p.type .missProg) (p.prog .missProg)
  vknProgCreate c .rayGen p.sm (entryPoint .rayGen) (sizeOfData .rayGen)
    (p.program .rayGen) (p.type .rayGen) (p.prog .rayGen)

/-- A `Mesh`: its ID, its geometry, its buffers, and what it was made from. -/
structure SceneMesh extends Records.Mesh where
  vkn : Ptr
  triangles : Triangles.Mesh
  userGeomID : UInt64
  arguments : Triangles.MeshArguments

/-- A `Group`, with the meshes that it was made from. -/
structure SceneGroup extends Group where
  meshes : List SceneMesh

/-- A `Model`, with the groups that it was made from and the instances that were written. -/
structure SceneModel where
  vkn : Ptr
  groups : List SceneGroup
  instances : List TransformedInstance

/-- A `vp::Context`, its device, and what was made in it. -/
structure Scene where
  setUp : SetUp
  vkn : Context
  device : DeviceHeap
  meshes : List SceneMesh := []
  groups : List SceneGroup := []
  models : List SceneModel := []

/-- `vpContextCreate`, with what Vulkan reports about a device and what is in its memory.
The `int32_t` becomes a `uint32_t` in `vknDeviceGet`, whose assertion fails without such a
device. -/
def vpContextCreate (driver : VkDriver) (gpuToUse : Int32) (p : SetUp)
    (properties : LogicalDevice → PipelineProperties) (handle : ℕ) (vk : PipelineMaker)
    (memory : DeviceHeap) : Option Scene := do
  let driver ← vknInitialize driver VKN_DEVICE_TYPE_DEFAULT
  let device ← vknDeviceGet driver gpuToUse.toUInt32
  let c ← p.programs (properties device) handle
  let c ← vknBuildPipeline c vk
  return { setUp := p, vkn := c, device := memory }

namespace Scene

/-- `vpMeshCreate`, with the address of the geometry. -/
def vpMeshCreate (s : Scene) (vma : DeviceAllocator) (userGeomID : UInt64)
    (arguments : Triangles.MeshArguments) (g : Ptr) : Option Scene := do
  let (triangles, device) ← Triangles.vpMeshCreate vma s.device arguments
  let type ← s.vkn.heap .geomType s.setUp.meshGT
  let c := s.vkn.newGeom s.setUp.meshGT type g
  let o ← c.heap .geom g
  let mesh : SceneMesh :=
    { Records.vpMeshCreate userGeomID with vkn := g, triangles, userGeomID, arguments }
  return { s with
    vkn := c.setGeomData o (bytes32 mesh.data.geomID) g
    device
    meshes := mesh :: s.meshes }

/-- `vpGroupCreate`, with the address of the accel. -/
def vpGroupCreate (s : Scene) (meshes : List SceneMesh) (a : Ptr) : Scene :=
  { s with
    vkn := s.vkn.newGeomAccel (meshes.map fun mesh => some mesh.vkn) a
    groups := { vkn := a, meshes } :: s.groups }

/-- `vpModelCreate`, with the address of the accel.  It ends with `vknBuildSBT`, and there
is no result if an assertion of that fails. -/
def vpModelCreate (s : Scene) (groups : List SceneGroup) (xfms : Option (List VPTransform))
    (ia : Ptr) (mem : DeviceMemory) : Option Scene := do
  let model ← Model.create s.vkn (groups.map (·.toGroup)) xfms ia
  let _ ← model.context.buildSBT mem
  return { s with
    vkn := model.context
    models := { vkn := ia, groups, instances := model.instances } :: s.models }

/-- The `RayGenData` of `vpTrace`, with the address of the model's accel. -/
def rayGenData (world numRays arrayOfRays arrayOfHits : UInt64) (traceMode : TraceMode) :
    RayGenData where
  rays := arrayOfRays
  rayIDs := 0
  hits := arrayOfHits
  hitIDs := 0
  traceMode := match traceMode with
    | .FIRST_HIT => 0
    | .NEXT_HIT => 1
  world
  numRays := uint32OfInt (intOfSize numRays)

/-- `vpTrace`: the scene afterwards, the tables and the launch.  The address of the model's
accel is an argument. -/
def vpTrace (s : Scene) (world numRays arrayOfRays arrayOfHits : UInt64) (traceMode : TraceMode)
    (padding : UInt64) (mem : DeviceMemory) : Option (Scene × SBT × TraceRays) := do
  let rg := rayGenData world numRays arrayOfRays arrayOfHits traceMode
  let o ← s.vkn.heap (.prog .rayGen) (s.setUp.prog .rayGen)
  let c := s.vkn.setProgData .rayGen o (rg.bytes padding) (s.setUp.prog .rayGen)
  let sbt ← c.buildSBT mem
  return ({ s with vkn := c }, sbt, vknRayGenLaunch2D sbt (s.setUp.prog .rayGen)
    (s.setUp.prog .missProg) (intOfSize numRays) 1)

end Scene

end Vulkanite.Prime
