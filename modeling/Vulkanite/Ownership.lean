/-
# Who holds whom

The `shared_ptr`s between the driver instance, the devices, the contexts and their
objects, with those in the descriptor wrappers and in the static variables of
`Compute::buildPipeline`, and what the calls of the application do to them.

A call makes objects, drops and stores pointers, and then everything dies that has no
pointer to it left (`Ownership.collect`).  Calls that neither store nor drop a
`shared_ptr` for longer than they run are not distinguished.  Raw and weak pointers
hold nothing and are left out.
-/
import Vulkanite.Lib.RefGraph
import Vulkanite.Textures

namespace Vulkanite

/-! ## Nodes -/

/-- The classes that are derived from `Object`. -/
inductive ObjectClass where
  | object (k : ObjectKind)
  | texture (k : DSKind)
  | deviceBuffer
  deriving DecidableEq, Repr

/-- An object, by its class and address. -/
abbrev ObjectRef := ObjectClass × Ptr

/-- What a `shared_ptr` can lead to. `driverHandle` is the `driver::Instance`. -/
inductive Node where
  | driverInstance
  | driverHandle
  | physicalDevice (i : ℕ)
  | logicalDevice (i : ℕ)
  | context (id : ℕ)
  | object (r : ObjectRef)
  deriving DecidableEq, Repr

/-- The `shared_ptr` members of a context, and its device. -/
structure ContextMembers where
  device : ℕ := 0
  selfReference : Bool := false
  rayGenRecordsBuffer : Option Ptr := none
  missProgRecordsBuffer : Option Ptr := none
  hitGroupRecordsBuffer : Option Ptr := none
  appUseCount : List ObjectRef := []
  defaultSampler : Option Ptr := none
  defaultImage : Option Ptr := none

/-- An object: its context and device, and its other `shared_ptr` members, null or not,
those of base classes first. -/
structure ObjectMembers where
  context : ℕ := 0
  device : ℕ := 0
  members : List (Option ObjectRef) := []

/-- The three descriptor wrappers that always come together: `DescriptorPool`,
`DescriptorSetLayout` and `DescriptorSet`.  Each has a pointer to the device. -/
def wrapperRefs (device : ℕ) : List Node := List.replicate 3 (.logicalDevice device)

/-- The pointers in an `RTPipeline`: those of `samplers` and `image2Ds`, and `device`. -/
def rtPipelineRefs (device : ℕ) : List Node :=
  wrapperRefs device ++ wrapperRefs device ++ [.logicalDevice device]

/-- The objects that a context points to. -/
def ContextMembers.objects (c : ContextMembers) : List ObjectRef :=
  c.rayGenRecordsBuffer.toList.map (.deviceBuffer, ·) ++
  c.missProgRecordsBuffer.toList.map (.deviceBuffer, ·) ++
  c.hitGroupRecordsBuffer.toList.map (.deviceBuffer, ·) ++
  c.appUseCount ++
  c.defaultSampler.toList.map (.texture .samplers, ·) ++
  c.defaultImage.toList.map (.texture .image2Ds, ·)

/-- The pointers in a context. -/
def ContextMembers.refs (id : ℕ) (c : ContextMembers) : List Node :=
  .logicalDevice c.device :: rtPipelineRefs c.device ++ wrapperRefs c.device ++
  (if c.selfReference then [.context id] else []) ++ c.objects.map .object

/-- The pointers in an object.  A buffer has a second pointer to its device. -/
def ObjectMembers.refs (k : ObjectClass) (o : ObjectMembers) : List Node :=
  (if k = .deviceBuffer then [.logicalDevice o.device] else []) ++
  .logicalDevice o.device :: o.members.reduceOption.map .object

/-! ## The state -/

/-- What is alive, and all `shared_ptr`s.  `selfReference` and `devices` are members of
the driver instance, `contextsOnThisDevice` of the devices, and `uniformBuffers` says
for which device the static variables of `Compute::buildPipeline` were made. -/
structure Ownership where
  live : Finset Node
  selfReference : Bool
  devices : List ℕ
  contextsOnThisDevice : ℕ → List ℕ := fun _ => []
  contexts : ℕ → ContextMembers := fun _ => {}
  objects : ObjectRef → ObjectMembers := fun _ => {}
  uniformBuffers : Option ℕ := none

namespace Ownership

/-- The pointers in each node. -/
def refs (s : Ownership) : Node → List Node
  | .driverInstance => (if s.selfReference then [.driverInstance] else []) ++
      .driverHandle :: s.devices.map .logicalDevice
  | .driverHandle => []
  | .physicalDevice _ => [.driverHandle]
  | .logicalDevice i => [.physicalDevice i]
  | .context id => (s.contexts id).refs id
  | .object r => (s.objects r).refs r.1

/-- The pointers, and those in static variables. -/
def graph (s : Ownership) : RefGraph Node where
  live := s.live
  refs := s.refs
  roots := s.uniformBuffers.toList.flatMap wrapperRefs

/-- Everything dies that has no pointer to it.  The destructor of a context makes its
device forget it. -/
def collect (s : Ownership) : Ownership :=
  { s with
    live := s.graph.collect.live
    contextsOnThisDevice := fun i =>
      (s.contextsOnThisDevice i).filter fun id => .context id ∈ s.graph.collect.live }

/-! ## What calls do -/

/-- The driver instance that `vknInitialize` makes, with as many devices as there are
matching ones. -/
def vknInitialize (numDevices : ℕ) : Ownership where
  live := {.driverInstance, .driverHandle} ∪ (Finset.range numDevices).image .physicalDevice ∪
    (Finset.range numDevices).image .logicalDevice
  selfReference := true
  devices := List.range numDevices

/-- `Object::Object` and the members of the derived class. -/
def newObject (s : Ownership) (context : ℕ) (r : ObjectRef) (members : List (Option ObjectRef)) :
    Ownership :=
  { s with
    live := insert (.object r) s.live
    objects := Function.update s.objects r
      { context, device := (s.contexts context).device, members } }

/-- Changing the members of a context. -/
def updateContext (s : Ownership) (id : ℕ) (f : ContextMembers → ContextMembers) : Ownership :=
  { s with contexts := Function.update s.contexts id (f (s.contexts id)) }

/-- `Context::addAppRef`. -/
def addAppRef (s : Ownership) (id : ℕ) (r : ObjectRef) : Ownership :=
  s.updateContext id fun c => { c with appUseCount := r :: c.appUseCount }

/-- `Context::freeAllRefs`. -/
def freeAllRefs (s : Ownership) (id : ℕ) (r : ObjectRef) : Ownership :=
  s.updateContext id fun c => { c with appUseCount := c.appUseCount.erase r }

/-- Storing a pointer in member `i` of an object. -/
def setMember (s : Ownership) (r : ObjectRef) (i : ℕ) (m : ObjectRef) : Ownership :=
  { s with
    objects := Function.update s.objects r
      { s.objects r with members := (s.objects r).members.set i (some m) } }

/-- A new object that the application holds. -/
def create (s : Ownership) (context : ℕ) (r : ObjectRef) (members : List (Option ObjectRef)) :
    Ownership :=
  (s.newObject context r members).addAppRef context r

/-- A program at `q` from the module at `m`: `ShaderModule::get` returns one that is
alive, or makes one. -/
def get (s : Ownership) (m q : Ptr) : Ownership :=
  if .object (.object .shaderProgram, q) ∈ s.live then s
  else
    s.newObject (s.objects (.object .shaderModule, m)).context (.object .shaderProgram, q)
      [some (.object .shaderModule, m)]

/-- `Compute::Compute` with `Compute::buildPipeline`, whose static variables are made
when it runs for the first time. -/
def newCompute (s : Ownership) (m q : Ptr) : Ownership :=
  let context := (s.objects (.object .shaderModule, m)).context
  { s.newObject context (.object .shaderProgram, q) [some (.object .shaderModule, m)] with
    uniformBuffers := some (s.uniformBuffers.getD (s.contexts context).device) }

/-- The part of `Context::Context` that concerns the device. -/
def trackContext (s : Ownership) (device id : ℕ) : Ownership :=
  { s with
    live := insert (.context id) s.live
    contexts := Function.update s.contexts id { device }
    contextsOnThisDevice := Function.update s.contextsOnThisDevice device
      (id :: s.contextsOnThisDevice device) }

/-- `vknContextCreate`. -/
def newContext (s : Ownership) (device id : ℕ) (rayGenRecords hitGroupRecords image sampler : Ptr) :
    Ownership :=
  let s := s.trackContext device id
  let s := s.newObject id (.deviceBuffer, rayGenRecords) []
  let s := s.newObject id (.deviceBuffer, hitGroupRecords) []
  let s := s.newObject id (.texture .image2Ds, image) []
  let s := s.newObject id (.texture .samplers, sampler) [some (.texture .image2Ds, image)]
  s.updateContext id fun c =>
    { c with
      selfReference := true
      rayGenRecordsBuffer := some rayGenRecords
      hitGroupRecordsBuffer := some hitGroupRecords
      defaultImage := some image
      defaultSampler := some sampler }

/-- `Context::buildSBT`, with the three buffers that it makes. -/
def buildSBT (s : Ownership) (id : ℕ) (rayGenRecords missProgRecords hitGroupRecords : Ptr) :
    Ownership :=
  let s := s.newObject id (.deviceBuffer, rayGenRecords) []
  let s := s.newObject id (.deviceBuffer, missProgRecords) []
  let s := s.newObject id (.deviceBuffer, hitGroupRecords) []
  s.updateContext id fun c =>
    { c with
      rayGenRecordsBuffer := some rayGenRecords
      missProgRecordsBuffer := some missProgRecords
      hitGroupRecordsBuffer := some hitGroupRecords }

/-- `Context::createRayGen` and `Context::createMissProg`.  The program has the type
twice, once as a member of `SBTObject`. -/
def newProg (s : Ownership) (id : ℕ) (k : ProgKind) (m q t p : Ptr) : Ownership :=
  let s := (s.get m q).newObject id (.object (.progType k), t) [some (.object .shaderProgram, q)]
  s.create id (.object (.prog k), p) (List.replicate 2 (some (.object (.progType k), t)))

/-- The members `ah`, `ch` and `is` of a `GeomType`, before `boundsKernel`. -/
def hitMember : HitRole → ℕ
  | .ah => 0
  | .ch => 1
  | .is => 2

/-- `GeomType::setAH`, `setCH` and `setIS`. -/
def setHitProg (s : Ownership) (t : Ptr) (role : HitRole) (m q : Ptr) : Ownership :=
  (s.get m q).setMember (.object .geomType, t) (hitMember role) (.object .shaderProgram, q)

/-- `GeomType::setBoundsProg`. -/
def setBoundsProg (s : Ownership) (t m q : Ptr) : Ownership :=
  (s.newCompute m q).setMember (.object .geomType, t) 3 (.object .shaderProgram, q)

/-- `Context::createGeom`.  The geometry has the type twice, like a program. -/
def newGeom (s : Ownership) (t g : Ptr) : Ownership :=
  s.create (s.objects (.object .geomType, t)).context (.object .geom, g)
    (List.replicate 2 (some (.object .geomType, t)))

/-- `Context::createTrianglesAccel` and `Context::createUserGeomAccel`: `asBuffer`, then
the geometries. -/
def newGeomAccel (s : Ownership) (id : ℕ) (a : Ptr) (geoms : List (Option Ptr)) : Ownership :=
  s.create id (.object .geomAccel, a) (none :: geoms.map (Option.map (.object .geom, ·)))

/-- `Context::createInstanceAccel`: `asBuffer`, `asHandlesBuffer` and `instanceBuffer`,
then the accels. -/
def newInstanceAccel (s : Ownership) (id : ℕ) (a : Ptr) (accels : List (Option Ptr)) : Ownership :=
  s.create id (.object .instanceAccel, a)
    (List.replicate 3 none ++ accels.map (Option.map (.object .geomAccel, ·)))

/-- A new buffer in member `i` of an accel. -/
def setBuffer (s : Ownership) (k : ObjectKind) (a : Ptr) (i : ℕ) (b : Ptr) : Ownership :=
  (s.newObject (s.objects (.object k, a)).context (.deviceBuffer, b) []).setMember (.object k, a) i
    (.deviceBuffer, b)

/-- `TrianglesGeomAccel::build` and `UserGeomAccel::build`. -/
def buildGeomAccel (s : Ownership) (a asBuffer : Ptr) : Ownership :=
  s.setBuffer .geomAccel a 0 asBuffer

/-- `InstanceAccel::build`, if there are accels. -/
def buildInstanceAccel (s : Ownership) (a asBuffer asHandlesBuffer instanceBuffer : Ptr) :
    Ownership :=
  let s := s.setBuffer .instanceAccel a 1 asHandlesBuffer
  let s := s.setBuffer .instanceAccel a 2 instanceBuffer
  s.setBuffer .instanceAccel a 0 asBuffer

/-- `Context::createSampler`, in the context of the image. -/
def newSampler (s : Ownership) (image p : Ptr) : Ownership :=
  s.create (s.objects (.texture .image2Ds, image)).context (.texture .samplers, p)
    [some (.texture .image2Ds, image)]

/-- `vknBufferDestroy`. -/
def bufferDestroy (s : Ownership) (b : Ptr) : Ownership :=
  s.freeAllRefs (s.objects (.deviceBuffer, b)).context (.deviceBuffer, b)

/-! ## What `vknTerminate` does -/

/-- `Context::terminate`. -/
def contextTerminate (s : Ownership) (id : ℕ) : Ownership :=
  let s := (s.updateContext id fun c => { c with appUseCount := [] }).collect
  (s.updateContext id fun c => { c with selfReference := false }).collect

/-- `LogicalDevice::terminate`, over a copy of the list. -/
def deviceTerminate (s : Ownership) (i : ℕ) : Ownership :=
  (s.contextsOnThisDevice i).foldl contextTerminate s

/-- `DriverInstance::terminate`, up to where it drops the last pointer to the driver
instance and `DriverInstance::~DriverInstance` runs. -/
def terminate (s : Ownership) : Ownership :=
  let s := s.devices.foldl deviceTerminate s
  let s := { s with devices := [] }.collect
  { s with selfReference := false }

end Ownership

end Vulkanite
