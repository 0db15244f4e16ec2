/-
# `UserGeomAccel::build`

The boxes of user geometries come from a bounds kernel.  `build` makes one buffer for the
data of a geometry and one for all boxes.  A first loop uploads the data of each geometry
and launches its kernel, and a second one tells Vulkan where the boxes are; each keeps a
running pointer into the buffer of the boxes.

The two loops agree on where the boxes are (`map_primBounds`).  Three theorems say when the
rest of what they rely on holds: that the boxes fill the buffer and the grids are big
enough (`build_boundsConsistent_iff`), that the uploads read the data of their geometries
(`build_uploads_iff`), and that the kernels get their arguments (`build_pushes_iff`).
-/
import Vulkanite.ContextRuns
import Vulkanite.Lib.Tiling
import Vulkanite.PushConstants
import Vulkanite.TrianglesBuild

namespace Vulkanite

/-! ## Device buffers -/

/-- What `vmaCreateBufferWithAlignment` does for one of the buffers: the address of a buffer
of the size, which ends before the addresses do, or an error, as for size 0. -/
structure BufferAllocation where
  address : UInt64 → Option UInt64
  zero : address 0 = none
  fits : ∀ size a, address size = some a → a.toNat + size.toNat < 2 ^ 64

/-- `DeviceBuffer`. -/
structure DeviceBuffer where
  deviceAddress : UInt64
  sizeInBytes : UInt64
  deriving DecidableEq, Repr

namespace DeviceBuffer

/-- `DeviceBuffer::DeviceBuffer`. -/
def create (alloc : BufferAllocation) (sizeInBytes : UInt64) : Option DeviceBuffer := do
  let deviceAddress ← alloc.address sizeInBytes
  return { deviceAddress, sizeInBytes }

/-- `DeviceBuffer::upload`: the bytes that are in the buffer then.  There are none if it
reads past the host data. -/
def upload (b : DeviceBuffer) (hostData : List UInt8) : Option (List UInt8) :=
  ByteMemory.read hostData 0 b.sizeInBytes.toNat

theorem create_eq_some {alloc : BufferAllocation} {size : UInt64} {b : DeviceBuffer} :
    create alloc size = some b ↔
      b.sizeInBytes = size ∧ alloc.address size = some b.deviceAddress := by
  obtain ⟨a, size'⟩ := b
  simp only [create, Option.bind_eq_bind, Option.pure_def, Option.bind_eq_some_iff,
    Option.some.injEq, mk.injEq]
  constructor
  · rintro ⟨a', ha, rfl, rfl⟩
    exact ⟨rfl, ha⟩
  · rintro ⟨rfl, ha⟩
    exact ⟨a, ha, rfl, rfl⟩

end DeviceBuffer

/-! ## User geometries -/

/-- A `GeomType` of kind `VKN_GEOM_USER`.  Its bounds kernel, if it has one, was made for
the size of its data. -/
structure UserGeomType where
  dataSize : UInt64
  boundsKernel : Option Compute
  boundsKernel_eq : ∀ k ∈ boundsKernel, k = Compute.create dataSize

/-- `UserGeom`. -/
structure UserGeom where
  type : UserGeomType
  data : List UInt8
  primCount : Int32
  length_data : data.length = type.dataSize.toNat

/-- `GeomType::GeomType`. -/
def UserGeomType.create (dataSize : UInt64) : UserGeomType where
  dataSize := dataSize
  boundsKernel := none
  boundsKernel_eq := fun _ hk => absurd hk (Option.not_mem_none _)

/-- `GeomType::setBoundsProg`. -/
def UserGeomType.setBoundsProg (t : UserGeomType) : UserGeomType where
  dataSize := t.dataSize
  boundsKernel := some (Compute.create t.dataSize)
  boundsKernel_eq := fun _ hk => (Option.some.inj hk).symm

/-- `UserGeom::UserGeom`. -/
def UserGeom.create (type : UserGeomType) : UserGeom where
  type := type
  data := List.replicate type.dataSize.toNat 0
  primCount := 0
  length_data := List.length_replicate

/-- `vknGeomSetPrimCount`. -/
def vknGeomSetPrimCount (geom : UserGeom) (primCount : Int32) : UserGeom :=
  { geom with primCount }

/-- The number of boxes of a geometry. -/
def UserGeom.numPrims (g : UserGeom) : ℕ := g.primCount.toInt.toNat

/-- A live geometry of a context, with a number of boxes: its data has the size of its
type. -/
theorem Context.exists_userGeom {c : Context} (hc : c.Reachable) {g : Ptr} {o : Geom}
    (ho : c.heap .geom g = some o) (primCount : Int32) :
    ∃ gt, c.heap .geomType o.type = some gt ∧ ∃ u : UserGeom, u.data = o.data ∧
      u.primCount = primCount ∧ u.type.dataSize = gt.dataSize ∧
      (u.type.boundsKernel.isSome ↔ gt.boundsKernel.isSome) := by
  obtain ⟨gt, hgt, hlength⟩ := hc.invariant.geomData g o ho
  refine ⟨gt, hgt, ?_⟩
  cases gt.boundsKernel with
  | none => exact ⟨⟨.create gt.dataSize, o.data, primCount, hlength⟩, rfl, rfl, rfl, Iff.rfl⟩
  | some q =>
    exact ⟨⟨(UserGeomType.create gt.dataSize).setBoundsProg, o.data, primCount, hlength⟩,
      rfl, rfl, rfl, by simp [UserGeomType.setBoundsProg]⟩

/-! ## The model -/

/-- `sizeof(VKNBox3)`, which is `6*sizeof(float)`. -/
def sizeOfBox3 : UInt64 := 6 * 4

/-- The `n` bytes of a number, from the lowest on. -/
def littleEndian : ℕ → ℕ → List UInt8
  | 0, _ => []
  | n + 1, x => UInt8.ofNat x :: littleEndian n (x / 256)

/-- `VKNBoundsKernelArgs`.  The code does not set the 4 bytes at its end. -/
structure VKNBoundsKernelArgs where
  primBounds : UInt64
  geomData : UInt64
  primCount : Int32
  padding : UInt32
  deriving DecidableEq, Repr

/-- The record in memory. -/
def VKNBoundsKernelArgs.bytes (args : VKNBoundsKernelArgs) : List UInt8 :=
  littleEndian 8 args.primBounds.toNat ++ littleEndian 8 args.geomData.toNat ++
    littleEndian 4 args.primCount.toUInt32.toNat ++ littleEndian 4 args.padding.toNat

/-- `glm::ivec3`. -/
structure IVec3 where
  x : ℤ
  y : ℤ
  z : ℤ
  deriving DecidableEq, Repr

/-- The launch of a bounds kernel: what was uploaded for it, its arguments, its grid, and
what it pushes.  There is no grid if computing it overflows. -/
structure BoundsLaunch where
  geomData : Option (List UInt8)
  kernelData : VKNBoundsKernelArgs
  dims : Option IVec3
  pushConstants : PushConstants
  deriving DecidableEq, Repr

/-- `VkAccelerationStructureGeometryAabbsDataKHR`. -/
structure AabbsData where
  deviceAddress : UInt64
  stride : UInt64
  deriving DecidableEq, Repr

/-- The input for one geometry: its data, its range and its entry in `primCounts`. -/
structure AabbsInput where
  data : AabbsData
  range : BuildRangeInfo
  primCount : UInt32
  deriving DecidableEq, Repr

/-- What `UserGeomAccel::build` does: its buffers, launches and inputs. -/
structure UserGeomBuild where
  geomDataBuffer : DeviceBuffer
  boundsBuffer : DeviceBuffer
  launches : List BoundsLaunch
  inputs : List AabbsInput
  deriving DecidableEq, Repr

namespace UserGeomAccel

/-- `totalPrims`. -/
def totalPrims (geoms : List UserGeom) : UInt64 :=
  geoms.foldl (fun n g => n + sizeOfInt g.primCount.toInt) 0

/-- `maxUserGeomSize`. -/
def maxUserGeomSize (geoms : List UserGeom) : UInt64 :=
  geoms.foldl (fun n g => max n g.type.dataSize) 0

/-- `d_bounds += primCount`. -/
def nextBounds (d_bounds : UInt64) (primCount : Int32) : UInt64 :=
  d_bounds + sizeOfInt primCount.toInt * sizeOfBox3

/-- The body of the first loop, for a geometry with this kernel. -/
def boundsLaunch (geomDataBuffer : DeviceBuffer) (padding : UInt32) (d_bounds : UInt64)
    (geom : UserGeom) (boundsKernel : Compute) : BoundsLaunch :=
  let kernelData : VKNBoundsKernelArgs :=
    { primBounds := d_bounds
      geomData := geomDataBuffer.deviceAddress
      primCount := geom.primCount
      padding }
  { geomData := geomDataBuffer.upload geom.data
    kernelData
    dims := (divRoundUpInt geom.primCount.toInt 1024).map fun y => ⟨1024, y, 1⟩
    pushConstants := boundsKernel.pushConstants (some kernelData.bytes) }

/-- The first loop.  It ends with an assertion at a geometry without a kernel. -/
def launchBounds (geomDataBuffer : DeviceBuffer) (padding : UInt32) :
    UInt64 → List UserGeom → Option (List BoundsLaunch)
  | _, [] => some []
  | d_bounds, geom :: geoms => do
    let boundsKernel ← geom.type.boundsKernel
    let launches ← launchBounds geomDataBuffer padding (nextBounds d_bounds geom.primCount) geoms
    return boundsLaunch geomDataBuffer padding d_bounds geom boundsKernel :: launches

/-- The second loop. -/
def aabbsInputs : UInt64 → List UserGeom → List AabbsInput
  | _, [] => []
  | d_bounds, geom :: geoms =>
    let primCount := geom.primCount.toUInt32
    { data := { deviceAddress := d_bounds, stride := 6 * 4 }
      range :=
        { primitiveCount := primCount
          primitiveOffset := 0
          firstVertex := 0
          transformOffset := 0 }
      primCount } :: aabbsInputs (nextBounds d_bounds geom.primCount) geoms

/-- `UserGeomAccel::build`, up to the input of the acceleration structure. -/
def build (geomDataAlloc boundsAlloc : BufferAllocation) (padding : UInt32)
    (geoms : List UserGeom) : Option UserGeomBuild := do
  guard (totalPrims geoms > 0)
  let geomDataBuffer ← DeviceBuffer.create geomDataAlloc (maxUserGeomSize geoms)
  let boundsBuffer ← DeviceBuffer.create boundsAlloc (totalPrims geoms * sizeOfBox3)
  let launches ← launchBounds geomDataBuffer padding boundsBuffer.deviceAddress geoms
  return { geomDataBuffer, boundsBuffer, launches,
           inputs := aabbsInputs boundsBuffer.deviceAddress geoms }

/-! ## Sizes -/

theorem toNat_sizeOfInt_primCount {g : UserGeom} (h : 0 ≤ g.primCount.toInt) :
    (sizeOfInt g.primCount.toInt).toNat = g.numPrims := by
  have hcast : g.primCount.toInt = (g.numPrims : ℤ) := (Int.toNat_of_nonneg h).symm
  have hlt := g.primCount.toInt_lt
  rw [hcast]
  exact toNat_sizeOfInt_natCast (by omega)

theorem toNat_foldl_primCount {geoms : List UserGeom} (h : ∀ g ∈ geoms, 0 ≤ g.primCount.toInt)
    (n : UInt64) :
    (geoms.foldl (fun n g => n + sizeOfInt g.primCount.toInt) n).toNat =
      (n.toNat + (geoms.map UserGeom.numPrims).sum) % 2 ^ 64 := by
  induction geoms generalizing n with
  | nil => exact (Nat.mod_eq_of_lt n.toNat_lt).symm
  | cons g geoms ih =>
    obtain ⟨hg, hgeoms⟩ := List.forall_mem_cons.mp h
    rw [List.foldl_cons, ih hgeoms, UInt64.toNat_add, toNat_sizeOfInt_primCount hg,
      Nat.mod_add_mod, List.map_cons, List.sum_cons, Nat.add_assoc]

/-- The number of bytes that are asked for. -/
theorem toNat_totalPrims_mul {geoms : List UserGeom} (h : ∀ g ∈ geoms, 0 ≤ g.primCount.toInt) :
    (totalPrims geoms * sizeOfBox3).toNat =
      24 * (geoms.map UserGeom.numPrims).sum % 2 ^ 64 := by
  have hbox : sizeOfBox3.toNat = 24 := rfl
  rw [UInt64.toNat_mul, totalPrims, toNat_foldl_primCount h, hbox, Nat.mod_mul_mod,
    UInt64.toNat_zero, Nat.zero_add, Nat.mul_comm]

/-- The largest size is the least bound of all sizes. -/
theorem maxUserGeomSize_le_iff {geoms : List UserGeom} {n : ℕ} :
    (maxUserGeomSize geoms).toNat ≤ n ↔ ∀ g ∈ geoms, g.type.dataSize.toNat ≤ n := by
  have hfold : ∀ m : UInt64,
      (geoms.foldl (fun n g => max n g.type.dataSize) m).toNat ≤ n ↔
        m.toNat ≤ n ∧ ∀ g ∈ geoms, g.type.dataSize.toNat ≤ n := by
    induction geoms with
    | nil => simp
    | cons g geoms ih =>
      intro m
      rw [List.foldl_cons, ih, toNat_max, max_le_iff, List.forall_mem_cons, and_assoc]
  rw [maxUserGeomSize, hfold, UInt64.toNat_zero]
  exact and_iff_right n.zero_le

/-! ## The two loops -/

variable {buffer : DeviceBuffer} {padding : UInt32} {d_bounds : UInt64} {geoms : List UserGeom}
  {launches : List BoundsLaunch}

theorem launchBounds_cons_eq_some {g : UserGeom} :
    launchBounds buffer padding d_bounds (g :: geoms) = some launches ↔
      ∃ kernel launches', g.type.boundsKernel = some kernel ∧
        launchBounds buffer padding (nextBounds d_bounds g.primCount) geoms = some launches' ∧
        launches = boundsLaunch buffer padding d_bounds g kernel :: launches' := by
  simp only [launchBounds, Option.bind_eq_bind, Option.pure_def, Option.bind_eq_some_iff,
    Option.some.injEq]
  constructor
  · rintro ⟨kernel, hkernel, launches', hlaunches', rfl⟩
    exact ⟨kernel, launches', hkernel, hlaunches', rfl⟩
  · rintro ⟨kernel, launches', hkernel, hlaunches', rfl⟩
    exact ⟨kernel, hkernel, launches', hlaunches', rfl⟩

theorem isSome_launchBounds :
    (launchBounds buffer padding d_bounds geoms).isSome ↔
      ∀ g ∈ geoms, g.type.boundsKernel.isSome := by
  induction geoms generalizing d_bounds with
  | nil => simp [launchBounds]
  | cons g geoms ih =>
    rw [List.forall_mem_cons, ← @ih (nextBounds d_bounds g.primCount)]
    simp only [Option.isSome_iff_exists, launchBounds_cons_eq_some]
    constructor
    · rintro ⟨_, kernel, launches', hkernel, hlaunches', -⟩
      exact ⟨⟨kernel, hkernel⟩, ⟨launches', hlaunches'⟩⟩
    · rintro ⟨⟨kernel, hkernel⟩, ⟨launches', hlaunches'⟩⟩
      exact ⟨_, kernel, launches', hkernel, hlaunches', rfl⟩

/-- There is one launch for each geometry, of the kernel of its type.  So what holds of
such a launch under some condition holds of all launches if the condition does. -/
theorem forall₂_launches_iff {P : BoundsLaunch → UserGeom → Prop} {Q : UserGeom → Prop}
    (h : launchBounds buffer padding d_bounds geoms = some launches)
    (hlaunch : ∀ d, ∀ g ∈ geoms,
      P (boundsLaunch buffer padding d g (Compute.create g.type.dataSize)) g ↔ Q g) :
    List.Forall₂ P launches geoms ↔ ∀ g ∈ geoms, Q g := by
  induction geoms generalizing d_bounds launches with
  | nil =>
    obtain rfl := Option.some.inj h
    simp
  | cons g geoms ih =>
    obtain ⟨kernel, launches', hkernel, hlaunches', rfl⟩ := launchBounds_cons_eq_some.mp h
    obtain rfl := g.type.boundsKernel_eq kernel hkernel
    rw [List.forall₂_cons, List.forall_mem_cons, hlaunch d_bounds g List.mem_cons_self,
      ih hlaunches' fun d g' hg' => hlaunch d g' (List.mem_cons_of_mem g hg')]

/-- **The kernels write the boxes where Vulkan reads them.** -/
theorem map_primBounds (h : launchBounds buffer padding d_bounds geoms = some launches) :
    launches.map (·.kernelData.primBounds) =
      (aabbsInputs d_bounds geoms).map (·.data.deviceAddress) := by
  induction geoms generalizing d_bounds launches with
  | nil =>
    obtain rfl := Option.some.inj h
    rfl
  | cons g geoms ih =>
    obtain ⟨kernel, launches', -, hlaunches', rfl⟩ := launchBounds_cons_eq_some.mp h
    rw [List.map_cons, ih hlaunches']
    rfl

/-- The running pointer, as long as it stays below `2 ^ 64`. -/
theorem toNat_nextBounds {g : UserGeom} (hg : 0 ≤ g.primCount.toInt)
    (hfits : d_bounds.toNat + 24 * g.numPrims < 2 ^ 64) :
    (nextBounds d_bounds g.primCount).toNat = d_bounds.toNat + 24 * g.numPrims := by
  have hboxes : (sizeOfInt g.primCount.toInt * sizeOfBox3).toNat = 24 * g.numPrims := by
    have hbox : sizeOfBox3.toNat = 24 := rfl
    rw [toNat_mul_of_lt, toNat_sizeOfInt_primCount hg, hbox, Nat.mul_comm]
    rw [toNat_sizeOfInt_primCount hg, hbox]
    omega
  rw [nextBounds, toNat_add_of_lt, hboxes]
  rw [hboxes]
  exact hfits

/-! ## What a build does -/

variable {geomDataAlloc boundsAlloc : BufferAllocation} {b : UserGeomBuild}

theorem build_eq_some : build geomDataAlloc boundsAlloc padding geoms = some b ↔
    totalPrims geoms > 0 ∧
      DeviceBuffer.create geomDataAlloc (maxUserGeomSize geoms) = some b.geomDataBuffer ∧
      DeviceBuffer.create boundsAlloc (totalPrims geoms * sizeOfBox3) = some b.boundsBuffer ∧
      launchBounds b.geomDataBuffer padding b.boundsBuffer.deviceAddress geoms = some b.launches ∧
      b.inputs = aabbsInputs b.boundsBuffer.deviceAddress geoms := by
  obtain ⟨geomDataBuffer, boundsBuffer, launches, inputs⟩ := b
  simp only [build, Option.bind_eq_bind, Option.pure_def, Option.bind_eq_some_iff,
    Option.some.injEq, UserGeomBuild.mk.injEq, Option.guard_eq_some']
  constructor
  · rintro ⟨-, htotal, _, hgeomData, _, hbounds, _, hlaunches, rfl, rfl, rfl, rfl⟩
    exact ⟨htotal, hgeomData, hbounds, hlaunches, rfl⟩
  · rintro ⟨htotal, hgeomData, hbounds, hlaunches, rfl⟩
    exact ⟨(), htotal, _, hgeomData, _, hbounds, _, hlaunches, rfl, rfl, rfl, rfl⟩

/-- A build comes to its end if there is a box, the buffers are made and each type has a
kernel. -/
theorem isSome_build : (build geomDataAlloc boundsAlloc padding geoms).isSome ↔
    totalPrims geoms > 0 ∧ (geomDataAlloc.address (maxUserGeomSize geoms)).isSome ∧
      (boundsAlloc.address (totalPrims geoms * sizeOfBox3)).isSome ∧
      ∀ g ∈ geoms, g.type.boundsKernel.isSome := by
  constructor
  · intro h
    obtain ⟨b, hb⟩ := Option.isSome_iff_exists.mp h
    obtain ⟨htotal, hgeomData, hbounds, hlaunches, -⟩ := build_eq_some.mp hb
    refine ⟨htotal, Option.isSome_iff_exists.mpr ⟨_, (DeviceBuffer.create_eq_some.mp hgeomData).2⟩,
      Option.isSome_iff_exists.mpr ⟨_, (DeviceBuffer.create_eq_some.mp hbounds).2⟩, ?_⟩
    exact isSome_launchBounds.mp (Option.isSome_iff_exists.mpr ⟨_, hlaunches⟩)
  · rintro ⟨htotal, hgeomData, hbounds, hkernels⟩
    obtain ⟨a, ha⟩ := Option.isSome_iff_exists.mp hgeomData
    obtain ⟨d, hd⟩ := Option.isSome_iff_exists.mp hbounds
    have hsome : (launchBounds ⟨a, maxUserGeomSize geoms⟩ padding d geoms).isSome :=
      isSome_launchBounds.mpr hkernels
    obtain ⟨launches, hlaunches⟩ := Option.isSome_iff_exists.mp hsome
    let b : UserGeomBuild := ⟨⟨a, maxUserGeomSize geoms⟩, ⟨d, totalPrims geoms * sizeOfBox3⟩,
      launches, aabbsInputs d geoms⟩
    have hb : build geomDataAlloc boundsAlloc padding geoms = some b := build_eq_some.mpr
      ⟨htotal, DeviceBuffer.create_eq_some.mpr ⟨rfl, ha⟩,
        DeviceBuffer.create_eq_some.mpr ⟨rfl, hd⟩, hlaunches, rfl⟩
    exact Option.isSome_iff_exists.mpr ⟨b, hb⟩

end UserGeomAccel

/-! ## Where the boxes are -/

/-- The range of the boxes of a geometry that the input says. -/
def AabbsInput.boxes (x : AabbsInput) (g : UserGeom) : Tiling.Span where
  first := x.data.deviceAddress.toNat
  length := 24 * g.numPrims

/-- The input has the boxes of the geometry, one after the other. -/
structure AabbsInput.Describes (x : AabbsInput) (g : UserGeom) : Prop where
  stride : x.data.stride = sizeOfBox3
  offset : x.range.primitiveOffset = 0
  primitiveCount : x.range.primitiveCount.toNat = g.numPrims
  primCount : x.primCount.toNat = g.numPrims

/-- The kernel gets the number of boxes of the geometry, and a grid with a block for each. -/
structure BoundsLaunch.Covers (launch : BoundsLaunch) (g : UserGeom) : Prop where
  primCount : launch.kernelData.primCount.toInt = g.numPrims
  grid : ∃ dims, launch.dims = some dims ∧ g.numPrims ≤ dims.x * dims.y

/-- The boxes are laid out consistently. -/
structure UserGeomBuild.BoundsConsistent (b : UserGeomBuild) (geoms : List UserGeom) : Prop where
  address : b.launches.map (·.kernelData.primBounds) = b.inputs.map (·.data.deviceAddress)
  launches : List.Forall₂ BoundsLaunch.Covers b.launches geoms
  inputs : List.Forall₂ AabbsInput.Describes b.inputs geoms
  tiles : Tiling.Tiles (List.zipWith AabbsInput.boxes b.inputs geoms)
    b.boundsBuffer.deviceAddress.toNat b.boundsBuffer.sizeInBytes.toNat

namespace UserGeomAccel

variable {buffer : DeviceBuffer} {padding : UInt32} {d_bounds : UInt64} {geoms : List UserGeom}
  {geomDataAlloc boundsAlloc : BufferAllocation} {b : UserGeomBuild}

theorem describes_aabbsInputs (h : ∀ g ∈ geoms, 0 ≤ g.primCount.toInt) :
    List.Forall₂ AabbsInput.Describes (aabbsInputs d_bounds geoms) geoms := by
  induction geoms generalizing d_bounds with
  | nil => exact .nil
  | cons g geoms ih =>
    obtain ⟨hg, hgeoms⟩ := List.forall_mem_cons.mp h
    have hcount : g.primCount.toUInt32.toNat = g.numPrims :=
      Int32.toNat_toUInt32_of_le (Int32.le_iff_toInt_le.mpr hg)
    exact .cons ⟨rfl, rfl, hcount, hcount⟩ (ih hgeoms)

/-- A launch covers its geometry exactly if the grid is computed without overflow. -/
theorem covers_boundsLaunch_iff {g : UserGeom} {k : Compute} (hg : 0 ≤ g.primCount.toInt) :
    (boundsLaunch buffer padding d_bounds g k).Covers g ↔ g.primCount.toInt + 1024 ≤ intMax := by
  have hcast : g.primCount.toInt = (g.numPrims : ℤ) := (Int.toNat_of_nonneg hg).symm
  have hgrid : ∀ dims, (boundsLaunch buffer padding d_bounds g k).dims = some dims ↔
      g.numPrims + 1024 ≤ intMax ∧ dims = ⟨1024, ((g.numPrims + 1024 - 1) / 1024 : ℕ), 1⟩ := by
    intro dims
    show (divRoundUpInt g.primCount.toInt 1024).map _ = _ ↔ _
    rw [hcast, Option.map_eq_some_iff]
    constructor
    · rintro ⟨y, hy, rfl⟩
      obtain ⟨hle, rfl⟩ := (divRoundUpInt_eq_some (b := 1024) (by decide)).mp hy
      exact ⟨hle, rfl⟩
    · rintro ⟨hle, rfl⟩
      exact ⟨_, (divRoundUpInt_eq_some (b := 1024) (by decide)).mpr ⟨hle, rfl⟩, rfl⟩
  constructor
  · rintro ⟨-, dims, hdims, -⟩
    have hle := ((hgrid dims).mp hdims).1
    omega
  · intro hle
    refine ⟨hcast, _, (hgrid _).mpr ⟨by omega, rfl⟩, ?_⟩
    have hround := (mul_ceilDiv_bounds (a := 1024) (b := g.numPrims) (by decide)).1
    dsimp only
    omega

theorem length_boxes (d_bounds : UInt64) (geoms : List UserGeom) :
    (List.zipWith AabbsInput.boxes (aabbsInputs d_bounds geoms) geoms).map Tiling.Span.length =
      geoms.map (24 * UserGeom.numPrims ·) := by
  induction geoms generalizing d_bounds with
  | nil => rfl
  | cons g geoms ih =>
    rw [List.map_cons, ← ih (nextBounds d_bounds g.primCount)]
    rfl

/-- The running pointer places the boxes one geometry after the other. -/
theorem boxes_eq_consecutive (h : ∀ g ∈ geoms, 0 ≤ g.primCount.toInt)
    (hfits : d_bounds.toNat + (geoms.map (24 * UserGeom.numPrims ·)).sum < 2 ^ 64) :
    List.zipWith AabbsInput.boxes (aabbsInputs d_bounds geoms) geoms =
      Tiling.consecutive d_bounds.toNat (geoms.map (24 * UserGeom.numPrims ·)) := by
  induction geoms generalizing d_bounds with
  | nil => rfl
  | cons g geoms ih =>
    obtain ⟨hg, hgeoms⟩ := List.forall_mem_cons.mp h
    rw [List.map_cons, List.sum_cons] at hfits
    have hnext : (nextBounds d_bounds g.primCount).toNat = _ := toNat_nextBounds hg (by omega)
    rw [List.map_cons, Tiling.consecutive, ← hnext, ← ih hgeoms (by rw [hnext]; omega)]
    rfl

/-- The grids are big enough exactly if they are computed without overflow. -/
theorem covers_launches_iff (hcount : ∀ g ∈ geoms, 0 ≤ g.primCount.toInt)
    (hbuild : build geomDataAlloc boundsAlloc padding geoms = some b) :
    List.Forall₂ BoundsLaunch.Covers b.launches geoms ↔
      ∀ g ∈ geoms, g.primCount.toInt + 1024 ≤ intMax := by
  obtain ⟨-, -, -, hlaunches, -⟩ := build_eq_some.mp hbuild
  exact forall₂_launches_iff hlaunches fun d g hg => covers_boundsLaunch_iff (hcount g hg)

/-- **The boxes are laid out consistently exactly if** no number of boxes is within 1024
of `INT_MAX` and the size of all boxes does not overflow. -/
theorem build_boundsConsistent_iff (hcount : ∀ g ∈ geoms, 0 ≤ g.primCount.toInt)
    (hbuild : build geomDataAlloc boundsAlloc padding geoms = some b) :
    b.BoundsConsistent geoms ↔
      (∀ g ∈ geoms, g.primCount.toInt + 1024 ≤ intMax) ∧
        24 * (geoms.map UserGeom.numPrims).sum < 2 ^ 64 := by
  obtain ⟨-, -, hbounds, hlaunches, hinputs⟩ := build_eq_some.mp hbuild
  obtain ⟨hsize, haddress⟩ := DeviceBuffer.create_eq_some.mp hbounds
  have hsum : (geoms.map (24 * UserGeom.numPrims ·)).sum =
      24 * (geoms.map UserGeom.numPrims).sum := List.sum_map_mul_left geoms _ 24
  have hsize : b.boundsBuffer.sizeInBytes.toNat =
      24 * (geoms.map UserGeom.numPrims).sum % 2 ^ 64 := by
    rw [hsize, toNat_totalPrims_mul hcount]
  constructor
  · intro h
    refine ⟨(covers_launches_iff hcount hbuild).mp h.launches, ?_⟩
    -- the boxes that tile the buffer have its size in all
    have hlengths := h.tiles.sum_lengths
    rw [hinputs, length_boxes, hsum, hsize] at hlengths
    rw [hlengths]
    exact Nat.mod_lt _ (by decide)
  · rintro ⟨hgrids, hfits⟩
    have hend := boundsAlloc.fits _ _ haddress
    rw [toNat_totalPrims_mul hcount, Nat.mod_eq_of_lt hfits, ← hsum] at hend
    refine ⟨?_, (covers_launches_iff hcount hbuild).mpr hgrids, ?_, ?_⟩
    · rw [hinputs]
      exact map_primBounds hlaunches
    · rw [hinputs]
      exact describes_aabbsInputs hcount
    · rw [hinputs, boxes_eq_consecutive hcount hend, hsize, Nat.mod_eq_of_lt hfits, ← hsum]
      exact Tiling.tiles_consecutive _ _

/-! ### Samples -/

/-- Every buffer that ends in time is at 4096. -/
def sampleAlloc : BufferAllocation where
  address size := if size = 0 ∨ 2 ^ 64 ≤ 4096 + size.toNat then none else some 4096
  zero := rfl
  fits := by
    intro size a ha
    split_ifs at ha with hsize
    obtain rfl := Option.some.inj ha
    rw [not_or, not_le] at hsize
    exact hsize.2

/-- A geometry with a kernel. -/
def sampleUserGeom (dataSize : UInt64) (primCount : Int32) : UserGeom :=
  vknGeomSetPrimCount (.create (UserGeomType.create dataSize).setBoundsProg) primCount

/-- Three geometries, one without boxes. -/
theorem build_boundsConsistent_iff_sample : ∃ b,
    build sampleAlloc sampleAlloc 0
        [sampleUserGeom 16 3, sampleUserGeom 16 0, sampleUserGeom 16 5] = some b ∧
      b.BoundsConsistent [sampleUserGeom 16 3, sampleUserGeom 16 0, sampleUserGeom 16 5] := by
  have hsome : (build sampleAlloc sampleAlloc 0
      [sampleUserGeom 16 3, sampleUserGeom 16 0, sampleUserGeom 16 5]).isSome := by decide
  obtain ⟨b, hb⟩ := Option.isSome_iff_exists.mp hsome
  exact ⟨b, hb, (build_boundsConsistent_iff (by decide) hb).mpr ⟨by decide, by decide⟩⟩

/-- With `INT_MAX` boxes the grid overflows. -/
theorem not_boundsConsistent_intMax :
    ¬ ∀ (geomDataAlloc boundsAlloc : BufferAllocation) (padding : UInt32) (geoms : List UserGeom)
      (b : UserGeomBuild), (∀ g ∈ geoms, 0 ≤ g.primCount.toInt) →
      build geomDataAlloc boundsAlloc padding geoms = some b → b.BoundsConsistent geoms := by
  intro hall
  have hsome : (build sampleAlloc sampleAlloc 0 [sampleUserGeom 16 2147483647]).isSome := by decide
  obtain ⟨b, hb⟩ := Option.isSome_iff_exists.mp hsome
  have hconsistent := hall _ _ _ _ b (by decide) hb
  have hgrid := (covers_launches_iff (by decide) hb).mp hconsistent.launches _ List.mem_cons_self
  exact absurd hgrid (by decide)

/-! ## What is uploaded -/

end UserGeomAccel

/-- The upload reads data of the geometry only, and the kernel finds all of it at the
beginning of the buffer. -/
def BoundsLaunch.UploadsData (launch : BoundsLaunch) (g : UserGeom) : Prop :=
  ∃ bs, launch.geomData = some bs ∧ bs.take g.type.dataSize.toNat = g.data

namespace UserGeomAccel

variable {buffer : DeviceBuffer} {padding : UInt32} {d_bounds : UInt64} {geoms : List UserGeom}
  {geomDataAlloc boundsAlloc : BufferAllocation} {b : UserGeomBuild}

/-- An upload copies what the buffer holds, which is the data exactly if the sizes agree. -/
theorem uploadsData_boundsLaunch_iff {g : UserGeom} {k : Compute} :
    (boundsLaunch buffer padding d_bounds g k).UploadsData g ↔
      buffer.sizeInBytes = g.type.dataSize := by
  have hread : ∀ bs, (boundsLaunch buffer padding d_bounds g k).geomData = some bs ↔
      buffer.sizeInBytes.toNat ≤ g.type.dataSize.toNat ∧
        g.data.take buffer.sizeInBytes.toNat = bs := by
    intro bs
    show ByteMemory.read g.data 0 buffer.sizeInBytes.toNat = some bs ↔ _
    rw [ByteMemory.read_zero_eq_some, g.length_data]
  rw [← UInt64.toNat_inj]
  constructor
  · rintro ⟨bs, hbs, htake⟩
    obtain ⟨hle, rfl⟩ := (hread bs).mp hbs
    rw [List.take_take, List.take_eq_self_iff, g.length_data] at htake
    omega
  · intro hsize
    refine ⟨g.data, (hread _).mpr ⟨hsize.le, ?_⟩, ?_⟩
    · rw [List.take_eq_self_iff, g.length_data, hsize]
    · rw [List.take_eq_self_iff, g.length_data]

theorem uploads_launches_iff (hbuild : build geomDataAlloc boundsAlloc padding geoms = some b) :
    List.Forall₂ BoundsLaunch.UploadsData b.launches geoms ↔
      ∀ g ∈ geoms, maxUserGeomSize geoms = g.type.dataSize := by
  obtain ⟨-, hgeomData, -, hlaunches, -⟩ := build_eq_some.mp hbuild
  have hsize := (DeviceBuffer.create_eq_some.mp hgeomData).1
  exact forall₂_launches_iff hlaunches fun d g _ => by rw [uploadsData_boundsLaunch_iff, hsize]

/-- **The uploads read the data of their geometries exactly if** all have the same size. -/
theorem build_uploads_iff (hbuild : build geomDataAlloc boundsAlloc padding geoms = some b) :
    List.Forall₂ BoundsLaunch.UploadsData b.launches geoms ↔
      ∀ g ∈ geoms, ∀ g' ∈ geoms, g.type.dataSize = g'.type.dataSize := by
  rw [uploads_launches_iff hbuild]
  constructor
  · intro h g hg g' hg'
    exact (h g hg).symm.trans (h g' hg')
  · intro h g hg
    refine UInt64.toNat_inj.mp (Nat.le_antisymm (maxUserGeomSize_le_iff.mpr fun g' hg' => ?_) ?_)
    · rw [h g' hg' g hg]
    · exact maxUserGeomSize_le_iff.mp le_rfl g hg

/-- Two geometries of one size. -/
theorem build_uploads_iff_sample : ∃ b,
    build sampleAlloc sampleAlloc 0 [sampleUserGeom 16 3, sampleUserGeom 16 5] = some b ∧
      List.Forall₂ BoundsLaunch.UploadsData b.launches
        [sampleUserGeom 16 3, sampleUserGeom 16 5] := by
  have hsome : (build sampleAlloc sampleAlloc 0
      [sampleUserGeom 16 3, sampleUserGeom 16 5]).isSome := by decide
  obtain ⟨b, hb⟩ := Option.isSome_iff_exists.mp hsome
  exact ⟨b, hb, (build_uploads_iff hb).mpr (by decide)⟩

/-- The smaller of two geometries is read past its end. -/
theorem upload_reads_past_data :
    ¬ ∀ (geomDataAlloc boundsAlloc : BufferAllocation) (padding : UInt32) (geoms : List UserGeom)
      (b : UserGeomBuild), build geomDataAlloc boundsAlloc padding geoms = some b →
      List.Forall₂ BoundsLaunch.UploadsData b.launches geoms := by
  intro hall
  have hsome : (build sampleAlloc sampleAlloc 0
      [sampleUserGeom 4 3, sampleUserGeom 16 5]).isSome := by decide
  obtain ⟨b, hb⟩ := Option.isSome_iff_exists.mp hsome
  have hsize := (uploads_launches_iff hb).mp (hall _ _ _ _ b hb) _ List.mem_cons_self
  exact absurd hsize (by decide)

/-! ## What is pushed -/

end UserGeomAccel

/-- The whole record is pushed, and nothing else, inside the range of the layout. -/
structure BoundsLaunch.PushesArguments (launch : BoundsLaunch) (g : UserGeom) : Prop where
  primCount : launch.kernelData.primCount = g.primCount
  pushed : launch.pushConstants.pushed = some launch.kernelData.bytes
  inRange : launch.pushConstants.InRange

namespace UserGeomAccel

variable {buffer : DeviceBuffer} {padding : UInt32} {d_bounds : UInt64} {geoms : List UserGeom}
  {geomDataAlloc boundsAlloc : BufferAllocation} {b : UserGeomBuild}

/-- The kernel pushes as many bytes as the data of the type has, or 4. -/
theorem pushesArguments_boundsLaunch_iff {g : UserGeom} :
    (boundsLaunch buffer padding d_bounds g (Compute.create g.type.dataSize)).PushesArguments g ↔
      g.type.dataSize.toNat % 2 ^ 32 = 24 := by
  set launch := boundsLaunch buffer padding d_bounds g (Compute.create g.type.dataSize) with hlaunch
  have hsize : launch.pushConstants.size.toNat =
      if g.type.dataSize.toNat = 0 then 4 else g.type.dataSize.toNat % 2 ^ 32 :=
    Compute.toNat_size_pushConstants _ _
  have hpushed : launch.pushConstants.pushed = some launch.kernelData.bytes ↔
      launch.pushConstants.size.toNat = 24 := PushConstants.pushed_eq_values
  have hiff : launch.pushConstants.size.toNat = 24 ↔ g.type.dataSize.toNat % 2 ^ 32 = 24 := by
    rw [hsize]
    split_ifs with hzero
    · simp [hzero]
    · rfl
  constructor
  · intro h
    exact hiff.mp (hpushed.mp h.pushed)
  · intro h
    exact ⟨rfl, hpushed.mpr (hiff.mpr h), Compute.inRange _ _⟩

/-- **The kernels get their arguments exactly if** the data of each type has the size of the
arguments. -/
theorem build_pushes_iff (hbuild : build geomDataAlloc boundsAlloc padding geoms = some b) :
    List.Forall₂ BoundsLaunch.PushesArguments b.launches geoms ↔
      ∀ g ∈ geoms, g.type.dataSize.toNat % 2 ^ 32 = 24 := by
  obtain ⟨-, -, -, hlaunches, -⟩ := build_eq_some.mp hbuild
  exact forall₂_launches_iff hlaunches fun d g _ => pushesArguments_boundsLaunch_iff

/-- Two geometries with 24 bytes of data. -/
theorem build_pushes_iff_sample : ∃ b,
    build sampleAlloc sampleAlloc 0 [sampleUserGeom 24 3, sampleUserGeom 24 5] = some b ∧
      List.Forall₂ BoundsLaunch.PushesArguments b.launches
        [sampleUserGeom 24 3, sampleUserGeom 24 5] := by
  have hsome : (build sampleAlloc sampleAlloc 0
      [sampleUserGeom 24 3, sampleUserGeom 24 5]).isSome := by decide
  obtain ⟨b, hb⟩ := Option.isSome_iff_exists.mp hsome
  exact ⟨b, hb, (build_pushes_iff hb).mpr (by decide)⟩

/-- With 16 bytes of data the kernel does not get the number of boxes. -/
theorem bounds_kernel_without_primCount :
    ¬ ∀ (geomDataAlloc boundsAlloc : BufferAllocation) (padding : UInt32) (geoms : List UserGeom)
      (b : UserGeomBuild), build geomDataAlloc boundsAlloc padding geoms = some b →
      List.Forall₂ BoundsLaunch.PushesArguments b.launches geoms := by
  intro hall
  have hsome : (build sampleAlloc sampleAlloc 0 [sampleUserGeom 16 3]).isSome := by decide
  obtain ⟨b, hb⟩ := Option.isSome_iff_exists.mp hsome
  have hlaunches := (build_eq_some.mp hb).2.2.2.1
  have hsize := (forall₂_launches_iff hlaunches fun d g _ =>
    pushesArguments_boundsLaunch_iff).mp (hall _ _ _ _ b hb) _ List.mem_cons_self
  exact absurd hsize (by decide)

end UserGeomAccel

end Vulkanite
