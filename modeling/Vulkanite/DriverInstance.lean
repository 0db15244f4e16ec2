/-
# Selecting the devices of a driver instance

`vknInitialize` makes a `DriverInstance`, whose constructor asks the Vulkan driver for
its physical devices (`PhysicalDevice.cpp`), keeps those that can do ray tracing and
have a requested type, and makes a logical device of each (`DriverInstance.cpp`).  An
exception on the way becomes a null handle.

The driver reports the same devices on both calls, and logical devices can be made.
`Documented` is what `vulkanite.h` says about the result.
-/
import Mathlib.Tactic

namespace Vulkanite

/-! ## Physical devices -/

/-- `VkPhysicalDeviceType`; the switch in `PhysicalDevice::PhysicalDevice` maps it one to
one to `PhysicalDevice::Type`. -/
inductive PhysicalDeviceType where
  | Other
  | IntegratedGPU
  | DiscreteGPU
  | VirtualGPU
  | CPU
  deriving DecidableEq, Repr

/-- What the driver reports about a `VkPhysicalDevice`. -/
structure VkPhysicalDevice where
  deviceName : String
  deviceType : PhysicalDeviceType
  extensions : List String
  deriving DecidableEq, Repr

/-- The Vulkan driver: the devices it enumerates, as many as it can count in a
`uint32_t`. -/
structure VkDriver where
  physicalHandles : List VkPhysicalDevice
  numGPUs_lt : physicalHandles.length < 2 ^ 32

/-- `PhysicalDevice`. -/
structure PhysicalDevice where
  vulkanGpuID : ℕ
  name : String
  type : PhysicalDeviceType
  extensions : List String
  deriving DecidableEq, Repr

namespace PhysicalDevice

/-- `PhysicalDevice::PhysicalDevice`. -/
def new (vulkanGpuID : ℕ) (handle : VkPhysicalDevice) : PhysicalDevice where
  vulkanGpuID
  name := handle.deviceName
  type := handle.deviceType
  extensions := handle.extensions

/-- `PhysicalDevice::hasExtensions`. -/
def hasExtensions (d : PhysicalDevice) (listOfExtensions : List String) : Bool :=
  listOfExtensions.all fun ext => d.extensions.contains ext

/-- The extensions of `PhysicalDevice::canDoRayTracing`. -/
def rtExtensions : List String :=
  ["VK_EXT_scalar_block_layout",
   "VK_KHR_pipeline_library",
   "VK_KHR_acceleration_structure",
   "VK_KHR_ray_tracing_pipeline",
   "VK_KHR_buffer_device_address",
   "VK_KHR_deferred_host_operations",
   "VK_EXT_descriptor_indexing",
   "VK_KHR_shader_non_semantic_info",
   "VK_KHR_spirv_1_4",
   "VK_KHR_vulkan_memory_model",
   "VK_KHR_shader_float_controls"]

/-- `PhysicalDevice::canDoRayTracing`. -/
def canDoRayTracing (d : PhysicalDevice) : Bool := d.hasExtensions rtExtensions

end PhysicalDevice

/-- The devices the driver enumerates, as `findDevices` numbers them. -/
def VkDriver.enumerated (driver : VkDriver) : List PhysicalDevice :=
  driver.physicalHandles.mapIdx PhysicalDevice.new

/-! ## Driver instances -/

/-- `LogicalDevice`. -/
structure LogicalDevice where
  physicalDevice : PhysicalDevice
  deriving DecidableEq, Repr

/-- `DriverInstance`. -/
structure DriverInstance where
  devices : List LogicalDevice
  deriving DecidableEq, Repr

def VKN_DEVICE_TYPE_DISCRETE : UInt32 := 0b001
def VKN_DEVICE_TYPE_INTEGRATED : UInt32 := 0b010
def VKN_DEVICE_TYPE_VIRTUAL : UInt32 := 0b100
def VKN_DEVICE_TYPE_DEFAULT : UInt32 := VKN_DEVICE_TYPE_DISCRETE ||| VKN_DEVICE_TYPE_INTEGRATED

/-- One of the three loops of `findDevices`: the devices of a type, if it is requested. -/
def matchingOf (deviceType bit : UInt32) (type : PhysicalDeviceType)
    (physicalDevices : List PhysicalDevice) : List PhysicalDevice :=
  if deviceType &&& bit ≠ 0 then physicalDevices.filter fun dev => dev.type = type else []

/-- The vector `matching` of `findDevices`. -/
def matching (driver : VkDriver) (deviceType : UInt32) : List PhysicalDevice :=
  let physicalDevices := driver.enumerated.filter fun pd => pd.canDoRayTracing
  matchingOf deviceType VKN_DEVICE_TYPE_DISCRETE .DiscreteGPU physicalDevices ++
    matchingOf deviceType VKN_DEVICE_TYPE_INTEGRATED .IntegratedGPU physicalDevices ++
    matchingOf deviceType VKN_DEVICE_TYPE_VIRTUAL .VirtualGPU physicalDevices

/-- `DriverInstance::findDevices`. -/
def findDevices (driver : VkDriver) (deviceType : UInt32) :
    Except String (List PhysicalDevice) :=
  if driver.physicalHandles.length = 0 then .error "could not find _any_ vulkan GPUs!?"
  else .ok (matching driver deviceType)

/-- `DriverInstance::DriverInstance`. -/
def DriverInstance.new (driver : VkDriver) (deviceType : UInt32) :
    Except String DriverInstance :=
  (findDevices driver deviceType).map fun physicalDevices =>
    { devices := physicalDevices.map LogicalDevice.mk }

/-- `vknInitialize`; the exception handler returns a null handle. -/
def vknInitialize (driver : VkDriver) (requestedTypes : UInt32) : Option DriverInstance :=
  (DriverInstance.new driver requestedTypes).toOption

/-- `vknDeviceCount`. -/
def vknDeviceCount (driverInstance : DriverInstance) : UInt32 :=
  UInt32.ofNat driverInstance.devices.length

/-- `vknDeviceGet`; an ID out of range fails the assertion. -/
def vknDeviceGet (driverInstance : DriverInstance) (deviceID : UInt32) : Option LogicalDevice :=
  driverInstance.devices[deviceID.toNat]?

/-! ## What the documentation says -/

/-- The bit of a mask that requests the type. -/
def PhysicalDeviceType.bit : PhysicalDeviceType → UInt32
  | DiscreteGPU => VKN_DEVICE_TYPE_DISCRETE
  | IntegratedGPU => VKN_DEVICE_TYPE_INTEGRATED
  | VirtualGPU => VKN_DEVICE_TYPE_VIRTUAL
  | _ => 0

/-- Discrete devices come first, then integrated ones, then virtual ones. -/
def PhysicalDeviceType.rank : PhysicalDeviceType → ℕ
  | DiscreteGPU => 0
  | IntegratedGPU => 1
  | VirtualGPU => 2
  | _ => 3

/-- The device can do ray tracing and has a requested type. -/
def Matching (mask : UInt32) (d : PhysicalDevice) : Prop :=
  d.canDoRayTracing = true ∧ mask &&& d.type.bit ≠ 0

instance (mask : UInt32) : DecidablePred (Matching mask) := fun _ => instDecidableAnd

/-- The order of the devices: by type, and as enumerated within a type. -/
def Before (d d' : PhysicalDevice) : Prop :=
  d.type.rank < d'.type.rank ∨ d.type.rank = d'.type.rank ∧ d.vulkanGpuID < d'.vulkanGpuID

/-- The devices of the instance are the matching ones, each once and in order, and
`vknDeviceGet` ranges over them. -/
structure ListsMatching (driver : VkDriver) (mask : UInt32) (di : DriverInstance) : Prop where
  mem_iff : ∀ d, LogicalDevice.mk d ∈ di.devices ↔ d ∈ driver.enumerated ∧ Matching mask d
  nodup : di.devices.Nodup
  ordered : di.devices.Pairwise fun l l' => Before l.physicalDevice l'.physicalDevice
  count : (vknDeviceCount di).toNat = di.devices.length
  get_mem : ∀ i, i < vknDeviceCount di → ∃ l ∈ di.devices, vknDeviceGet di i = some l
  exists_get : ∀ l ∈ di.devices, ∃ i, i < vknDeviceCount di ∧ vknDeviceGet di i = some l

/-- `vknInitialize` returns null if no device matches, and else the matching ones. -/
def Documented (driver : VkDriver) (mask : UInt32) : Prop :=
  ((∀ d ∈ driver.enumerated, ¬ Matching mask d) → vknInitialize driver mask = none) ∧
    ((∃ d ∈ driver.enumerated, Matching mask d) →
      ∃ di, vknInitialize driver mask = some di ∧ ListsMatching driver mask di)

/-! ## The matching devices -/

theorem mem_matchingOf {mask bit : UInt32} {type : PhysicalDeviceType}
    {ds : List PhysicalDevice} {d : PhysicalDevice} :
    d ∈ matchingOf mask bit type ds ↔ mask &&& bit ≠ 0 ∧ d ∈ ds ∧ d.type = type := by
  unfold matchingOf
  split_ifs with h
  · simp [h]
  · simp [h]

/-- **The matching devices are on the list.** -/
theorem mem_matching {driver : VkDriver} {mask : UInt32} {d : PhysicalDevice} :
    d ∈ matching driver mask ↔ d ∈ driver.enumerated ∧ Matching mask d := by
  simp only [matching, List.mem_append, mem_matchingOf, List.mem_filter, Matching]
  -- one of the three lists is for the type of the device, or none
  cases htype : d.type with
  | DiscreteGPU =>
    simp only [PhysicalDeviceType.bit, reduceCtorEq, and_false, or_false, and_true]
    exact and_rotate
  | IntegratedGPU =>
    simp only [PhysicalDeviceType.bit, reduceCtorEq, and_false, or_false, false_or, and_true]
    exact and_rotate
  | VirtualGPU =>
    simp only [PhysicalDeviceType.bit, reduceCtorEq, and_false, false_or, and_true]
    exact and_rotate
  | Other => simp [PhysicalDeviceType.bit]
  | CPU => simp [PhysicalDeviceType.bit]

/-- The driver's devices are numbered as enumerated. -/
theorem enumerated_pairwise (driver : VkDriver) :
    driver.enumerated.Pairwise fun d d' => d.vulkanGpuID < d'.vulkanGpuID := by
  unfold VkDriver.enumerated
  rw [List.pairwise_iff_getElem]
  intro i j hi hj hij
  rw [List.getElem_mapIdx, List.getElem_mapIdx]
  exact hij

/-- Devices of one type keep the order of enumeration. -/
theorem matchingOf_pairwise (driver : VkDriver) (mask bit : UInt32) (type : PhysicalDeviceType) :
    (matchingOf mask bit type (driver.enumerated.filter fun pd => pd.canDoRayTracing)).Pairwise
      Before := by
  have hsub : (matchingOf mask bit type
      (driver.enumerated.filter fun pd => pd.canDoRayTracing)).Sublist driver.enumerated := by
    unfold matchingOf
    split_ifs with h
    · exact List.filter_sublist.trans List.filter_sublist
    · exact List.nil_sublist _
  refine ((enumerated_pairwise driver).sublist hsub).imp_of_mem ?_
  intro d d' hd hd' hlt
  rw [mem_matchingOf] at hd hd'
  exact Or.inr ⟨by rw [hd.2.2, hd'.2.2], hlt⟩

/-- Devices of one type come before those of the next. -/
theorem before_of_rank {mask bit bit' : UInt32} {type type' : PhysicalDeviceType}
    (hrank : type.rank < type'.rank) {ds : List PhysicalDevice} {d d' : PhysicalDevice}
    (hd : d ∈ matchingOf mask bit type ds) (hd' : d' ∈ matchingOf mask bit' type' ds) :
    Before d d' := by
  rw [mem_matchingOf] at hd hd'
  left
  rw [hd.2.2, hd'.2.2]
  exact hrank

/-- **The list is ordered** by type, and within a type as enumerated. -/
theorem matching_pairwise (driver : VkDriver) (mask : UInt32) :
    (matching driver mask).Pairwise Before := by
  unfold matching
  rw [List.pairwise_append, List.pairwise_append]
  refine ⟨⟨matchingOf_pairwise driver mask _ _, matchingOf_pairwise driver mask _ _, ?_⟩,
    matchingOf_pairwise driver mask _ _, ?_⟩
  · intro d hd d' hd'
    exact before_of_rank (by decide) hd hd'
  · intro d hd d' hd'
    rcases List.mem_append.mp hd with hd | hd
    · exact before_of_rank (by decide) hd hd'
    · exact before_of_rank (by decide) hd hd'

theorem Before.ne {d d' : PhysicalDevice} (h : Before d d') : d ≠ d' := by
  rintro rfl
  rcases h with h | ⟨-, h⟩
  · exact lt_irrefl _ h
  · exact lt_irrefl _ h

theorem matching_nodup (driver : VkDriver) (mask : UInt32) : (matching driver mask).Nodup :=
  (matching_pairwise driver mask).imp Before.ne

/-- As many devices as a `uint32_t` counts. -/
theorem length_matching_lt (driver : VkDriver) (mask : UInt32) :
    (matching driver mask).length < 2 ^ 32 := by
  have hsub : matching driver mask ⊆ driver.enumerated := fun d hd => (mem_matching.mp hd).1
  have hle := ((matching_nodup driver mask).subperm hsub).length_le
  have hlen : driver.enumerated.length = driver.physicalHandles.length := List.length_mapIdx
  have hlt := driver.numGPUs_lt
  omega

/-! ## `vknInitialize` -/

/-- Without any device an exception is thrown, and otherwise there is a handle. -/
theorem vknInitialize_eq (driver : VkDriver) (mask : UInt32) :
    vknInitialize driver mask = if driver.physicalHandles = [] then none
      else some ⟨(matching driver mask).map LogicalDevice.mk⟩ := by
  unfold vknInitialize DriverInstance.new findDevices
  simp only [List.length_eq_zero_iff]
  split_ifs with h
  · rfl
  · rfl

theorem listsMatching (driver : VkDriver) (mask : UInt32) :
    ListsMatching driver mask ⟨(matching driver mask).map LogicalDevice.mk⟩ := by
  have hinj : Function.Injective LogicalDevice.mk := fun d d' h => by
    rwa [LogicalDevice.mk.injEq] at h
  have hcount : (vknDeviceCount ⟨(matching driver mask).map LogicalDevice.mk⟩).toNat =
      ((matching driver mask).map LogicalDevice.mk).length := by
    have hlt := length_matching_lt driver mask
    show (UInt32.ofNat ((matching driver mask).map LogicalDevice.mk).length).toNat = _
    rw [UInt32.toNat_ofNat', Nat.mod_eq_of_lt]
    rwa [List.length_map]
  refine ⟨fun d => ?_, (matching_nodup driver mask).map hinj, ?_, hcount, fun i hi => ?_,
    fun l hl => ?_⟩
  · rw [← mem_matching]
    exact List.mem_map_of_injective hinj
  · exact List.pairwise_map.mpr (matching_pairwise driver mask)
  · have hlt : i.toNat < ((matching driver mask).map LogicalDevice.mk).length := by
      rw [← hcount]
      exact UInt32.lt_iff_toNat_lt.mp hi
    exact ⟨_, List.getElem_mem hlt, List.getElem?_eq_getElem hlt⟩
  · obtain ⟨i, hi, hget⟩ := List.getElem_of_mem hl
    have hlt : i < 2 ^ 32 := by
      have := length_matching_lt driver mask
      rw [List.length_map] at hi
      omega
    have hi' : (UInt32.ofNat i).toNat = i := by
      rw [UInt32.toNat_ofNat', Nat.mod_eq_of_lt hlt]
    refine ⟨UInt32.ofNat i, ?_, ?_⟩
    · rw [UInt32.lt_iff_toNat_lt, hi', hcount]
      exact hi
    · show ((matching driver mask).map LogicalDevice.mk)[(UInt32.ofNat i).toNat]? = some l
      rw [hi', List.getElem?_eq_getElem hi, hget]

/-- **When `vknInitialize` does what it promises**: exactly if the driver has no
device at all, or one that matches.  With devices none of which matches, it returns an
instance without devices, not null. -/
theorem documented_iff (driver : VkDriver) (mask : UInt32) :
    Documented driver mask ↔
      driver.physicalHandles = [] ∨ ∃ d ∈ driver.enumerated, Matching mask d := by
  unfold Documented
  rw [vknInitialize_eq]
  constructor
  · rintro ⟨hnull, -⟩
    by_contra hnot
    push Not at hnot
    have := hnull hnot.2
    rw [if_neg hnot.1] at this
    cases this
  · rintro (hnil | hex)
    · rw [if_pos hnil]
      refine ⟨fun _ => rfl, ?_⟩
      rintro ⟨d, hd, -⟩
      simp [VkDriver.enumerated, hnil] at hd
    · have hne : driver.physicalHandles ≠ [] := by
        rintro hnil
        obtain ⟨d, hd, -⟩ := hex
        simp [VkDriver.enumerated, hnil] at hd
      rw [if_neg hne]
      refine ⟨fun hnone => ?_, fun _ => ⟨_, rfl, listsMatching driver mask⟩⟩
      obtain ⟨d, hd, hmatch⟩ := hex
      exact absurd hmatch (hnone d hd)

/-- A machine whose only Vulkan device is a software renderer. -/
def softwareOnly : VkDriver where
  physicalHandles := [⟨"llvmpipe", .CPU, []⟩]
  numGPUs_lt := by decide

/-- No device matches, and there is a handle all the same. -/
theorem softwareOnly_not_documented :
    vknInitialize softwareOnly VKN_DEVICE_TYPE_DEFAULT = some ⟨[]⟩ ∧
      (∀ d ∈ softwareOnly.enumerated, ¬ Matching VKN_DEVICE_TYPE_DEFAULT d) ∧
      ¬ Documented softwareOnly VKN_DEVICE_TYPE_DEFAULT := by
  have hnone : ∀ d ∈ softwareOnly.enumerated, ¬ Matching VKN_DEVICE_TYPE_DEFAULT d := by
    decide
  refine ⟨by decide, hnone, ?_⟩
  rintro ⟨hnull, -⟩
  have := hnull hnone
  rw [vknInitialize_eq, if_neg (by decide)] at this
  cases this

end Vulkanite
