/-
# The memory of images

`PhysicalDevice::getMemoryType` looks for the first memory type that is in a mask and has
the flags that are asked for, and returns 0 if there is none.  Its caller,
`LogicalDevice::allocateMemory`, cannot tell that from the index of the first type, and
allocates from it.

So the memory that an image is mapped from and bound to is suitable exactly if there is a
suitable type (`allocatesSuitably_iff`).
-/
import Mathlib.Order.Bounds.Basic
import Mathlib.Tactic

namespace Vulkanite

/-! ## The model -/

/-- `VkMemoryType`; its heap is not used. -/
structure MemoryType where
  propertyFlags : UInt32
  deriving DecidableEq, Repr

/-- `VkPhysicalDeviceMemoryProperties`, of which only the first `memoryTypeCount` types are
listed.  There are at most `VK_MAX_MEMORY_TYPES`. -/
structure MemoryProperties where
  memoryTypes : List MemoryType
  count_le : memoryTypes.length ≤ 32

/-- `VkMemoryRequirements`, as far as it is used. -/
structure MemoryRequirements where
  size : UInt64
  memoryTypeBits : UInt32
  deriving DecidableEq, Repr

/-- `VkMemoryAllocateInfo`. -/
structure MemoryAllocateInfo where
  allocationSize : UInt64
  memoryTypeIndex : UInt32
  deriving DecidableEq, Repr

def VK_MEMORY_PROPERTY_DEVICE_LOCAL_BIT : UInt32 := 1

def VK_MEMORY_PROPERTY_HOST_VISIBLE_BIT : UInt32 := 2

/-- The loop of `getMemoryType`, from the type `i` on; `typeBits` is already shifted. -/
def getMemoryTypeFrom (properties : UInt32) : UInt32 → UInt32 → List MemoryType → UInt32
  | _, _, [] => 0
  | i, typeBits, memoryType :: memoryTypes =>
    if typeBits &&& 1 = 1 then
      if memoryType.propertyFlags &&& properties = properties then i
      else getMemoryTypeFrom properties (i + 1) (typeBits >>> 1) memoryTypes
    else getMemoryTypeFrom properties (i + 1) (typeBits >>> 1) memoryTypes

/-- `PhysicalDevice::getMemoryType`. -/
def MemoryProperties.getMemoryType (memoryProperties : MemoryProperties)
    (typeBits properties : UInt32) : UInt32 :=
  getMemoryTypeFrom properties 0 typeBits memoryProperties.memoryTypes

/-- The Vulkan calls that take memory.  Memory is what it was allocated with. -/
inductive MemoryCall where
  | vkAllocateMemory (info : MemoryAllocateInfo)
  | vkMapMemory (memory : MemoryAllocateInfo)
  | vkBindImageMemory (memory : MemoryAllocateInfo)
  deriving DecidableEq, Repr

/-- `LogicalDevice::allocateMemory`: its calls, and the memory, unless it raises an error
because Vulkan does not succeed. -/
def allocateMemory (memoryProperties : MemoryProperties) (succeeds : MemoryCall → Bool)
    (memReqs : MemoryRequirements) (memoryPropertyFlags : UInt32) :
    List MemoryCall × Option MemoryAllocateInfo :=
  let memAllocInfo : MemoryAllocateInfo :=
    { allocationSize := memReqs.size
      memoryTypeIndex :=
        memoryProperties.getMemoryType memReqs.memoryTypeBits memoryPropertyFlags }
  ([.vkAllocateMemory memAllocInfo],
    if succeeds (.vkAllocateMemory memAllocInfo) then some memAllocInfo else none)

/-- What `Image::Image` asks for. -/
def imageMemoryFlags : UInt32 :=
  VK_MEMORY_PROPERTY_DEVICE_LOCAL_BIT ||| VK_MEMORY_PROPERTY_HOST_VISIBLE_BIT

/-- What `Image::Image` does with memory, for an image with these requirements.  An error
ends it. -/
def imageMemoryCalls (memoryProperties : MemoryProperties) (succeeds : MemoryCall → Bool)
    (memReqs : MemoryRequirements) : List MemoryCall :=
  match allocateMemory memoryProperties succeeds memReqs imageMemoryFlags with
  | (calls, none) => calls
  | (calls, some imageMemory) =>
    if succeeds (.vkMapMemory imageMemory) then
      calls ++ [.vkMapMemory imageMemory, .vkBindImageMemory imageMemory]
    else calls ++ [.vkMapMemory imageMemory]

/-! ## Suitable types -/

/-- The type has all the flags. -/
def MemoryType.Includes (t : MemoryType) (properties : UInt32) : Prop :=
  ∀ k, properties.toNat.testBit k = true → t.propertyFlags.toNat.testBit k = true

/-- The type at an index is in the mask and has all the flags. -/
def SuitableIn (memoryTypes : List MemoryType) (typeBits properties : UInt32) (i : ℕ) : Prop :=
  ∃ t, memoryTypes[i]? = some t ∧ typeBits.toNat.testBit i = true ∧ t.Includes properties

/-- The memory type is suitable for memory with these requirements and flags. -/
def MemoryProperties.Suitable (memoryProperties : MemoryProperties) (memReqs : MemoryRequirements)
    (properties : UInt32) (i : ℕ) : Prop :=
  SuitableIn memoryProperties.memoryTypes memReqs.memoryTypeBits properties i

/-- The bit test of the source. -/
theorem and_one_eq_one_iff (typeBits : UInt32) :
    typeBits &&& 1 = 1 ↔ typeBits.toNat.testBit 0 = true := by
  rw [← UInt32.toNat_inj, UInt32.toNat_and, UInt32.toNat_one, Nat.and_one_is_mod,
    Nat.testBit_zero, decide_eq_true_iff]

/-- The comparison of flags of the source. -/
theorem and_eq_right_iff (t : MemoryType) (properties : UInt32) :
    t.propertyFlags &&& properties = properties ↔ t.Includes properties := by
  rw [← UInt32.toNat_inj, UInt32.toNat_and]
  constructor
  · intro h k hk
    rw [← h, Nat.testBit_and, Bool.and_eq_true] at hk
    exact hk.1
  · intro h
    apply Nat.eq_of_testBit_eq
    intro k
    rw [Nat.testBit_and, Bool.and_eq_right_iff_imp]
    exact h k

theorem testBit_shiftRight_one (typeBits : UInt32) (i : ℕ) :
    (typeBits >>> 1).toNat.testBit i = typeBits.toNat.testBit (i + 1) := by
  have hshift : (typeBits >>> 1).toNat = typeBits.toNat >>> 1 := by
    rw [UInt32.toNat_shiftRight]
    rfl
  rw [hshift, Nat.testBit_shiftRight, Nat.add_comm]

section Search

variable {t : MemoryType} {ts : List MemoryType} {typeBits properties : UInt32}

theorem suitableIn_cons_zero :
    SuitableIn (t :: ts) typeBits properties 0 ↔
      typeBits.toNat.testBit 0 = true ∧ t.Includes properties := by
  simp [SuitableIn]

theorem suitableIn_cons_succ {i : ℕ} :
    SuitableIn (t :: ts) typeBits properties (i + 1) ↔
      SuitableIn ts (typeBits >>> 1) properties i := by
  simp only [SuitableIn, List.getElem?_cons_succ, testBit_shiftRight_one]

/-- The search ends at a suitable type. -/
theorem getMemoryTypeFrom_of_suitable (h : SuitableIn (t :: ts) typeBits properties 0)
    (i : UInt32) : getMemoryTypeFrom properties i typeBits (t :: ts) = i := by
  obtain ⟨hbit, hflags⟩ := suitableIn_cons_zero.mp h
  rw [getMemoryTypeFrom, if_pos ((and_one_eq_one_iff typeBits).mpr hbit),
    if_pos ((and_eq_right_iff t properties).mpr hflags)]

/-- It goes on, with the mask shifted, after any other. -/
theorem getMemoryTypeFrom_of_not_suitable (h : ¬ SuitableIn (t :: ts) typeBits properties 0)
    (i : UInt32) : getMemoryTypeFrom properties i typeBits (t :: ts) =
      getMemoryTypeFrom properties (i + 1) (typeBits >>> 1) ts := by
  rw [suitableIn_cons_zero, ← and_one_eq_one_iff, ← and_eq_right_iff] at h
  rw [getMemoryTypeFrom]
  split_ifs with hbit hflags
  · exact absurd ⟨hbit, hflags⟩ h
  · rfl
  · rfl

/-- The search finds the first suitable type. -/
theorem getMemoryTypeFrom_of_isLeast {i : UInt32} {j : ℕ} (hi : i.toNat + ts.length < 2 ^ 32)
    (hj : IsLeast {j | SuitableIn ts typeBits properties j} j) :
    (getMemoryTypeFrom properties i typeBits ts).toNat = i.toNat + j := by
  induction ts generalizing i typeBits j with
  | nil =>
    obtain ⟨t, ht, -⟩ := hj.1
    cases ht
  | cons t ts ih =>
    by_cases hfirst : SuitableIn (t :: ts) typeBits properties 0
    · obtain rfl : j = 0 := Nat.le_zero.mp (hj.2 hfirst)
      rw [getMemoryTypeFrom_of_suitable hfirst, Nat.add_zero]
    · rw [List.length_cons] at hi
      have hnext : (i + 1).toNat = i.toNat + 1 := by
        rw [UInt32.toNat_add, UInt32.toNat_one]
        omega
      -- the least index is not 0, and its predecessor is the least one of the rest
      cases j with
      | zero => exact absurd hj.1 hfirst
      | succ j =>
        have hrest : IsLeast {j | SuitableIn ts (typeBits >>> 1) properties j} j := by
          refine ⟨suitableIn_cons_succ.mp hj.1, fun k hk => ?_⟩
          exact Nat.succ_le_succ_iff.mp (hj.2 (suitableIn_cons_succ.mpr hk))
        rw [getMemoryTypeFrom_of_not_suitable hfirst, ih (by omega) hrest, hnext]
        omega

/-- Without a suitable type the search returns 0. -/
theorem getMemoryTypeFrom_of_none {i : UInt32} (h : ∀ j, ¬ SuitableIn ts typeBits properties j) :
    getMemoryTypeFrom properties i typeBits ts = 0 := by
  induction ts generalizing i typeBits with
  | nil => rfl
  | cons t ts ih =>
    rw [getMemoryTypeFrom_of_not_suitable (h 0)]
    exact ih fun j hj => h (j + 1) (suitableIn_cons_succ.mpr hj)

end Search

/-! ## What is allocated -/

/-- Memory comes from the first suitable type, and if there is none an error is reported
before any is allocated. -/
structure AllocatesSuitably (memoryProperties : MemoryProperties) (memReqs : MemoryRequirements)
    (properties : UInt32) : Prop where
  least : ∀ i, IsLeast {i | memoryProperties.Suitable memReqs properties i} i →
    (memoryProperties.getMemoryType memReqs.memoryTypeBits properties).toNat = i
  none : (¬ ∃ i, memoryProperties.Suitable memReqs properties i) →
    ∀ succeeds, allocateMemory memoryProperties succeeds memReqs properties = ([], none)

/-- Images are mapped from and bound to memory of suitable types only. -/
def ImagesSuitable (memoryProperties : MemoryProperties) (memReqs : MemoryRequirements) : Prop :=
  ∀ succeeds memory,
    (.vkMapMemory memory ∈ imageMemoryCalls memoryProperties succeeds memReqs ∨
      .vkBindImageMemory memory ∈ imageMemoryCalls memoryProperties succeeds memReqs) →
    memoryProperties.Suitable memReqs imageMemoryFlags memory.memoryTypeIndex.toNat

section

variable {memoryProperties : MemoryProperties} {memReqs : MemoryRequirements} {properties : UInt32}

theorem getMemoryType_of_isLeast {i : ℕ}
    (hi : IsLeast {i | memoryProperties.Suitable memReqs properties i} i) :
    (memoryProperties.getMemoryType memReqs.memoryTypeBits properties).toNat = i := by
  have hcount := memoryProperties.count_le
  have hfrom := getMemoryTypeFrom_of_isLeast (i := 0) (by rw [UInt32.toNat_zero]; omega) hi
  rw [UInt32.toNat_zero, Nat.zero_add] at hfrom
  exact hfrom

/-- The type that is returned is suitable if there is one. -/
theorem suitable_getMemoryType (h : ∃ i, memoryProperties.Suitable memReqs properties i) :
    memoryProperties.Suitable memReqs properties
      (memoryProperties.getMemoryType memReqs.memoryTypeBits properties).toNat := by
  classical
  have hleast : IsLeast {i | memoryProperties.Suitable memReqs properties i} (Nat.find h) :=
    ⟨Nat.find_spec h, fun i hi => Nat.find_min' h hi⟩
  rw [getMemoryType_of_isLeast hleast]
  exact hleast.1

theorem allocates_iff : AllocatesSuitably memoryProperties memReqs properties ↔
    ∃ i, memoryProperties.Suitable memReqs properties i := by
  constructor
  · intro h
    by_contra hnone
    have hcalls := congrArg Prod.fst (h.none hnone fun _ => true)
    exact absurd hcalls (List.cons_ne_nil _ _)
  · intro h
    exact ⟨fun i hi => getMemoryType_of_isLeast hi, fun hnone => absurd h hnone⟩

/-- All memory that an image gets is of the type that was found. -/
theorem memoryTypeIndex_of_mem {succeeds : MemoryCall → Bool} {memory : MemoryAllocateInfo}
    (h : .vkMapMemory memory ∈ imageMemoryCalls memoryProperties succeeds memReqs ∨
      .vkBindImageMemory memory ∈ imageMemoryCalls memoryProperties succeeds memReqs) :
    memory.memoryTypeIndex =
      memoryProperties.getMemoryType memReqs.memoryTypeBits imageMemoryFlags := by
  set info : MemoryAllocateInfo := ⟨memReqs.size,
    memoryProperties.getMemoryType memReqs.memoryTypeBits imageMemoryFlags⟩ with hinfo
  have hcalls : imageMemoryCalls memoryProperties succeeds memReqs ⊆
      [.vkAllocateMemory info, .vkMapMemory info, .vkBindImageMemory info] := by
    simp only [imageMemoryCalls, allocateMemory, ← hinfo]
    cases succeeds (.vkAllocateMemory info) with
    | false => simp
    | true =>
      show (if succeeds (.vkMapMemory info) then [_, _, _] else [_, _]) ⊆ _
      split_ifs
      · exact List.Subset.refl _
      · simp
  have hmemory : memory = info := by
    rcases h with h | h
    · simpa using hcalls h
    · simpa using hcalls h
  rw [hmemory]

theorem images_iff : ImagesSuitable memoryProperties memReqs ↔
    ∃ i, memoryProperties.Suitable memReqs imageMemoryFlags i := by
  constructor
  · intro h
    -- when every call succeeds
    exact ⟨_, h (fun _ => true) _ (.inl (List.mem_cons_of_mem _ List.mem_cons_self))⟩
  · intro h succeeds memory hmemory
    rw [memoryTypeIndex_of_mem hmemory]
    exact suitable_getMemoryType h

/-- **Memory is allocated suitably, for images too, exactly if** there is a suitable type. -/
theorem allocatesSuitably_iff (memoryProperties : MemoryProperties)
    (memReqs : MemoryRequirements) (properties : UInt32) :
    (AllocatesSuitably memoryProperties memReqs properties ↔
        ∃ i, memoryProperties.Suitable memReqs properties i) ∧
      (ImagesSuitable memoryProperties memReqs ↔
        ∃ i, memoryProperties.Suitable memReqs imageMemoryFlags i) :=
  ⟨allocates_iff, images_iff⟩

/-- A device-local type, and a host-visible one. -/
def sampleMemoryProperties : MemoryProperties where
  memoryTypes := [⟨VK_MEMORY_PROPERTY_DEVICE_LOCAL_BIT⟩, ⟨VK_MEMORY_PROPERTY_HOST_VISIBLE_BIT⟩]
  count_le := by decide

/-- None of them is both, and the image goes to the first. -/
theorem image_unsuitable : ¬ ∀ (memoryProperties : MemoryProperties)
    (memReqs : MemoryRequirements) (properties : UInt32),
    AllocatesSuitably memoryProperties memReqs properties ∧
      ImagesSuitable memoryProperties memReqs := by
  intro hall
  have himages := (hall sampleMemoryProperties ⟨4096, 3⟩ imageMemoryFlags).2
  obtain ⟨t, ht, -, hflags⟩ := himages (fun _ => true) ⟨4096, 0⟩ (.inl (by decide))
  obtain rfl := Option.some.inj ht
  exact absurd (hflags 1 (by decide)) (by decide)

end

end Vulkanite
