/-
# Push constants

`vkCmdPushConstants` reads as many bytes as it is told from the pointer that it gets.
`Context::launch` and `Compute::launch` pass on the pointer of the application, or the
address of a variable of 4 bytes if that is null, and the size comes from elsewhere: for
the former it is the size given to `vknContextCreate`, but at least 4, for the latter the
size of the kernel, but 4 if that is 0.  The pipeline layouts declare 128 bytes and the
size of the kernel.

So a launch can read past the application's bytes, past the variable, or push more than
the layout declares; `launches_withinBounds_iff` says exactly when it does not.  A host
pointer is the bytes that can be read from it, and both `size` parameters of Vulkan are
`uint32_t`.
-/
import Vulkanite.Lib.ByteMemory
import Vulkanite.SizeT

namespace Vulkanite

/-- A call of `vkCmdPushConstants`: the size of the range that the pipeline layout declares,
the arguments, and the bytes that there are at `pValues`. -/
structure PushConstants where
  rangeSize : UInt32
  offset : UInt32 := 0
  size : UInt32
  values : List UInt8
  deriving DecidableEq, Repr

namespace PushConstants

/-- The bytes that are pushed; there are none if the call reads past the values. -/
def pushed (call : PushConstants) : Option (List UInt8) :=
  ByteMemory.read call.values 0 call.size.toNat

/-- The bytes that are pushed are inside the declared range. -/
def InRange (call : PushConstants) : Prop :=
  call.offset.toNat + call.size.toNat ≤ call.rangeSize.toNat

/-- The call reads inside the values and writes inside the range. -/
def WithinBounds (call : PushConstants) : Prop := call.pushed.isSome ∧ call.InRange

/-- What is pushed, if the bytes are there. -/
theorem pushed_eq_some {call : PushConstants} {bs : List UInt8} :
    call.pushed = some bs ↔ call.size.toNat ≤ call.values.length ∧
      call.values.take call.size.toNat = bs :=
  ByteMemory.read_zero_eq_some

/-- All values are pushed and nothing else is read exactly if the size is theirs. -/
theorem pushed_eq_values {call : PushConstants} :
    call.pushed = some call.values ↔ call.size.toNat = call.values.length := by
  rw [pushed_eq_some, List.take_eq_self_iff]
  omega

/-- The push stays within the bytes if there are enough of them. -/
theorem isSome_pushed {call : PushConstants} :
    call.pushed.isSome ↔ call.size.toNat ≤ call.values.length := by
  rw [Option.isSome_iff_exists]
  simp only [pushed_eq_some, exists_and_left, exists_eq', and_true]

end PushConstants

/-! ## Ray generation launches -/

/-- `Context::pushConstantsSize`, as the constructor sets it. -/
def pushConstantsSize (sizeOfPushConstants : UInt64) : UInt64 := max sizeOfPushConstants 4

/-- `RTPipeline::maxPushConstantSize`. -/
def maxPushConstantSize : ℤ := 128

/-- What `Context::launch` pushes, in a context that was created with the size. -/
def launchPushConstants (sizeOfPushConstants : UInt64) (pushConstantData : Option (List UInt8)) :
    PushConstants :=
  -- the `int` -1
  let dummyValue : List UInt8 := [255, 255, 255, 255]
  { rangeSize := uint32OfInt maxPushConstantSize
    size := uint32OfInt (intOfSize (pushConstantsSize sizeOfPushConstants))
    values := pushConstantData.getD dummyValue }

/-! ## Compute launches -/

/-- `Compute`, as far as its push constants go: its `size`, and the size of the range that
its pipeline layout declares. -/
structure Compute where
  size : UInt64
  pushConstantRangeSize : UInt32
  deriving DecidableEq, Repr

namespace Compute

/-- `Compute::Compute`, with what `buildPipeline` declares. -/
def create (size : UInt64) : Compute where
  size := size
  pushConstantRangeSize := (max 4 size).toUInt32

/-- What `Compute::launch` pushes. -/
def pushConstants (k : Compute) (pArgs : Option (List UInt8)) : PushConstants :=
  -- the `float` 0
  let dummy : List UInt8 := [0, 0, 0, 0]
  { rangeSize := k.pushConstantRangeSize
    size := (if k.size ≠ 0 then k.size else 4).toUInt32
    values := pArgs.getD dummy }

theorem toNat_size_pushConstants (size : UInt64) (pArgs : Option (List UInt8)) :
    ((create size).pushConstants pArgs).size.toNat =
      if size.toNat = 0 then 4 else size.toNat % 2 ^ 32 := by
  show (if size ≠ 0 then size else 4).toUInt32.toNat = _
  by_cases hzero : size = 0
  · rw [hzero]
    rfl
  · have hne : size.toNat ≠ 0 := fun h => hzero (UInt64.toNat_inj.mp h)
    rw [if_pos hzero, if_neg hne, UInt64.toNat_toUInt32]

/-- **A kernel pushes what its layout declares.** -/
theorem inRange (size : UInt64) (pArgs : Option (List UInt8)) :
    ((create size).pushConstants pArgs).InRange := by
  have hrange : ((create size).pushConstants pArgs).rangeSize.toNat =
      max 4 size.toNat % 2 ^ 32 := by
    simp only [pushConstants, create, UInt64.toNat_toUInt32, toNat_max]
    rfl
  show 0 + ((create size).pushConstants pArgs).size.toNat ≤ _
  rw [hrange, toNat_size_pushConstants]
  -- up to 4 bytes there is room for 4, and from then on the two sizes are the same
  split_ifs with hzero
  · rw [hzero]
    decide
  · rcases Nat.lt_or_ge size.toNat 4 with hlt | hge
    · rw [max_eq_left hlt.le]
      omega
    · rw [max_eq_right hge, Nat.zero_add]

end Compute

/-! ## When launches stay within bounds -/

/-- A launch does not read past its values: 4 bytes are enough if it has none, and
otherwise there are not fewer than 4.  It does not push more than the layout declares. -/
def LaunchFits (sizeOfPushConstants : UInt64) : Option (List UInt8) → Prop
  | none => sizeOfPushConstants.toNat % 2 ^ 32 ≤ 4
  | some _ => 4 ≤ sizeOfPushConstants.toNat ∧ sizeOfPushConstants.toNat % 2 ^ 32 ≤ 128

/-- The same for a kernel, whose layout declares enough. -/
def KernelFits (size : UInt64) : Option (List UInt8) → Prop
  | none => size.toNat % 2 ^ 32 ≤ 4
  | some _ => size ≠ 0

/-- When a launch reads within the constants of the application. -/
theorem launch_withinBounds_iff {size : UInt64} {pc : Option (List UInt8)}
    (hpc : ∀ bs ∈ pc, bs.length = size.toNat) :
    (launchPushConstants size pc).WithinBounds ↔ LaunchFits size pc := by
  have hsize : (launchPushConstants size pc).size.toNat = max size.toNat 4 % 2 ^ 32 := by
    rw [launchPushConstants, toNat_uint32OfInt_intOfSize, pushConstantsSize, toNat_max]
    rfl
  have hrange : (launchPushConstants size pc).InRange ↔ max size.toNat 4 % 2 ^ 32 ≤ 128 := by
    show 0 + _ ≤ 128 ↔ _
    rw [hsize, Nat.zero_add]
  rw [PushConstants.WithinBounds, PushConstants.isSome_pushed, hrange, hsize]
  cases pc with
  | none =>
    show max size.toNat 4 % 2 ^ 32 ≤ 4 ∧ _ ↔ size.toNat % 2 ^ 32 ≤ 4
    omega
  | some bs =>
    show max size.toNat 4 % 2 ^ 32 ≤ bs.length ∧ _ ↔ 4 ≤ size.toNat ∧ size.toNat % 2 ^ 32 ≤ 128
    rw [hpc bs rfl]
    omega

/-- When a kernel reads within the arguments of the application. -/
theorem kernel_withinBounds_iff {size : UInt64} {args : Option (List UInt8)}
    (hargs : ∀ bs ∈ args, bs.length = size.toNat) :
    ((Compute.create size).pushConstants args).WithinBounds ↔ KernelFits size args := by
  rw [PushConstants.WithinBounds, and_iff_left (Compute.inRange size args),
    PushConstants.isSome_pushed, Compute.toNat_size_pushConstants]
  cases args with
  | none =>
    show _ ≤ 4 ↔ size.toNat % 2 ^ 32 ≤ 4
    split_ifs with hzero
    · simp [hzero]
    · rfl
  | some bs =>
    show _ ≤ bs.length ↔ size ≠ 0
    rw [hargs bs rfl, ne_eq, ← UInt64.toNat_inj, UInt64.toNat_zero]
    split_ifs with hzero
    · simp [hzero]
    · simp only [hzero, not_false_eq_true, iff_true]
      exact Nat.mod_le _ _

/-- **Launches stay within bounds exactly if** the sizes fit.  A pointer of the application
is null or leads to as many bytes as the context or the kernel was created with. -/
theorem launches_withinBounds_iff (sizeOfPushConstants sizeOfData : UInt64)
    (pcDataPtr kernelData : Option (List UInt8))
    (hpc : ∀ bs ∈ pcDataPtr, bs.length = sizeOfPushConstants.toNat)
    (hdata : ∀ bs ∈ kernelData, bs.length = sizeOfData.toNat) :
    ((launchPushConstants sizeOfPushConstants pcDataPtr).WithinBounds ↔
        LaunchFits sizeOfPushConstants pcDataPtr) ∧
      (((Compute.create sizeOfData).pushConstants kernelData).WithinBounds ↔
        KernelFits sizeOfData kernelData) :=
  ⟨launch_withinBounds_iff hpc, kernel_withinBounds_iff hdata⟩

/-- A context for 48 bytes of push constants, and a kernel without arguments. -/
theorem launches_withinBounds_iff_sample :
    (launchPushConstants 48 (some (List.replicate 48 0))).WithinBounds ∧
      ((Compute.create 0).pushConstants none).WithinBounds := by
  obtain ⟨hlaunch, hkernel⟩ := launches_withinBounds_iff 48 0 (some (List.replicate 48 0)) none
    (by rintro bs ⟨⟩; rfl) (by rintro bs ⟨⟩)
  exact ⟨hlaunch.mpr ⟨by decide, by decide⟩, hkernel.mpr (show 0 % 2 ^ 32 ≤ 4 by decide)⟩

/-- The `PushConstants` of the prime library have no members, so their size is 1: 4 bytes are
read from a variable of one. -/
theorem launch_reads_past_pcDataPtr : ¬ ∀ (sizeOfPushConstants sizeOfData : UInt64)
    (pcDataPtr kernelData : Option (List UInt8)),
    (∀ bs ∈ pcDataPtr, bs.length = sizeOfPushConstants.toNat) →
    (∀ bs ∈ kernelData, bs.length = sizeOfData.toNat) →
      (launchPushConstants sizeOfPushConstants pcDataPtr).WithinBounds ∧
        ((Compute.create sizeOfData).pushConstants kernelData).WithinBounds := by
  intro hall
  have hlaunch := (hall 1 0 (some [0]) none (by rintro bs ⟨⟩; rfl) (by rintro bs ⟨⟩)).1
  exact absurd hlaunch.1 (by decide)

end Vulkanite
