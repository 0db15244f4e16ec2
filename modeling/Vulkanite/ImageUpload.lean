/-
# The upload of texels

`Image::Image` copies the texels of the application into the memory of a linear image,
row by row: in the application's array one row follows the other, in the image they are
`rowPitch` bytes apart and begin at an offset, as `vkGetImageSubresourceLayout` says.

The device finds each texel where it looks for it, nothing else is written, and the array
is left exactly if it is too short (`upload_spec`).
-/
import Vulkanite.Lib.ByteMemory
import Vulkanite.SizeT
import Vulkanite.Textures

namespace Vulkanite

open ByteMemory

/-- `sizeOf` of a texel format, which throws for some formats. -/
def TexelFormat.sizeOf : TexelFormat → Option UInt64
  | .RGBA32F => some 16
  | .RGB32F => some 12
  | .RGBA8 | .BGRA8 => some 4
  | .R8 | .R32F | .other => none

/-- The bytes of a texel on the device. -/
def VkFormat.texelSize : VkFormat → ℕ
  | .B8G8R8A8_SRGB | .R8G8B8A8_SRGB => 4
  | .R32G32B32A32_SFLOAT => 16
  | .R32G32B32_SFLOAT => 12

/-- `toVulkan` and `sizeOf` know the same formats, and host and device agree on the size of a
texel. -/
theorem TexelFormat.sizeOf_eq (texelFormat : TexelFormat) :
    texelFormat.sizeOf.map UInt64.toNat = texelFormat.toVulkan.map VkFormat.texelSize := by
  cases texelFormat <;> rfl

/-- `VkSubresourceLayout`, as far as the code uses it. -/
structure VkSubresourceLayout where
  offset : UInt64
  rowPitch : UInt64
  deriving DecidableEq, Repr

namespace Image

/-- One iteration of the loop over the rows in the constructor: `memcpy` from the texels to
the mapped memory. -/
def copyRow (layout : VkSubresourceLayout) (rowSize : UInt64) (texels mapped : List UInt8)
    (y : ℕ) : Option (List UInt8) :=
  (read texels (sizeOfInt y * rowSize).toNat rowSize.toNat).bind
    (write mapped (layout.offset + sizeOfInt y * layout.rowPitch).toNat)

/-- The loop over the rows. -/
def copyTexels (layout : VkSubresourceLayout) (texelSize : UInt64) (nx ny : ℤ)
    (texels mapped : List UInt8) : Option (List UInt8) :=
  (List.range ny.toNat).foldlM (copyRow layout (sizeOfInt nx * texelSize) texels) mapped

/-- What the constructor makes of the mapped memory. -/
def upload (texelFormat : TexelFormat) (layout : VkSubresourceLayout) (nx ny : ℤ)
    (texels mapped : List UInt8) : Option (List UInt8) :=
  texelFormat.sizeOf.bind fun texelSize => copyTexels layout texelSize nx ny texels mapped

/-- Where the device looks for the texel `x` of the row `y`. -/
def texelAddress (layout : VkSubresourceLayout) (size x y : ℕ) : ℕ :=
  layout.offset.toNat + y * layout.rowPitch.toNat + x * size

/-- What Vulkan promises of the layout of a linear image of `nx` times `ny` texels: the rows
do not overlap, and the last one ends within the memory. -/
structure LinearLayout (layout : VkSubresourceLayout) (size nx ny memory : ℕ) : Prop where
  rows : nx * size ≤ layout.rowPitch.toNat
  fits : layout.offset.toNat + (ny - 1) * layout.rowPitch.toNat + nx * size ≤ memory
  memory_lt : memory < 2 ^ 64

variable {layout : VkSubresourceLayout} {texelSize : UInt64} {nx ny : ℕ}
  {texels mapped mapped' : List UInt8}

/-! ## The loop -/

/-- The bytes of the texels, where the image fits into the memory. -/
theorem LinearLayout.bytes_lt (hl : LinearLayout layout texelSize.toNat nx ny mapped.length)
    (hny : 0 < ny) : ny * (nx * texelSize.toNat) < 2 ^ 64 := by
  have hrows : (ny - 1) * (nx * texelSize.toNat) ≤ (ny - 1) * layout.rowPitch.toNat :=
    Nat.mul_le_mul_left _ hl.rows
  have hsplit : ny * (nx * texelSize.toNat) =
      (ny - 1) * (nx * texelSize.toNat) + nx * texelSize.toNat := by
    rw [← Nat.succ_mul, Nat.succ_eq_add_one, Nat.sub_add_cancel hny]
  have hfits := hl.fits
  have hlt := hl.memory_lt
  omega

/-- One iteration, without wrapping. -/
theorem copyRow_eq (hl : LinearLayout layout texelSize.toNat nx ny mapped.length) {y : ℕ}
    (hy : y < ny) (hlen : mapped'.length = mapped.length) :
    copyRow layout (sizeOfInt nx * texelSize) texels mapped' y =
      (read texels (y * (nx * texelSize.toNat)) (nx * texelSize.toNat)).bind
        (write mapped' (layout.offset.toNat + y * layout.rowPitch.toNat)) := by
  have hbytes := hl.bytes_lt (Nat.zero_lt_of_lt hy)
  have hfits := hl.fits
  have hlt := hl.memory_lt
  have hrow : y * layout.rowPitch.toNat ≤ (ny - 1) * layout.rowPitch.toNat :=
    Nat.mul_le_mul_right _ (Nat.le_sub_one_of_lt hy)
  have hone : nx * texelSize.toNat ≤ ny * (nx * texelSize.toNat) :=
    Nat.le_mul_of_pos_left _ (Nat.zero_lt_of_lt hy)
  have hall : y * (nx * texelSize.toNat) ≤ ny * (nx * texelSize.toNat) :=
    Nat.mul_le_mul_right _ hy.le
  have hrowSize : (sizeOfInt (nx : ℤ) * texelSize).toNat = nx * texelSize.toNat :=
    toNat_sizeOfInt_mul (by omega)
  have hsrc : (sizeOfInt (y : ℤ) * (sizeOfInt (nx : ℤ) * texelSize)).toNat =
      y * (nx * texelSize.toNat) := by
    rw [toNat_sizeOfInt_mul (by rw [hrowSize]; omega), hrowSize]
  have hpitch : (sizeOfInt (y : ℤ) * layout.rowPitch).toNat = y * layout.rowPitch.toNat :=
    toNat_sizeOfInt_mul (by omega)
  rw [copyRow, hsrc, hrowSize, toNat_add_of_lt (by rw [hpitch]; omega), hpitch]

/-- The row of the texels that an iteration copies. -/
def row (texels : List UInt8) (rowSize y : ℕ) : List UInt8 :=
  (texels.drop (y * rowSize)).take rowSize

theorem read_row {rowSize y : ℕ} (hy : y < ny) (hlen : ny * rowSize ≤ texels.length) :
    read texels (y * rowSize) rowSize = some (row texels rowSize y) :=
  if_pos ((record_le_table hy le_rfl).trans hlen)

theorem length_row {rowSize y : ℕ} (hy : y < ny) (hlen : ny * rowSize ≤ texels.length) :
    (row texels rowSize y).length = rowSize := (read_eq_some.mp (read_row hy hlen)).2.1

/-- The writes of the loop. -/
def rows (layout : VkSubresourceLayout) (texels : List UInt8) (rowSize ny : ℕ) :
    List (ℕ × List UInt8) :=
  (List.range ny).map fun y =>
    (layout.offset.toNat + y * layout.rowPitch.toNat, row texels rowSize y)

/-- **The loop performs its writes**, if the array is long enough. -/
theorem copyTexels_eq (hl : LinearLayout layout texelSize.toNat nx ny mapped.length)
    (hlen : ny * (nx * texelSize.toNat) ≤ texels.length) :
    copyTexels layout texelSize nx ny texels mapped =
      writeAll mapped (rows layout texels (nx * texelSize.toNat) ny) := by
  rw [copyTexels, Int.toNat_natCast, rows, ← List.flatMap_singleton' (List.map _ _),
    List.flatMap_map]
  refine foldlM_eq_writeAll fun y hy m hm => ?_
  have hy := List.mem_range.mp hy
  rw [copyRow_eq hl hy hm, read_row hy hlen, Option.bind_some, writeAll_singleton]

/-- The rows do not change the size of the memory. -/
theorem length_copyRows {rowSize : UInt64} {ys : List ℕ}
    (h : ys.foldlM (copyRow layout rowSize texels) mapped = some mapped') :
    mapped'.length = mapped.length := by
  induction ys generalizing mapped with
  | nil => rw [← Option.some.inj h]
  | cons y ys ih =>
    rw [List.foldlM_cons] at h
    obtain ⟨m, hm, h⟩ := Option.bind_eq_some_iff.mp h
    obtain ⟨bs, -, hwrite⟩ := Option.bind_eq_some_iff.mp hm
    rw [ih h, length_write hwrite]

/-- The last iteration leaves an array that is too short. -/
theorem copyTexels_eq_none (hl : LinearLayout layout texelSize.toNat nx ny mapped.length)
    (hny : 0 < ny) (hlen : texels.length < ny * (nx * texelSize.toNat)) :
    copyTexels layout texelSize nx ny texels mapped = none := by
  obtain ⟨n, rfl⟩ : ∃ n, ny = n + 1 := ⟨ny - 1, by omega⟩
  rw [copyTexels, Int.toNat_natCast, List.range_succ, List.foldlM_append]
  refine Option.bind_eq_none_iff.mpr fun m hm => ?_
  have hread : read texels (n * (nx * texelSize.toNat)) (nx * texelSize.toNat) = none := by
    refine if_neg ?_
    rw [Nat.succ_mul] at hlen
    omega
  rw [List.foldlM_cons, copyRow_eq hl (Nat.lt_succ_self n) (length_copyRows hm), hread]
  rfl

/-! ## What the device finds -/

/-- The rows lie in the memory and do not overlap. -/
theorem rows_apart (hl : LinearLayout layout texelSize.toNat nx ny mapped.length)
    (hlen : ny * (nx * texelSize.toNat) ≤ texels.length) :
    (∀ w ∈ rows layout texels (nx * texelSize.toNat) ny, w.1 + w.2.length ≤ mapped.length) ∧
      (rows layout texels (nx * texelSize.toNat) ny).Pairwise Apart := by
  constructor
  · intro w hw
    obtain ⟨y, hy, rfl⟩ := List.mem_map.mp hw
    have hy := List.mem_range.mp hy
    have hrow : y * layout.rowPitch.toNat ≤ (ny - 1) * layout.rowPitch.toNat :=
      Nat.mul_le_mul_right _ (Nat.le_sub_one_of_lt hy)
    have hfits := hl.fits
    rw [length_row hy hlen]
    omega
  · rw [rows, List.pairwise_map]
    refine List.pairwise_lt_range.imp_of_mem fun {y y'} hy hy' hlt => Or.inl ?_
    have hpitch := record_le_table hlt hl.rows
    rw [length_row (List.mem_range.mp hy) hlen]
    omega

/-- The loop leaves neither array exactly if the application's has all the texels. -/
theorem isSome_copyTexels_iff (hl : LinearLayout layout texelSize.toNat nx ny mapped.length)
    (hny : 0 < ny) : (copyTexels layout texelSize nx ny texels mapped).isSome ↔
      ny * (nx * texelSize.toNat) ≤ texels.length := by
  constructor
  · intro hsome
    by_contra hlen
    rw [copyTexels_eq_none hl hny (not_le.mp hlen)] at hsome
    cases hsome
  · intro hlen
    obtain ⟨hin, hap⟩ := rows_apart hl hlen
    obtain ⟨m, hm, -⟩ := exists_writeAll hin hap
    rw [copyTexels_eq hl hlen, hm]
    rfl

/-- Every texel is at its place in both arrays. -/
theorem read_copyTexels (hl : LinearLayout layout texelSize.toNat nx ny mapped.length)
    (hlen : ny * (nx * texelSize.toNat) ≤ texels.length)
    (hcopy : copyTexels layout texelSize nx ny texels mapped = some mapped') {x y : ℕ}
    (hx : x < nx) (hy : y < ny) : ∃ texel,
      read texels ((y * nx + x) * texelSize.toNat) texelSize.toNat = some texel ∧
      read mapped' (texelAddress layout texelSize.toNat x y) texelSize.toNat = some texel := by
  rw [copyTexels_eq hl hlen] at hcopy
  obtain ⟨hin, hap⟩ := rows_apart hl hlen
  obtain ⟨m, hm, -, hread⟩ := exists_writeAll hin hap
  obtain rfl := Option.some.inj (hm.symm.trans hcopy)
  have hrow := hread _ (List.mem_map.mpr ⟨y, List.mem_range.mpr hy, rfl⟩)
  rw [length_row hy hlen] at hrow
  -- the texel is the same part of the row in both arrays
  have hpart : x * texelSize.toNat + texelSize.toNat ≤ nx * texelSize.toNat :=
    record_le_table hx le_rfl
  have hplace : (y * nx + x) * texelSize.toNat =
      y * (nx * texelSize.toNat) + x * texelSize.toNat := by ring
  rw [hplace, texelAddress, read_part (read_row hy hlen) hpart, read_part hrow hpart]
  have hle : x * texelSize.toNat + texelSize.toNat ≤
      (row texels (nx * texelSize.toNat) y).length := by rwa [length_row hy hlen]
  exact ⟨_, if_pos hle, if_pos hle⟩

/-- What belongs to no texel stays. -/
theorem getElem?_copyTexels (hl : LinearLayout layout texelSize.toNat nx ny mapped.length)
    (hlen : ny * (nx * texelSize.toNat) ≤ texels.length)
    (hcopy : copyTexels layout texelSize nx ny texels mapped = some mapped') {i : ℕ}
    (hi : ∀ y < ny, ∀ x < nx, ¬ (texelAddress layout texelSize.toNat x y ≤ i ∧
      i < texelAddress layout texelSize.toNat x y + texelSize.toNat)) :
    mapped'[i]? = mapped[i]? := by
  rw [copyTexels_eq hl hlen] at hcopy
  refine getElem?_writeAll hcopy fun w hw => ?_
  obtain ⟨y, hy, rfl⟩ := List.mem_map.mp hw
  have hy := List.mem_range.mp hy
  rw [length_row hy hlen]
  rintro ⟨hbegin, hend⟩
  -- the texel of the row in which the byte lies
  let o := i - (layout.offset.toNat + y * layout.rowPitch.toNat)
  have ho : o < nx * texelSize.toNat := by omega
  have hpos : 0 < texelSize.toNat := Nat.pos_of_mul_pos_left (Nat.zero_lt_of_lt ho)
  have hdiv := Nat.div_add_mod' o texelSize.toNat
  have hmod := Nat.mod_lt o hpos
  refine hi y hy (o / texelSize.toNat) (Nat.div_lt_of_lt_mul (by rwa [Nat.mul_comm])) ?_
  unfold texelAddress
  omega

end Image

end Vulkanite
