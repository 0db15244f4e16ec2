/-
# Samplers, images and descriptor sets

The textures of a context: `Sampler` and `Image` objects, the two `DSHelper`s that
number them and write their descriptors into arrays, and the descriptor sets that
`Context::launch` and `Compute::launch` bind.

A Vulkan handle is the number of handles that were made before it, so it names the
object behind the handle; a driver that hands out the value of a destroyed handle
again makes a new object all the same.  A descriptor set layout is the descriptor
count of its one binding.  Calls into Vulkan succeed, as they do everywhere in this
development.
-/
import Vulkanite.Lib.SlotTable
import Vulkanite.Objects

namespace Vulkanite

/-! ## Samplers and images -/

/-- `VkImageLayout`, as far as the code uses it. -/
inductive ImageLayout where
  | UNDEFINED
  | GENERAL
  deriving DecidableEq, Repr

/-- `VkDescriptorImageInfo`. -/
structure DescriptorInfo where
  sampler : Option ℕ := none
  imageView : Option ℕ := none
  imageLayout : ImageLayout := .UNDEFINED
  deriving DecidableEq, Repr

/-- `VKNTexelFormat`; `other` is any value of the enumeration's type without a name. -/
inductive TexelFormat where
  | BGRA8
  | RGBA8
  | RGBA32F
  | RGB32F
  | R8
  | R32F
  | other
  deriving DecidableEq, Repr

/-- `VkFormat`, as far as the code uses it. -/
inductive VkFormat where
  | B8G8R8A8_SRGB
  | R8G8B8A8_SRGB
  | R32G32B32A32_SFLOAT
  | R32G32B32_SFLOAT
  deriving DecidableEq, Repr

/-- `toVulkan` of a texel format, which throws for some formats. -/
def TexelFormat.toVulkan : TexelFormat → Option VkFormat
  | .BGRA8 => some .B8G8R8A8_SRGB
  | .RGBA8 => some .R8G8B8A8_SRGB
  | .RGBA32F => some .R32G32B32A32_SFLOAT
  | .RGB32F => some .R32G32B32_SFLOAT
  | .R8 | .R32F | .other => none

/-- `Sampler`. -/
structure Sampler where
  handle : ℕ
  image : Ptr
  ID : ℕ
  deriving DecidableEq, Repr

/-- `Image`. -/
structure Image where
  imageView : ℕ
  layout : ImageLayout := .GENERAL
  ID : ℕ
  deriving DecidableEq, Repr

/-- The two instances of `DSHelper`, by the members of `RTPipeline`. -/
inductive DSKind where
  | samplers
  | image2Ds
  deriving DecidableEq, Repr

/-- The objects of a `DSHelper`. -/
@[reducible] def DSObj : DSKind → Type
  | .samplers => Sampler
  | .image2Ds => Image

namespace DSKind

/-- The number of the descriptor set, as in the shaders. -/
def set : DSKind → ℕ
  | .samplers => 1
  | .image2Ds => 2

/-- The member `ID` of an object. -/
def ID : (k : DSKind) → DSObj k → ℕ
  | .samplers, o => o.ID
  | .image2Ds, o => o.ID

/-- `Sampler::getDescriptorInfo` and `Image::getDescriptorInfo`. -/
def getDescriptorInfo : (k : DSKind) → DSObj k → DescriptorInfo
  | .samplers, o => { sampler := some o.handle }
  | .image2Ds, o => { imageView := some o.imageView, imageLayout := o.layout }

/-- The handle in the descriptor of an object. -/
def handle : (k : DSKind) → DSObj k → ℕ
  | .samplers, o => o.handle
  | .image2Ds, o => o.imageView

/-- The handle in a descriptor of the kind. -/
def infoHandle : DSKind → DescriptorInfo → Option ℕ
  | .samplers, info => info.sampler
  | .image2Ds, info => info.imageView

@[simp] theorem infoHandle_getDescriptorInfo (k : DSKind) (o : DSObj k) :
    k.infoHandle (k.getDescriptorInfo o) = some (k.handle o) := by
  cases k <;> rfl

@[simp] theorem infoHandle_empty (k : DSKind) : k.infoHandle {} = none := by
  cases k <;> rfl

/-- The `shared_ptr` members of an object. -/
def refs : (k : DSKind) → DSObj k → List (DSKind × Ptr)
  | .samplers, o => [(.image2Ds, o.image)]
  | .image2Ds, _ => []

end DSKind

/-! ## Descriptor sets -/

/-- A descriptor set: the context and the device it was made for, and its
descriptors, those not yet written being undefined. -/
structure DescriptorSet where
  context : ℕ
  device : ℕ
  descriptors : List (Option DescriptorInfo)
  deriving DecidableEq, Repr

/-- `vkUpdateDescriptorSets`, from the first descriptor on. -/
def DescriptorSet.write (ds : DescriptorSet) (infos : List DescriptorInfo) : DescriptorSet :=
  { ds with descriptors := infos.map some ++ ds.descriptors.drop infos.length }

/-- `DSHelper`. -/
structure DSHelper where
  objects : SlotTable Ptr := {}
  layout : Option ℕ := none
  descriptorSet : Option DescriptorSet := none
  dsSize : ℕ := 0
  dirty : Bool := true

namespace DSHelper

/-- `DSHelper::update`, whose body is empty. -/
def update (h : DSHelper) : DSHelper := h

/-- `DSHelper::insert`. -/
def insert (h : DSHelper) (p : Ptr) : ℕ × DSHelper :=
  ((h.objects.insert p).1, { h with dirty := true, objects := (h.objects.insert p).2 })

/-- `DSHelper::remove`. -/
def remove (h : DSHelper) (ID : ℕ) : DSHelper := { h with objects := h.objects.release ID }

/-- `DSHelper::createLayout`. -/
def createLayout (h : DSHelper) : DSHelper :=
  { h with layout := some (max 1 h.objects.elements.length) }

/-- The descriptor that `createDS` takes for an entry of `objects.data`.  A pointer that
leads to no object is dereferenced all the same, and the result undefined. -/
def entryInfo (info : Ptr → Option DescriptorInfo) : Option Ptr → Option DescriptorInfo
  | some p => info p
  | none => some {}

/-- The descriptors that `createDS` collects. -/
def descriptorInfos (info : Ptr → Option DescriptorInfo) (h : DSHelper) :
    Option (List DescriptorInfo) :=
  h.objects.elements.mapM (entryInfo info)

/-- `DSHelper::createDS`, for a context and its device.  The member `dsSize` is only
ever compared. -/
def createDS (info : Ptr → Option DescriptorInfo) (context device : ℕ) (h : DSHelper) :
    Option DSHelper :=
  if h.dsSize ≠ h.objects.elements.length then do
    let count ← h.layout
    let infos ← h.descriptorInfos info
    let ds : DescriptorSet := { context, device, descriptors := List.replicate count none }
    some { h with descriptorSet := some (ds.write infos) }
  else some h

end DSHelper

/-! ## The textures of a context -/

/-- The live samplers and images. -/
abbrev DSHeap := TypedHeap.Heap Ptr DSObj

/-- The members of `Context` and its `RTPipeline` that concern textures, with the
objects that belong to them.  `layout` is the list of the set layouts in the pipeline
layout, and `handles` the number of handles made so far. -/
structure Textures where
  context : ℕ
  device : ℕ
  heap : DSHeap := fun _ _ => none
  helpers : DSKind → DSHelper := fun _ => {}
  layout : Option (List ℕ) := none
  uniformBuffersDS : Option DescriptorSet := none
  handles : ℕ := 0

/-- What `vkCmdBindDescriptorSets` gets. -/
structure BindDescriptorSets where
  layout : Option (List ℕ)
  descriptorSets : List (Option DescriptorSet)
  deriving DecidableEq, Repr

namespace Textures

/-- The textures with another helper. -/
def setHelper (s : Textures) (k : DSKind) (h : DSHelper) : Textures :=
  { s with helpers := Function.update s.helpers k h }

/-- `Image::Image`.  The image has its slot when `toVulkan` throws, and keeps it. -/
def newImage (s : Textures) (texelFormat : TexelFormat) (p : Ptr) : Textures :=
  let slot := (s.helpers .image2Ds).insert p
  let s := s.setHelper .image2Ds slot.2
  -- the slot is taken before the format is checked
  match texelFormat.toVulkan with
  | none => s
  | some _ =>
    { s with
      heap := TypedHeap.set s.heap .image2Ds p (some { imageView := s.handles, ID := slot.1 })
      handles := s.handles + 1 }

/-- `Sampler::Sampler`. -/
def newSampler (s : Textures) (image p : Ptr) : Textures :=
  let slot := (s.helpers .samplers).insert p
  { s.setHelper .samplers slot.2 with
    heap := TypedHeap.set s.heap .samplers p (some { handle := s.handles, image, ID := slot.1 })
    handles := s.handles + 1 }

/-- `Sampler::~Sampler` and `Image::~Image`. -/
def deleteObj (s : Textures) (k : DSKind) (o : DSObj k) (p : Ptr) : Textures :=
  { s.setHelper k ((s.helpers k).remove (k.ID o)) with heap := TypedHeap.set s.heap k p none }

/-- `Context::Context`, which makes the default image and the default sampler. -/
def create (context device : ℕ) (defaultImage defaultSampler : Ptr) : Textures :=
  ({ context, device : Textures }.newImage .RGBA8 defaultImage).newSampler
    defaultImage defaultSampler

/-- The descriptor of the object that a pointer leads to. -/
def info (s : Textures) (k : DSKind) (p : Ptr) : Option DescriptorInfo :=
  (s.heap k p).map k.getDescriptorInfo

/-- `createLayout` and `createDS` of one helper. -/
def buildHelper (s : Textures) (k : DSKind) : Option Textures := do
  let h ← (s.helpers k).createLayout.createDS (s.info k) s.context s.device
  some (s.setHelper k h)

/-- What `RTPipeline::build` does about descriptors.  The first set layout, for the
uniform buffer, has one descriptor. -/
def build (s : Textures) : Option Textures := do
  let s ← s.buildHelper .samplers
  let s ← s.buildHelper .image2Ds
  let samplers ← (s.helpers .samplers).layout
  let image2Ds ← (s.helpers .image2Ds).layout
  some { s with layout := some [1, samplers, image2Ds] }

/-! ## Launches -/

/-- `Context::rebuildDescriptors`, with the value of its static variable `created`. -/
def rebuildDescriptors (created : Bool) (s : Textures) : Bool × Textures :=
  if created then (created, s)
  else
    let ds : DescriptorSet := { context := s.context, device := s.device, descriptors := [none] }
    (true, { s with uniformBuffersDS := some ds })

/-- The test for a null handle before `rebuildDescriptors`. -/
def requireUniformBuffers (created : Bool) (s : Textures) : Bool × Textures :=
  if s.uniformBuffersDS = none then rebuildDescriptors created s else (created, s)

/-- The sets that both launches bind. -/
def bind (s : Textures) : BindDescriptorSets where
  layout := s.layout
  descriptorSets :=
    [s.uniformBuffersDS, (s.helpers .samplers).descriptorSet, (s.helpers .image2Ds).descriptorSet]

/-- `Context::launch` up to the binding of the descriptor sets, with the static
variable `created` before and after. -/
def launch (created : Bool) (s : Textures) : Bool × Textures :=
  requireUniformBuffers created (s.setHelper .samplers (s.helpers .samplers).update)

/-- `Compute::launch` up to the binding of the descriptor sets, which makes the same
test twice. -/
def computeLaunch (created : Bool) (s : Textures) : Bool × Textures :=
  let r := requireUniformBuffers created s
  requireUniformBuffers r.1 r.2

end Textures

end Vulkanite
