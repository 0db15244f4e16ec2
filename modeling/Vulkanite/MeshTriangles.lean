/-
# The triangles of a mesh

`vpMeshCreate` copies the vertices and the indices of the application into two device
buffers, and `vpGroupCreate` builds an acceleration structure over them.  From then on
Vulkan reads the triangles in device memory, by the addresses and counts of the build
input.

`group_sees_iff` is about all of this at once: in every run of such calls, with whatever
other buffers there are, Vulkan finds the triangles of the application exactly if the
counts, which are `size_t` in one place and `int` in the next, are in the range of `int`.
-/
import Mathlib.Logic.Relation
import Vulkanite.Lib.AddressSpace
import Vulkanite.UserGeomBuild

namespace Vulkanite

open AddressSpace

/-! ## Device memory -/

/-- What is at the addresses of the device, and the buffers that are alive. -/
structure DeviceHeap where
  bytes : ℕ → UInt8
  buffers : List DeviceBuffer

/-- The addresses of a buffer. -/
def DeviceBuffer.Covers (b : DeviceBuffer) (x : ℕ) : Prop :=
  b.deviceAddress.toNat ≤ x ∧ x < b.deviceAddress.toNat + b.sizeInBytes.toNat

/-- How VMA places a buffer: apart from those that are alive. -/
structure DeviceAllocator where
  place : List DeviceBuffer → BufferAllocation
  apart : ∀ buffers size a, (place buffers).address size = some a → ∀ b ∈ buffers, ∀ x,
    b.Covers x → ¬ DeviceBuffer.Covers ⟨a, size⟩ x

/-- `vknDeviceBufferCreate`.  There is no buffer after an exception, or if the upload reads
past the data. -/
def vknDeviceBufferCreate (vma : DeviceAllocator) (m : DeviceHeap) (numBytes : UInt64)
    (data : Option (List UInt8)) : Option (DeviceBuffer × DeviceHeap) := do
  let buf ← DeviceBuffer.create (vma.place m.buffers) numBytes
  let bytes ← match data with
    | none => some m.bytes
    | some hostData => (buf.upload hostData).map (store m.bytes buf.deviceAddress.toNat)
  some (buf, { bytes, buffers := buf :: m.buffers })

/-- The buffer is alive and has the beginning of the data in it. -/
structure DeviceBuffer.Filled (b : DeviceBuffer) (m : DeviceHeap) (data : List UInt8) : Prop where
  mem : b ∈ m.buffers
  size_pos : 0 < b.sizeInBytes.toNat
  size_le : b.sizeInBytes.toNat ≤ data.length
  end_lt : b.deviceAddress.toNat + b.sizeInBytes.toNat < 2 ^ 64
  bytes : ∀ k < b.sizeInBytes.toNat, m.bytes (b.deviceAddress.toNat + k) = data.getD k 0

/-- The buffer is alive later, with the same content. -/
def DeviceBuffer.Kept (b : DeviceBuffer) (m m' : DeviceHeap) : Prop :=
  b ∈ m'.buffers ∧ ∀ x, b.Covers x → m'.bytes x = m.bytes x

theorem DeviceBuffer.Filled.kept {b : DeviceBuffer} {m m' : DeviceHeap} {data : List UInt8}
    (h : b.Filled m data) (hkept : b.Kept m m') : b.Filled m' data :=
  { h with
    mem := hkept.1
    bytes := fun k hk =>
      (hkept.2 _ ⟨Nat.le_add_right _ k, Nat.add_lt_add_left hk _⟩).trans (h.bytes k hk) }

/-- A buffer that was made for some data has it, and the other buffers are as before. -/
theorem vknDeviceBufferCreate_spec {vma : DeviceAllocator} {m m' : DeviceHeap} {n : UInt64}
    {data : List UInt8} {b : DeviceBuffer}
    (h : vknDeviceBufferCreate vma m n (some data) = some (b, m')) :
    b.sizeInBytes = n ∧ b.Filled m' data ∧ ∀ b' ∈ m.buffers, b'.Kept m m' := by
  simp only [vknDeviceBufferCreate, Option.bind_eq_bind, Option.bind_eq_some_iff,
    DeviceBuffer.create_eq_some, Option.map_eq_some_iff, Option.some.injEq, Prod.mk.injEq] at h
  obtain ⟨b, ⟨rfl, haddress⟩, bytes, ⟨host, hhost, rfl⟩, rfl, rfl⟩ := h
  obtain ⟨hle, rfl⟩ := ByteMemory.read_zero_eq_some.mp hhost
  have hlength : (data.take b.sizeInBytes.toNat).length = b.sizeInBytes.toNat := by
    rw [List.length_take, min_eq_left hle]
  refine ⟨rfl, ⟨List.mem_cons_self, ?_, hle, ?_, fun k hk => ?_⟩, fun b' hb' => ?_⟩
  · -- a buffer of size 0 cannot be made
    refine Nat.pos_of_ne_zero fun hzero => ?_
    rw [UInt64.toNat_inj.mp (hzero.trans UInt64.toNat_zero.symm),
      (vma.place m.buffers).zero] at haddress
    cases haddress
  · exact (vma.place m.buffers).fits _ _ haddress
  · simp only
    rw [store_inside _ (hlength.symm ▸ hk), List.getElem_take,
      List.getD_eq_getElem _ _ (hk.trans_le hle)]
  · refine ⟨List.mem_cons_of_mem _ hb', fun x hx => store_outside _ ?_⟩
    have hnot : ¬ b.Covers x := vma.apart _ _ _ haddress b' hb' x hx
    rw [hlength]
    by_contra hin
    exact hnot ⟨by omega, by omega⟩

/-- A buffer that VMA places can be made for data that is long enough. -/
theorem exists_vknDeviceBufferCreate {vma : DeviceAllocator} (m : DeviceHeap)
    (data : List UInt8) {n a : UInt64} (ha : (vma.place m.buffers).address n = some a)
    (hle : n.toNat ≤ data.length) : ∃ bytes, vknDeviceBufferCreate vma m n (some data) =
      some (⟨a, n⟩, { bytes, buffers := ⟨a, n⟩ :: m.buffers }) := by
  have hcreate : DeviceBuffer.create (vma.place m.buffers) n = some ⟨a, n⟩ :=
    DeviceBuffer.create_eq_some.mpr ⟨rfl, ha⟩
  have hupload : DeviceBuffer.upload ⟨a, n⟩ data = some (data.take n.toNat) :=
    ByteMemory.read_zero_eq_some.mpr ⟨hle, rfl⟩
  refine ⟨store m.bytes a.toNat (data.take n.toNat), ?_⟩
  simp only [vknDeviceBufferCreate, hcreate, hupload, Option.bind_eq_bind, Option.bind_some,
    Option.map_some]

/-- VMA has room for two more buffers of at most `n` bytes each. -/
def DeviceAllocator.HasRoom (vma : DeviceAllocator) (buffers : List DeviceBuffer) (n : ℕ) : Prop :=
  ∀ size : UInt64, 0 < size.toNat → size.toNat ≤ n →
    ∃ a, (vma.place buffers).address size = some a ∧
      ∀ size' : UInt64, 0 < size'.toNat → size'.toNat ≤ n →
        ∃ a', (vma.place (⟨a, size⟩ :: buffers)).address size' = some a'

namespace Prime.Triangles

/-! ## Meshes -/

/-- A number of 32 bits in memory. -/
def word (mem : ℕ → UInt8) (a : ℕ) : ℕ :=
  (mem a).toNat + 2 ^ 8 * (mem (a + 1)).toNat + 2 ^ 16 * (mem (a + 2)).toNat +
    2 ^ 24 * (mem (a + 3)).toNat

/-- `sizeof(float3)`. -/
def sizeofFloat3 : UInt64 := 12

/-- `sizeof(int3)`. -/
def sizeofInt3 : UInt64 := 12

/-- The arguments of `vpMeshCreate`, but for the ID: the bytes of `vertices` and `indices`
are those that the application promises. -/
structure MeshArguments where
  vertices : List UInt8
  numVertices : UInt64
  sizeOfVertexInBytes : UInt64
  indices : List UInt8
  numTriangles : UInt64
  sizeOfIndexStructInBytes : UInt64
  length_vertices : vertices.length = 12 * numVertices.toNat
  length_indices : indices.length = 12 * numTriangles.toNat

namespace MeshArguments

/-- The index of the corner `j` of the triangle `i`. -/
def index (t : MeshArguments) (i j : ℕ) : ℕ := word (t.indices.getD · 0) (12 * i + 4 * j)

/-- The vertex at this corner, as its bytes. -/
def corner (t : MeshArguments) (i j : ℕ) : List UInt8 :=
  load (t.vertices.getD · 0) (12 * t.index i j) 12

end MeshArguments

/-- The members of `Mesh`, but for its ID. -/
structure Mesh where
  verticesBuffer : DeviceBuffer
  indicesBuffer : DeviceBuffer
  vkn : TrianglesGeom

/-- `Mesh::Mesh`. -/
def Mesh.create (vma : DeviceAllocator) (m : DeviceHeap) (vertices : List UInt8) (numVertices : ℤ)
    (indices : List UInt8) (numIndices : ℤ) : Option (Mesh × DeviceHeap) := do
  let (verticesBuffer, m) ←
    vknDeviceBufferCreate vma m (sizeOfInt numVertices * sizeofFloat3) (some vertices)
  let (indicesBuffer, m) ←
    vknDeviceBufferCreate vma m (sizeOfInt numIndices * sizeofFloat3) (some indices)
  let vkn : TrianglesGeom := {}
  let vkn := vknTrianglesSetVertices vkn (uint32OfInt numVertices) verticesBuffer.deviceAddress
    sizeofFloat3
  let vkn := vknTrianglesSetIndices vkn (uint32OfInt numIndices) indicesBuffer.deviceAddress
    sizeofInt3
  some ({ verticesBuffer, indicesBuffer, vkn }, m)

/-- `vpMeshCreate`.  The counts become `int`s in `Context::createMesh`. -/
def vpMeshCreate (vma : DeviceAllocator) (m : DeviceHeap) (t : MeshArguments) :
    Option (Mesh × DeviceHeap) :=
  if t.sizeOfVertexInBytes = sizeofFloat3 ∧ t.sizeOfIndexStructInBytes = sizeofInt3 then
    Mesh.create vma m t.vertices (intOfSize t.numVertices) t.indices (intOfSize t.numTriangles)
  else none

/-- `Group::Group`: what `vknAccelBuild` gets for the meshes. -/
def groupInputs (meshes : List Mesh) : List TrianglesInput :=
  TrianglesGeomAccel.build (meshes.map Mesh.vkn)

/-! ## What Vulkan sees -/

/-- The index that Vulkan reads. -/
def index (mem : ℕ → UInt8) (x : TrianglesInput) (i j : ℕ) : ℕ :=
  word mem (x.indexAddress i j).toNat

/-- The vertex that Vulkan reads for it. -/
def corner (mem : ℕ → UInt8) (x : TrianglesInput) (i j : ℕ) : List UInt8 :=
  load mem (x.vertexAddress (index mem x i j)).toNat 12

/-- Vulkan finds the triangles of the application. -/
structure Sees (mem : ℕ → UInt8) (x : TrianglesInput) (t : MeshArguments) : Prop where
  triangles : x.range.primitiveCount.toNat = t.numTriangles.toNat
  vertices : x.data.maxVertex.toNat + 1 = t.numVertices.toNat
  corner : ∀ i < t.numTriangles.toNat, ∀ j < 3, t.index i j < t.numVertices.toNat →
    corner mem x i j = t.corner i j

/-- The counts of the application are `int`s. -/
def CountsFit (t : MeshArguments) : Prop :=
  t.numVertices.toNat ≤ intMax ∧ t.numTriangles.toNat ≤ intMax

/-! ### One mesh -/

/-- The buffers of a mesh have the arrays, and its geometry says so. -/
structure Mesh.Holds (mesh : Mesh) (m : DeviceHeap) (t : MeshArguments) : Prop where
  vertices : mesh.verticesBuffer.Filled m t.vertices
  indices : mesh.indicesBuffer.Filled m t.indices
  size_vertices : mesh.verticesBuffer.sizeInBytes =
    sizeOfInt (intOfSize t.numVertices) * sizeofFloat3
  size_indices : mesh.indicesBuffer.sizeInBytes =
    sizeOfInt (intOfSize t.numTriangles) * sizeofFloat3
  vkn : mesh.vkn =
    { vertices := ⟨mesh.verticesBuffer.deviceAddress, 12, uint32OfInt (intOfSize t.numVertices)⟩
      indices := ⟨mesh.indicesBuffer.deviceAddress, 12, uint32OfInt (intOfSize t.numTriangles)⟩ }

/-- A natural number that becomes an `int` and then a `size_t`. -/
theorem toNat_emod_bmod (n : ℕ) : (Int.bmod n (2 ^ 32) % 2 ^ 64).toNat % 2 ^ 64 =
    if n % 2 ^ 32 < 2 ^ 31 then n % 2 ^ 32 else 2 ^ 64 - 2 ^ 32 + n % 2 ^ 32 := by
  rw [Int.bmod_def]
  split_ifs <;> omega

/-- The size of a buffer for so many vertices or triangles. -/
theorem toNat_size (x : UInt64) : (sizeOfInt (intOfSize x) * sizeofFloat3).toNat =
    (if x.toNat % 2 ^ 32 < 2 ^ 31 then x.toNat % 2 ^ 32
      else 2 ^ 64 - 2 ^ 32 + x.toNat % 2 ^ 32) * 12 % 2 ^ 64 := by
  have hsize : (sizeOfInt (intOfSize x)).toNat =
      (Int.bmod x.toNat (2 ^ 32) % 2 ^ 64).toNat % 2 ^ 64 := UInt64.toNat_ofNat'
  have hsizeof : sizeofFloat3.toNat = 12 := rfl
  rw [UInt64.toNat_mul, hsizeof, hsize, toNat_emod_bmod]

/-- The size of a buffer for an array, if the count is an `int`. -/
theorem toNat_size_of_le {x : UInt64} (h : x.toNat ≤ intMax) :
    (sizeOfInt (intOfSize x) * sizeofFloat3).toNat = 12 * x.toNat := by
  have hmax : intMax = 2147483647 := rfl
  have hmod : x.toNat % 2 ^ 32 = x.toNat := Nat.mod_eq_of_lt (by omega)
  rw [toNat_size, if_pos (by omega), hmod]
  omega

/-- What a buffer with an array of the application says about the count. -/
theorem count_spec {x : UInt64}
    (hpos : 0 < (sizeOfInt (intOfSize x) * sizeofFloat3).toNat)
    (hle : (sizeOfInt (intOfSize x) * sizeofFloat3).toNat ≤ 12 * x.toNat) :
    0 < (uint32OfInt (intOfSize x)).toNat ∧
      ((uint32OfInt (intOfSize x)).toNat = x.toNat ↔ x.toNat ≤ intMax) ∧
      (x.toNat ≤ intMax → (sizeOfInt (intOfSize x) * sizeofFloat3).toNat = 12 * x.toNat) := by
  have hmax : intMax = 2147483647 := rfl
  rw [toNat_uint32OfInt_intOfSize]
  rw [toNat_size] at hpos hle
  refine ⟨?_, ⟨fun heq => ?_, fun hfit => ?_⟩, toNat_size_of_le⟩
  · split_ifs at hpos <;> omega
  · -- a count from `2 ^ 31` on is a negative `int`, and the buffer longer than the array
    split_ifs at hle <;> omega
  · omega

namespace Mesh.Holds

variable {mesh : Mesh} {m : DeviceHeap} {t : MeshArguments}

theorem vertices_spec (h : mesh.Holds m t) :
    0 < (uint32OfInt (intOfSize t.numVertices)).toNat ∧
      ((uint32OfInt (intOfSize t.numVertices)).toNat = t.numVertices.toNat ↔
        t.numVertices.toNat ≤ intMax) ∧
      (t.numVertices.toNat ≤ intMax →
        mesh.verticesBuffer.sizeInBytes.toNat = 12 * t.numVertices.toNat) := by
  rw [h.size_vertices]
  exact count_spec (h.size_vertices ▸ h.vertices.size_pos)
    (h.size_vertices ▸ t.length_vertices ▸ h.vertices.size_le)

theorem indices_spec (h : mesh.Holds m t) :
    0 < (uint32OfInt (intOfSize t.numTriangles)).toNat ∧
      ((uint32OfInt (intOfSize t.numTriangles)).toNat = t.numTriangles.toNat ↔
        t.numTriangles.toNat ≤ intMax) ∧
      (t.numTriangles.toNat ≤ intMax →
        mesh.indicesBuffer.sizeInBytes.toNat = 12 * t.numTriangles.toNat) := by
  rw [h.size_indices]
  exact count_spec (h.size_indices ▸ h.indices.size_pos)
    (h.size_indices ▸ t.length_indices ▸ h.indices.size_le)

/-- Vulkan reads the index of the application. -/
theorem index_eq (h : mesh.Holds m t) (hfit : t.numTriangles.toNat ≤ intMax) {i j : ℕ}
    (hi : i < t.numTriangles.toNat) (hj : j < 3) :
    index m.bytes (TrianglesGeomAccel.geomInput mesh.vkn) i j = t.index i j := by
  have hsize := h.indices_spec.2.2 hfit
  have hend := h.indices.end_lt
  have haddress : ((TrianglesGeomAccel.geomInput mesh.vkn).indexAddress i j).toNat =
      mesh.indicesBuffer.deviceAddress.toNat + (12 * i + 4 * j) := by
    rw [TrianglesGeomAccel.indexAddress_geomInput, h.vkn]
    simp only [UInt64.toNat_add, UInt64.toNat_ofNat']
    omega
  have hbyte : ∀ k < 4, m.bytes (mesh.indicesBuffer.deviceAddress.toNat + (12 * i + 4 * j) + k) =
      t.indices.getD (12 * i + 4 * j + k) 0 := fun k hk => by
    rw [Nat.add_assoc]
    exact h.indices.bytes _ (by omega)
  have h0 := hbyte 0 (by decide)
  have h1 := hbyte 1 (by decide)
  have h2 := hbyte 2 (by decide)
  have h3 := hbyte 3 (by decide)
  simp only [Nat.add_zero] at h0
  simp only [index, MeshArguments.index, word, haddress, h0, h1, h2, h3]

/-- Vulkan reads the vertex of the application. -/
theorem corner_eq (h : mesh.Holds m t) (hfit : CountsFit t) {i j : ℕ}
    (hi : i < t.numTriangles.toNat) (hj : j < 3) (hindex : t.index i j < t.numVertices.toNat) :
    corner m.bytes (TrianglesGeomAccel.geomInput mesh.vkn) i j = t.corner i j := by
  have hsize := h.vertices_spec.2.2 hfit.1
  have hend := h.vertices.end_lt
  have haddress : ((TrianglesGeomAccel.geomInput mesh.vkn).vertexAddress (t.index i j)).toNat =
      mesh.verticesBuffer.deviceAddress.toNat + 12 * t.index i j := by
    have hstride : (12 : UInt64).toNat = 12 := rfl
    rw [TrianglesGeomAccel.vertex_geomInput, TrianglesGeom.vertexAddress, h.vkn]
    simp only [UInt64.toNat_add, UInt64.toNat_mul, UInt64.toNat_ofNat', hstride]
    omega
  rw [corner, h.index_eq hfit.2 hi hj, haddress, MeshArguments.corner]
  refine load_congr fun k hk => ?_
  rw [Nat.add_assoc]
  exact h.vertices.bytes _ (by omega)

/-- **Vulkan sees the mesh exactly if** its counts are `int`s. -/
theorem sees_iff (h : mesh.Holds m t) :
    Sees m.bytes (TrianglesGeomAccel.geomInput mesh.vkn) t ↔ CountsFit t := by
  have htriangles : (TrianglesGeomAccel.geomInput mesh.vkn).range.primitiveCount.toNat =
      (uint32OfInt (intOfSize t.numTriangles)).toNat := by
    rw [h.vkn]
    rfl
  have hvertices : (TrianglesGeomAccel.geomInput mesh.vkn).data.maxVertex.toNat + 1 =
      (uint32OfInt (intOfSize t.numVertices)).toNat := by
    have hpos := h.vertices_spec.1
    have hmax : (TrianglesGeomAccel.geomInput mesh.vkn).data.maxVertex =
        uint32OfInt (intOfSize t.numVertices) - 1 := by
      rw [h.vkn]
      rfl
    have hlt := (uint32OfInt (intOfSize t.numVertices)).toNat_lt
    rw [hmax, UInt32.toNat_sub, UInt32.toNat_one]
    omega
  constructor
  · intro hsees
    exact ⟨h.vertices_spec.2.1.mp (hvertices.symm.trans hsees.vertices),
      h.indices_spec.2.1.mp (htriangles.symm.trans hsees.triangles)⟩
  · intro hfit
    exact ⟨htriangles.trans (h.indices_spec.2.1.mpr hfit.2),
      hvertices.trans (h.vertices_spec.2.1.mpr hfit.1),
      fun i hi j hj hindex => h.corner_eq hfit hi hj hindex⟩

end Mesh.Holds

/-! ## Runs -/

/-- The buffers of a mesh are left alone. -/
def Mesh.Kept (mesh : Mesh) (m m' : DeviceHeap) : Prop :=
  mesh.verticesBuffer.Kept m m' ∧ mesh.indicesBuffer.Kept m m'

theorem Mesh.Holds.kept {mesh : Mesh} {m m' : DeviceHeap} {t : MeshArguments} (h : mesh.Holds m t)
    (hkept : mesh.Kept m m') : mesh.Holds m' t :=
  { h with
    vertices := h.vertices.kept hkept.1
    indices := h.indices.kept hkept.2 }

/-- What `vpMeshCreate` makes holds the arrays, and the other buffers are as before. -/
theorem vpMeshCreate_spec {vma : DeviceAllocator} {m m' : DeviceHeap} {t : MeshArguments}
    {mesh : Mesh} (h : vpMeshCreate vma m t = some (mesh, m')) :
    mesh.Holds m' t ∧ ∀ b ∈ m.buffers, b.Kept m m' := by
  rw [vpMeshCreate, Option.ite_none_right_eq_some] at h
  obtain ⟨-, h⟩ := h
  simp only [Mesh.create, Option.bind_eq_bind, Option.bind_eq_some_iff, Option.some.injEq,
    Prod.mk.injEq, Prod.exists] at h
  obtain ⟨vertices, m₁, hvertices, indices, m₂, hindices, rfl, rfl⟩ := h
  obtain ⟨hsize₁, hfilled₁, hkept₁⟩ := vknDeviceBufferCreate_spec hvertices
  obtain ⟨hsize₂, hfilled₂, hkept₂⟩ := vknDeviceBufferCreate_spec hindices
  refine ⟨⟨hfilled₁.kept (hkept₂ _ hfilled₁.mem), hfilled₂, hsize₁, hsize₂, rfl⟩, fun b hb => ?_⟩
  have hb₁ := hkept₁ b hb
  have hb₂ := hkept₂ b hb₁.1
  exact ⟨hb₂.1, fun x hx => (hb₂.2 x hx).trans (hb₁.2 x hx)⟩

/-- **Which meshes can be made** where VMA has room for them: those with the strides that
the assertions want, and with at least one vertex and one triangle. -/
theorem vpMeshCreate_isSome_iff {vma : DeviceAllocator} {m : DeviceHeap} {t : MeshArguments}
    (hfit : CountsFit t)
    (hroom : vma.HasRoom m.buffers (12 * max t.numVertices.toNat t.numTriangles.toNat)) :
    (vpMeshCreate vma m t).isSome ↔
      (t.sizeOfVertexInBytes = sizeofFloat3 ∧ t.sizeOfIndexStructInBytes = sizeofInt3) ∧
        0 < t.numVertices.toNat ∧ 0 < t.numTriangles.toNat := by
  have hvertices := toNat_size_of_le hfit.1
  have hindices := toNat_size_of_le hfit.2
  constructor
  · intro h
    obtain ⟨⟨mesh, m'⟩, h⟩ := Option.isSome_iff_exists.mp h
    have hholds := (vpMeshCreate_spec h).1
    have hstrides := (Option.ite_none_right_eq_some.mp h).1
    have hvpos := hholds.vertices.size_pos
    have hipos := hholds.indices.size_pos
    rw [hholds.size_vertices, hvertices] at hvpos
    rw [hholds.size_indices, hindices] at hipos
    exact ⟨hstrides, by omega, by omega⟩
  · rintro ⟨hstrides, hvpos, hipos⟩
    obtain ⟨a, ha, hsecond⟩ := hroom (sizeOfInt (intOfSize t.numVertices) * sizeofFloat3)
      (by omega) (by omega)
    obtain ⟨a', ha'⟩ := hsecond (sizeOfInt (intOfSize t.numTriangles) * sizeofFloat3)
      (by omega) (by omega)
    obtain ⟨bytes, hfirst⟩ := exists_vknDeviceBufferCreate m t.vertices ha
      (by rw [hvertices, t.length_vertices])
    obtain ⟨bytes', hboth⟩ := exists_vknDeviceBufferCreate
      { bytes, buffers := ⟨a, _⟩ :: m.buffers } t.indices ha' (by rw [hindices, t.length_indices])
    rw [vpMeshCreate, if_pos hstrides]
    simp only [Mesh.create, hfirst, hboth, Option.bind_eq_bind, Option.bind_some,
      Option.isSome_some]

/-- The device, and the meshes with what they were made from. -/
structure MeshScene where
  heap : DeviceHeap
  meshes : List (Mesh × MeshArguments)

/-- A mesh is made, or something happens to other buffers: a mesh never destroys its own. -/
inductive MeshStep : MeshScene → MeshScene → Prop
  | meshCreate (s : MeshScene) (vma : DeviceAllocator) (t : MeshArguments) (mesh : Mesh)
      (heap : DeviceHeap) (hmesh : vpMeshCreate vma s.heap t = some (mesh, heap)) :
      MeshStep s ⟨heap, (mesh, t) :: s.meshes⟩
  | other (s : MeshScene) (heap : DeviceHeap) (hkept : ∀ r ∈ s.meshes, r.1.Kept s.heap heap) :
      MeshStep s { s with heap }

/-- The states of the runs that begin without meshes. -/
def MeshScene.Reachable (s : MeshScene) : Prop :=
  ∃ heap, Relation.ReflTransGen MeshStep ⟨heap, []⟩ s

/-- **Step lemma**: the meshes hold their arrays. -/
theorem MeshStep.holds {s s' : MeshScene} (hstep : MeshStep s s')
    (h : ∀ r ∈ s.meshes, r.1.Holds s.heap r.2) : ∀ r ∈ s'.meshes, r.1.Holds s'.heap r.2 := by
  cases hstep with
  | meshCreate vma t mesh heap hmesh =>
    obtain ⟨hholds, hkept⟩ := vpMeshCreate_spec hmesh
    intro r hr
    rcases List.mem_cons.mp hr with rfl | hr
    · exact hholds
    · have hr' := h r hr
      exact hr'.kept ⟨hkept _ hr'.vertices.mem, hkept _ hr'.indices.mem⟩
  | other heap hkept => exact fun r hr => (h r hr).kept (hkept r hr)

/-- Run lemma. -/
theorem MeshScene.Reachable.holds {s : MeshScene} (h : s.Reachable) :
    ∀ r ∈ s.meshes, r.1.Holds s.heap r.2 := by
  obtain ⟨heap, hrun⟩ := h
  induction hrun with
  | refl => exact fun r hr => absurd hr List.not_mem_nil
  | tail _ hstep ih => exact hstep.holds ih

/-- **Vulkan sees the meshes of a group**, whatever was made before and after them, exactly
if all their counts are `int`s. -/
theorem group_sees_iff {s : MeshScene} (h : s.Reachable) {group : List (Mesh × MeshArguments)}
    (hgroup : ∀ r ∈ group, r ∈ s.meshes) :
    List.Forall₂ (Sees s.heap.bytes) (groupInputs (group.map Prod.fst)) (group.map Prod.snd) ↔
      ∀ r ∈ group, CountsFit r.2 := by
  simp only [groupInputs, TrianglesGeomAccel.build, List.map_map, List.forall₂_map_left_iff,
    List.forall₂_map_right_iff, List.forall₂_same, Function.comp_apply]
  exact forall₂_congr fun r hr => (h.holds r (hgroup r hr)).sees_iff

/-! ## A triangle -/

/-- The end of the buffers. -/
def topOf (buffers : List DeviceBuffer) : ℕ :=
  buffers.foldr (fun b top => max (b.deviceAddress.toNat + b.sizeInBytes.toNat) top) 4096

theorem le_topOf {buffers : List DeviceBuffer} {b : DeviceBuffer} (hb : b ∈ buffers) :
    b.deviceAddress.toNat + b.sizeInBytes.toNat ≤ topOf buffers := by
  induction buffers with
  | nil => cases hb
  | cons b' buffers ih =>
    rcases List.mem_cons.mp hb with rfl | hb
    · exact le_max_left _ _
    · exact (ih hb).trans (le_max_right _ _)

/-- An allocator that puts every buffer behind the others. -/
def sampleAllocator : DeviceAllocator where
  place buffers :=
    { address := fun size =>
        if 0 < size.toNat ∧ topOf buffers + size.toNat < 2 ^ 64 then
          some (UInt64.ofNat (topOf buffers))
        else none
      zero := if_neg fun h => absurd h.1 (by decide)
      fits := by
        intro size a ha
        obtain ⟨⟨-, hlt⟩, ha⟩ := Option.ite_none_right_eq_some.mp ha
        rw [← Option.some.inj ha, UInt64.toNat_ofNat']
        omega }
  apart := by
    intro buffers size a ha b hb x hx hcovers
    obtain ⟨⟨-, hlt⟩, ha⟩ := Option.ite_none_right_eq_some.mp ha
    have hle := le_topOf hb
    have hbegin : a.toNat ≤ x := hcovers.1
    rw [← Option.some.inj ha, UInt64.toNat_ofNat'] at hbegin
    have hend := hx.2
    omega

/-- A triangle of three vertices. -/
def sampleTriangle : MeshArguments where
  vertices := (List.range 36).map UInt8.ofNat
  numVertices := 3
  sizeOfVertexInBytes := 12
  indices := [0, 0, 0, 0, 1, 0, 0, 0, 2, 0, 0, 0]
  numTriangles := 1
  sizeOfIndexStructInBytes := 12
  length_vertices := by decide
  length_indices := by decide

/-- An empty device. -/
def sampleDevice : DeviceHeap := ⟨fun _ => 0, []⟩

theorem group_sees_iff_sampleTriangle :
    ∃ r, vpMeshCreate sampleAllocator sampleDevice sampleTriangle = some r ∧
      List.Forall₂ (Sees r.2.bytes) (groupInputs [r.1]) [sampleTriangle] := by
  obtain ⟨⟨mesh, heap⟩, hmesh⟩ := Option.isSome_iff_exists.mp
    (show (vpMeshCreate sampleAllocator sampleDevice sampleTriangle).isSome by decide)
  have hreachable : MeshScene.Reachable ⟨heap, [(mesh, sampleTriangle)]⟩ :=
    ⟨sampleDevice, .single (.meshCreate ⟨sampleDevice, []⟩ sampleAllocator _ _ _ hmesh)⟩
  refine ⟨_, hmesh, (group_sees_iff hreachable (fun r hr => hr)).mpr fun r hr => ?_⟩
  have hfit : CountsFit sampleTriangle := ⟨by decide, by decide⟩
  rw [List.mem_singleton.mp hr]
  exact hfit

end Prime.Triangles

end Vulkanite
