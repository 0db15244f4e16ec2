/-
# `TrianglesGeomAccel::build`

The application describes the vertices and the indices of a triangle geometry by a
count, an address and a stride each.  `build` translates that into the input of an
acceleration structure build, which has a stride for vertices but none for indices:
Vulkan reads three 32-bit indices for each triangle, one triangle after the other.

`build_describes_iff` says when the input describes the triangles of the application:
the stride of the indices must be 12, unless there are fewer than two triangles, and
there must be a vertex, since `maxVertex` is the number of vertices minus one.
-/
import Vulkanite.SizeT

namespace Vulkanite

/-! ## Build inputs -/

/-- `VkAccelerationStructureBuildRangeInfoKHR`. -/
structure BuildRangeInfo where
  primitiveCount : UInt32
  primitiveOffset : UInt32
  firstVertex : UInt32
  transformOffset : UInt32
  deriving DecidableEq, Repr

/-- `VkFormat` and `VkIndexType`, as far as they are used. -/
inductive VertexFormat where
  | R32G32B32_SFLOAT
  deriving DecidableEq, Repr

inductive IndexType where
  | UINT32
  deriving DecidableEq, Repr

/-- `VkAccelerationStructureGeometryTrianglesDataKHR`. -/
structure TrianglesData where
  vertexFormat : VertexFormat
  vertexData : UInt64
  vertexStride : UInt64
  maxVertex : UInt32
  indexType : IndexType
  indexData : UInt64
  transformData : UInt64
  deriving DecidableEq, Repr

/-- The input for one geometry: its data, its range and its entry in `primCounts`. -/
structure TrianglesInput where
  data : TrianglesData
  range : BuildRangeInfo
  primCount : UInt32
  deriving DecidableEq, Repr

/-! ## The model -/

/-- An array on the device: the type of `vertices` and `indices`. -/
structure DeviceArray where
  d_address : UInt64 := 0
  stride : UInt64 := 0
  count : UInt32 := 0
  deriving DecidableEq, Repr

/-- `TrianglesGeom`. -/
structure TrianglesGeom where
  vertices : DeviceArray := {}
  indices : DeviceArray := {}
  deriving DecidableEq, Repr

/-- `vknTrianglesSetVertices`. -/
def vknTrianglesSetVertices (geom : TrianglesGeom) (count : UInt32) (d_addr stride : UInt64) :
    TrianglesGeom :=
  { geom with vertices := ⟨d_addr, stride, count⟩ }

/-- `vknTrianglesSetIndices`. -/
def vknTrianglesSetIndices (geom : TrianglesGeom) (count : UInt32) (d_addr stride : UInt64) :
    TrianglesGeom :=
  { geom with indices := ⟨d_addr, stride, count⟩ }

namespace TrianglesGeomAccel

/-- The body of the loop in `TrianglesGeomAccel::build`. -/
def geomInput (geom : TrianglesGeom) : TrianglesInput :=
  let primCount := geom.indices.count
  { data :=
      { vertexFormat := .R32G32B32_SFLOAT
        vertexData := geom.vertices.d_address
        vertexStride := geom.vertices.stride
        maxVertex := geom.vertices.count - 1
        indexType := .UINT32
        indexData := geom.indices.d_address
        transformData := 0 }
    range :=
      { primitiveCount := primCount
        primitiveOffset := 0
        firstVertex := 0
        transformOffset := 0 }
    primCount }

/-- The inputs that `TrianglesGeomAccel::build` makes. -/
def build (geoms : List TrianglesGeom) : List TrianglesInput := geoms.map geomInput

end TrianglesGeomAccel

/-! ## What is described -/

/-- The size of an index. -/
def IndexType.size : IndexType → ℕ
  | .UINT32 => 4

namespace TrianglesInput

/-- Where Vulkan reads the index `j` of the triangle `i`. -/
def indexAddress (x : TrianglesInput) (i j : ℕ) : UInt64 :=
  x.data.indexData + x.range.primitiveOffset.toUInt64 +
    UInt64.ofNat (x.data.indexType.size * (3 * i + j))

/-- Where Vulkan reads the vertex `k`. -/
def vertexAddress (x : TrianglesInput) (k : ℕ) : UInt64 :=
  x.data.vertexData + UInt64.ofNat (x.range.firstVertex.toNat + k) * x.data.vertexStride

end TrianglesInput

namespace TrianglesGeom

/-- Where the application has the index `j` of the triangle `i`. -/
def indexAddress (g : TrianglesGeom) (i j : ℕ) : UInt64 :=
  g.indices.d_address + UInt64.ofNat i * g.indices.stride + UInt64.ofNat (4 * j)

/-- Where the application has the vertex `k`. -/
def vertexAddress (g : TrianglesGeom) (k : ℕ) : UInt64 :=
  g.vertices.d_address + UInt64.ofNat k * g.vertices.stride

end TrianglesGeom

/-- The input describes the triangles of the geometry. -/
structure TrianglesInput.Describes (x : TrianglesInput) (g : TrianglesGeom) : Prop where
  triangles : x.range.primitiveCount = g.indices.count ∧ x.primCount = g.indices.count
  index : ∀ i < g.indices.count.toNat, ∀ j < 3, x.indexAddress i j = g.indexAddress i j
  vertex : ∀ k < g.vertices.count.toNat, x.vertexAddress k = g.vertexAddress k
  maxVertex : IsGreatest {k | k < g.vertices.count.toNat} x.data.maxVertex.toNat

/-- There is a vertex, and indices that are not packed belong to one triangle at most. -/
structure TrianglesGeom.Packed (g : TrianglesGeom) : Prop where
  vertices : 0 < g.vertices.count.toNat
  indices : g.indices.count.toNat ≤ 1 ∨ g.indices.stride = 12

/-! ## When the triangles are those of the application -/

namespace TrianglesGeomAccel

variable {g : TrianglesGeom}

theorem indexAddress_geomInput (i j : ℕ) :
    (geomInput g).indexAddress i j =
      g.indices.d_address + UInt64.ofNat (12 * i) + UInt64.ofNat (4 * j) := by
  show g.indices.d_address + 0 + UInt64.ofNat (4 * (3 * i + j)) = _
  rw [UInt64.add_zero, UInt64.add_assoc, ← UInt64.ofNat_add]
  congr 2
  ring

/-- The index addresses are the application's exactly if the stride is 12, or no other
stride matters. -/
theorem index_iff :
    (∀ i < g.indices.count.toNat, ∀ j < 3, (geomInput g).indexAddress i j = g.indexAddress i j) ↔
      g.indices.count.toNat ≤ 1 ∨ g.indices.stride = 12 := by
  constructor
  · intro hindex
    by_contra hne
    rw [not_or] at hne
    -- the first index of the second triangle
    have hsecond := hindex 1 (by omega) 0 (by decide)
    rw [indexAddress_geomInput, TrianglesGeom.indexAddress, UInt64.add_left_inj,
      UInt64.add_right_inj] at hsecond
    refine hne.2 ?_
    calc g.indices.stride = UInt64.ofNat 1 * g.indices.stride := (UInt64.one_mul _).symm
      _ = UInt64.ofNat (12 * 1) := hsecond.symm
      _ = 12 := rfl
  · intro hpacked i hi j _
    rw [indexAddress_geomInput, TrianglesGeom.indexAddress, UInt64.add_left_inj,
      UInt64.add_right_inj]
    rcases hpacked with hone | hstride
    · obtain rfl : i = 0 := by omega
      simp
    · rw [hstride, UInt64.ofNat_mul, UInt64.mul_comm]
      rfl

theorem vertex_geomInput (k : ℕ) : (geomInput g).vertexAddress k = g.vertexAddress k := by
  show g.vertices.d_address + UInt64.ofNat (0 + k) * g.vertices.stride = _
  rw [Nat.zero_add]
  rfl

/-- `maxVertex` is the last vertex exactly if there is one. -/
theorem maxVertex_iff :
    IsGreatest {k | k < g.vertices.count.toNat} (geomInput g).data.maxVertex.toNat ↔
      0 < g.vertices.count.toNat := by
  have hmax : (geomInput g).data.maxVertex.toNat = (g.vertices.count - 1).toNat := rfl
  have hlt := g.vertices.count.toNat_lt
  constructor
  · rintro ⟨hmem, -⟩
    exact Nat.zero_lt_of_lt hmem
  · intro hpos
    have hpred : (g.vertices.count - 1).toNat = g.vertices.count.toNat - 1 := by
      rw [UInt32.toNat_sub, UInt32.toNat_one]
      omega
    rw [hmax, hpred]
    exact ⟨Nat.sub_lt hpos Nat.one_pos, fun k hk => Nat.le_sub_one_of_lt hk⟩

theorem geomInput_describes_iff : (geomInput g).Describes g ↔ g.Packed := by
  constructor
  · intro h
    exact ⟨maxVertex_iff.mp h.maxVertex, index_iff.mp h.index⟩
  · intro h
    exact ⟨⟨rfl, rfl⟩, index_iff.mpr h.indices, fun k _ => vertex_geomInput k,
      maxVertex_iff.mpr h.vertices⟩

/-- **The input describes the triangles of the application, geometry by geometry, exactly
if** each geometry has a vertex and, unless it has fewer than two triangles, packed
indices. -/
theorem build_describes_iff (geoms : List TrianglesGeom) :
    List.Forall₂ TrianglesInput.Describes (build geoms) geoms ↔ ∀ g ∈ geoms, g.Packed := by
  simp only [build, List.forall₂_map_left_iff, List.forall₂_same, geomInput_describes_iff]

/-- Two triangles whose indices have a fourth component. -/
def sampleQuadIndices : TrianglesGeom :=
  vknTrianglesSetIndices (vknTrianglesSetVertices {} 4 4096 12) 2 8192 16

/-- The second triangle is read 4 bytes early. -/
theorem sampleQuadIndices_not_described :
    ¬ ∀ geoms, List.Forall₂ TrianglesInput.Describes (build geoms) geoms := by
  intro hall
  have hdescribes := (List.forall₂_cons.mp (hall [sampleQuadIndices])).1
  have hindex := hdescribes.index 1 (by decide) 0 (by decide)
  exact absurd hindex (by decide)

end TrianglesGeomAccel

end Vulkanite
