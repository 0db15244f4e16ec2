/-
# Hit dispatch

`InstanceAccel::build` stores the begin of the child's SBT entries in each
instance, in a field of 24 bits.  When a ray hits geometry `j` of the child, Vulkan
selects a hit group record from that offset, from `j` and from the ray type and the
number of ray types that the device code passes to `TraceRay` (0 and 1).

`hitDispatch_spec` says that the selected record is the one of the geometry: the
handle of the group made from its type, then its data.
-/
import Vulkanite.Lib.MapM
import Vulkanite.SBTLayout

namespace Vulkanite

/-! ## The model -/

/-- `VkAccelerationStructureInstanceKHR`, as far as `InstanceAccel::build` fills it in.
The first two members have 24 bits, and the reference is the child accel. -/
structure VkInstance where
  instanceCustomIndex : ℕ
  instanceShaderBindingTableRecordOffset : ℕ
  accelerationStructureReference : Ptr
  deriving DecidableEq, Repr

namespace Context

/-- The instances that `InstanceAccel::build` writes. -/
def buildInstances (c : Context) (o : InstanceAccel) : Option (List VkInstance) :=
  o.accels.zipIdx.mapM fun e => do
    let a ← e.1
    let accel ← c.heap .geomAccel a
    return {
      instanceCustomIndex := e.2 % 2 ^ 24
      instanceShaderBindingTableRecordOffset := (accel.sbtEntryBegin % 2 ^ 24).toNat
      accelerationStructureReference := a }

end Context

/-- The ray type and the number of ray types that `vkn::traceRay` passes. -/
def traceRayType : ℕ := 0

def traceNumRayTypes : ℕ := 1

/-- The index of the hit group record that Vulkan selects for a hit of geometry `j` in
an instance. -/
def VkInstance.hitRecord (inst : VkInstance) (j : ℕ) : ℕ :=
  inst.instanceShaderBindingTableRecordOffset + traceRayType + traceNumRayTypes * j

/-! ## Runs that keep the scene -/

/-- Operations that leave all objects of some classes alone. -/
def Op.Keeps (kinds : List ObjectKind) (op : Op) : Prop := ∀ k ∈ kinds, k ∉ op.touches

instance (kinds : List ObjectKind) : DecidablePred (Op.Keeps kinds) :=
  fun op => inferInstanceAs (Decidable (∀ k ∈ kinds, k ∉ op.touches))

/-- The programs and types. -/
def typeKinds : List ObjectKind :=
  [.shaderProgram, .progType .rayGen, .progType .missProg, .geomType]

/-- The programs and types, and the objects of the scene. -/
def sceneKinds : List ObjectKind := typeKinds ++ [.geom, .geomAccel, .instanceAccel]

/-- What leaves programs and types alone keeps the handles. -/
theorem Op.Keeps.keepsHandles {op : Op} (hop : op.Keeps typeKinds) : Context.KeepsHandles op := by
  intro hmem
  simp only [List.mem_cons, List.not_mem_nil, or_false] at hmem
  rcases hmem with rfl | rfl | rfl | rfl
  · exact hop .shaderProgram (by decide) (by decide)
  · exact hop .geomType (by decide) (by decide)
  · exact hop .shaderProgram (by decide) (by decide)
  · exact hop .shaderProgram (by decide) (by decide)

theorem Op.Keeps.mono {kinds kinds' : List ObjectKind} {op : Op} (hop : op.Keeps kinds')
    (hsub : kinds ⊆ kinds') : op.Keeps kinds :=
  fun k hk => hop k (hsub hk)

theorem typeKinds_subset : typeKinds ⊆ sceneKinds := List.subset_append_left _ _

namespace Context

/-- A run of operations that are allowed, where more are. -/
theorem Run.mono {allowed allowed' : Op → Prop} {c c' : Context} (hrun : Run allowed c c')
    (h : ∀ op, allowed op → allowed' op) : Run allowed' c c' :=
  Relation.ReflTransGen.mono (fun _ _ ⟨op, hop, hstep⟩ => ⟨op, h op hop, hstep⟩) _ _ hrun

/-- A run that keeps a class. -/
theorem Run.heap_eq {kinds : List ObjectKind} {c c' : Context} (hrun : Run (Op.Keeps kinds) c c')
    {k : ObjectKind} (hk : k ∈ kinds) : c'.heap k = c.heap k :=
  hrun.heap_frame fun _ hop => hop k hk

/-! ## The selected record -/

/-- An instance of a built accel: the offset is the begin of the child's entries, as
long as it fits the field. -/
theorem buildInstances_spec {c : Context} {o : InstanceAccel} {instances : List VkInstance}
    (hbuild : c.buildInstances o = some instances) {i : ℕ} {inst : VkInstance}
    (hinst : instances[i]? = some inst) :
    ∃ a accel, o.accels[i]? = some (some a) ∧ c.heap .geomAccel a = some accel ∧
      inst.accelerationStructureReference = a ∧
      inst.instanceShaderBindingTableRecordOffset = (accel.sbtEntryBegin % 2 ^ 24).toNat := by
  obtain ⟨e, he, hstep⟩ :=
    Option.bind_eq_some_iff.mp ((List.getElem?_mapM hbuild i).symm.trans hinst)
  obtain ⟨hlt, rfl⟩ := List.getElem?_eq_some_iff.mp he
  simp only [List.getElem_zipIdx, Option.bind_eq_bind, Option.bind_eq_some_iff, Option.pure_def,
    Option.some.injEq] at hstep
  obtain ⟨a, ha, accel, haccel, rfl⟩ := hstep
  rw [List.length_zipIdx] at hlt
  exact ⟨a, accel, by rw [List.getElem?_eq_getElem hlt, ha], haccel, rfl, rfl⟩

/-- The record that is selected for geometry `j` of an instance of the accel at `a`: the
handle of the group that `gatherPrograms` made, in the state `built`, from the type of
the geometry, then the data of the geometry; no other accel owns the record. -/
structure Dispatches (built c : Context) (pl : VkPipeline) (table : Table) (inst : VkInstance)
    (a : Ptr) (j : ℕ) : Prop where
  record : ∃ accel g o type i group handle, c.heap .geomAccel a = some accel ∧
    accel.geoms[j]? = some (some g) ∧ c.heap .geom g = some o ∧
    c.heap .geomType o.type = some type ∧ type.shaderGroupIndex = (i : ℕ) ∧
    pl.groups[i]? = some group ∧ built.GroupOf pl.stages group (.geomType, o.type) ∧
    pl.handles[i]? = some handle ∧
    ByteMemory.read table.bytes (inst.hitRecord j * table.region.stride.toNat)
      (handle.length + o.data.length) = some (handle ++ o.data)
  own : ∀ x, Owns (accelRange c.heap) x (inst.hitRecord j) ↔ x = (.geomAccel, a)

/-- The offset of an instance reaches the entries of its child, if they fit the field. -/
theorem Invariant.hitRecord_eq {c : Context} (h : c.Invariant) {a : Ptr} {accel : GeomAccel}
    (ha : c.heap .geomAccel a = some accel)
    (hmax : c.sbtRangeAllocator.maxAllocedID.toNat ≤ 2 ^ 24) {inst : VkInstance}
    (hinst : inst.instanceShaderBindingTableRecordOffset =
      (accel.sbtEntryBegin % 2 ^ 24).toNat) {j : ℕ} (hj : j < accel.geoms.length) :
    (inst.hitRecord j : ℤ) = accel.sbtEntryBegin + j ∧
      Owns (accelRange c.heap) (.geomAccel, a) (inst.hitRecord j) := by
  obtain ⟨n, hn, howns⟩ := h.owns_geom ha hj
  obtain ⟨n₀, hn₀, -⟩ := h.owns_geom ha (Nat.zero_lt_of_lt hj)
  have hlt := h.entries.lt_max howns
  have hrecord : (inst.hitRecord j : ℤ) = accel.sbtEntryBegin + j := by
    rw [VkInstance.hitRecord, hinst, traceRayType, traceNumRayTypes]
    omega
  have heq : inst.hitRecord j = n := by omega
  exact ⟨hrecord, heq ▸ howns⟩

/-- The group of a geometry type that is as it was when the pipeline was built. -/
theorem ShaderTables.group_of_type {built c : Context} {stages : List ShaderStageInfo}
    {groups : List ShaderGroupInfo} (htables : built.ShaderTables stages groups)
    (h : built.Invariant) (hrun : Run (Op.Keeps typeKinds) built c) {t : Ptr} {type : GeomType}
    (htype : c.heap .geomType t = some type) {k : ℕ} (hk : type.shaderGroupIndex = k) :
    ∃ group, groups[k]? = some group ∧ built.GroupOf stages group (.geomType, t) := by
  have hbuilt : built.heap .geomType t = some type := by
    rw [← hrun.heap_eq (show .geomType ∈ typeKinds by decide)]
    exact htype
  have hindex : groupIndex built.heap (.geomType, t) = some (k : ℤ) := by
    simp only [groupIndex, hbuilt, Option.map_some, Option.some.injEq]
    exact hk
  exact htables.group _ (h.mem_types.mpr (Option.isSome_of_eq_some hindex)) k hindex

/-- **Hit dispatch.**  The pipeline is built in the state `s`; the types and programs do
not change any more, and from the state `c₀` on the scene does not change either.
`InstanceAccel::build` runs in `c₁` and `buildSBT` in `c`.  Then `buildSBT` completes, and
every hit in an instance of the accel selects the record of the geometry. -/
theorem hitDispatch_spec {s built c₀ c₁ c : Context} (hs : s.Reachable)
    (hbuild : Step .build s built) (hrun : Run (Op.Keeps typeKinds) built c₀)
    (hrun₁ : Run (Op.Keeps sceneKinds) c₀ c₁) (hrun₂ : Run (Op.Keeps sceneKinds) c₀ c)
    (hmax : c.sbtRangeAllocator.maxAllocedID.toNat ≤ 2 ^ 24) (hassert : c.SBTAssertions)
    (hf : c.SBTSizesFit) (mem : DeviceMemory) {ia : Ptr} {o : InstanceAccel}
    (hia : c₁.heap .instanceAccel ia = some o) {instances : List VkInstance}
    (hinstances : c₁.buildInstances o = some instances) :
    ∃ pl sbt, c.rtPipeline.pipeline = some pl ∧ c.buildSBT mem = some sbt ∧
      c.heap .instanceAccel ia = some o ∧
      ∀ (i : ℕ) inst, instances[i]? = some inst → ∃ a accel,
        o.accels[i]? = some (some a) ∧ inst.accelerationStructureReference = a ∧
        c.heap .geomAccel a = some accel ∧
        ∀ j < accel.geoms.length, Dispatches built c pl sbt.hitGroups inst a j := by
  obtain ⟨pl, hp, htables, -⟩ := hbuild.build_spec hs.invariant
  have hall : Run (Op.Keeps typeKinds) built c :=
    hrun.trans (hrun₂.mono fun _ hop => hop.mono typeKinds_subset)
  -- from the build on, handles and indices stay
  have hp' := hp.run (hall.mono fun _ hop => hop.keepsHandles)
  have hs' := (hs.step hbuild).invariant
  have h := ((hs.step hbuild).run hall).invariant
  obtain ⟨sbt, hsbt, hwritten⟩ := buildSBT_spec h hp' hassert hf mem
  have hscene : ∀ k ∈ sceneKinds, c.heap k = c₁.heap k := fun k hk =>
    (hrun₂.heap_eq hk).trans (hrun₁.heap_eq hk).symm
  refine ⟨pl, sbt, hp'.pipeline, hsbt, by rw [hscene .instanceAccel (by decide)]; exact hia,
    fun i inst hinst => ?_⟩
  obtain ⟨a, accel, hchild, ha, href, hoffset⟩ := buildInstances_spec hinstances hinst
  rw [← hscene .geomAccel (by decide)] at ha
  refine ⟨a, accel, hchild, href, ha, fun j hj => ?_⟩
  -- the record index is the position of the geometry among the entries of its accel
  obtain ⟨hrecord, howns⟩ := h.hitRecord_eq ha hmax hoffset hj
  obtain ⟨e, he⟩ : ∃ e, accel.geoms[j]? = some e := ⟨_, List.getElem?_eq_getElem hj⟩
  cases e with
  | none => exact absurd (List.mem_of_getElem? he) (hassert.geoms a accel ha)
  | some g =>
    obtain ⟨obj, hobj⟩ := h.closed.get ha (mem_refs_geomAccel (List.mem_of_getElem? he))
    obtain ⟨type, htype, -⟩ := h.geomData g obj hobj
    have hy := recordOf_geom.mpr ⟨accel, g, obj, type, ha, he, hobj, htype, rfl⟩
    obtain ⟨n, k, handle, hn, hk, hhandle, hread⟩ :=
      (hwritten.table .hitGroups).holds (.geom a j) _ rfl hy
    obtain ⟨group, hgroup, hgroupOf⟩ := htables.group_of_type hs' hall htype hk
    have hslot : inst.hitRecord j = n := by
      dsimp only at hn
      omega
    refine ⟨⟨accel, g, obj, type, k, group, handle, ha, he, hobj, htype, hk, hgroup, hgroupOf,
      hhandle, hslot ▸ hread⟩, fun x => ⟨fun hx => h.entries.disjoint x _ _ hx howns, ?_⟩⟩
    rintro rfl
    exact howns

/-- In the scene that changed after the build, the first instance dispatches to both
geometries of its accel and the second one to the one geometry of its own. -/
theorem hitDispatch_spec_sampleHoles :
    ∃ pl sbt, sampleHoles.rtPipeline.pipeline = some pl ∧
      sampleHoles.buildSBT sampleMemory = some sbt ∧
      Dispatches sampleTwoTypesBuilt sampleHoles pl sbt.hitGroups ⟨0, 2, 16⟩ 16 0 ∧
      Dispatches sampleTwoTypesBuilt sampleHoles pl sbt.hitGroups ⟨0, 2, 16⟩ 16 1 ∧
      Dispatches sampleTwoTypesBuilt sampleHoles pl sbt.hitGroups ⟨1, 0, 11⟩ 11 0 := by
  have hia : sampleHoles.heap .instanceAccel 17 = some ⟨[some 16, some 11], 4, 2⟩ := by decide
  have hmax : sampleHoles.sbtRangeAllocator.maxAllocedID.toNat ≤ 2 ^ 24 := by
    rw [sampleHoles_allocator]
    decide
  have hinstances : sampleHoles.buildInstances ⟨[some 16, some 11], 4, 2⟩ =
      some [⟨0, 2, 16⟩, ⟨1, 0, 11⟩] := by decide
  obtain ⟨pl, sbt, hpl, hsbt, -, hdispatch⟩ := hitDispatch_spec sampleTwoTypes_reachable
    sampleTwoTypesBuilt_step (sampleHoles_run (by decide)) .refl .refl hmax
    sampleHoles_assertions sampleHoles_sizes sampleMemory hia hinstances
  obtain ⟨a, accel, -, href, ha, hgeoms⟩ := hdispatch 0 _ rfl
  obtain rfl : 16 = a := href
  obtain rfl : _ = accel := Option.some.inj ha
  obtain ⟨a', accel', -, href', ha', hgeoms'⟩ := hdispatch 1 _ rfl
  obtain rfl : 11 = a' := href'
  obtain rfl : _ = accel' := Option.some.inj ha'
  exact ⟨pl, sbt, hpl, hsbt, hgeoms 0 (by decide), hgeoms 1 (by decide), hgeoms' 0 (by decide)⟩

/-! ## When a record size overflows -/

/-- A scene with two geometries of 40 bytes, and a type of geometries of `2^64 - 31` bytes. -/
def wideScene : Context :=
  let c := (sampleMiss.newGeomType .TRIANGLES 40 8).newGeomType .TRIANGLES 18446744073709551585 13
  let c := (c.newGeom 8 { kind := .TRIANGLES, dataSize := 40 } 10).newGeom 8
    { kind := .TRIANGLES, dataSize := 40 } 14
  (c.newGeomAccel [some 10, some 14] 11).newInstanceAccel [some 11] 12

theorem wideScene_reachable : wideScene.Reachable := by
  have h₁ := sampleMiss_reachable.step (.newGeomType _ .TRIANGLES 40 8 rfl)
  have h₂ := h₁.step (.newGeomType _ .TRIANGLES 18446744073709551585 13 rfl)
  have h₃ := h₂.step (.newGeom _ 8 _ 10 rfl (by decide) rfl)
  have h₄ := h₃.step (.newGeom _ 8 _ 14 rfl (by decide) rfl)
  have h₅ := h₄.step (.newGeomAccel _ [some 10, some 14] 11 (fun g hg => by
    rcases List.mem_pair.mp hg with h | h <;> obtain rfl := Option.some.inj h <;> rfl)
    ⟨by decide, fun _ _ => by decide⟩ rfl)
  exact h₅.step (.newInstanceAccel _ [some 11] 12 (fun g hg => by
    obtain rfl := Option.some.inj (List.mem_singleton.mp hg)
    rfl) ⟨by decide, fun _ _ => by decide⟩ rfl)

/-- The same with its pipeline built. -/
def wideBuilt : Context :=
  match wideScene.gatherPrograms with
  | (.ok (stages, groups), c) => c.finishBuild stages groups
      [List.replicate 32 1, List.replicate 32 2, List.replicate 32 3, List.replicate 32 4]
  | (.error _, c) => c

theorem wideBuilt_step : Step .build wideScene wideBuilt :=
  .build _ _ _ _ _ rfl ⟨rfl, by decide⟩

/-- Its one accel has both geometries. -/
theorem wideBuilt_geoms (a : Ptr) (accel : GeomAccel)
    (ha : wideBuilt.heap .geomAccel a = some accel) : accel.geoms = [some 10, some 14] := by
  rw [wideBuilt_step.heap_frame (by decide)] at ha
  have hheap : wideScene.heap .geomAccel = Function.update (fun _ => none) 11
      (some ⟨[some 10, some 14], (allocEntries {} (UInt64.ofNat 2)).1, UInt64.ofNat 2⟩) := rfl
  rw [hheap, Function.update_apply] at ha
  split_ifs at ha
  rw [← Option.some.inj ha]

theorem wideBuilt_assertions : wideBuilt.SBTAssertions where
  rayGen := ⟨4, _, _, rfl, rfl, by decide⟩
  missProgs := by rintro ⟨⟩
  geoms := fun a accel ha => by
    rw [wideBuilt_geoms a accel ha]
    decide

/-- The header of the second record ends the first one. -/
theorem wideBuilt_record : ((wideBuilt.buildSBT sampleMemory).bind fun sbt =>
    ByteMemory.read sbt.hitGroups.bytes (0 * sbt.hitGroups.region.stride.toNat) 72) =
    some (List.replicate 32 3 ++ (List.replicate 32 0 ++ List.replicate 8 3)) := by decide +kernel

/-- The size of the largest type makes the record size wrap: the stride is 64, records of
72 bytes overlap, and the first instance does not get the data of its geometry. -/
theorem hitDispatch_spec_overflow : wideScene.Reachable ∧ Step .build wideScene wideBuilt ∧
    wideBuilt.sbtRangeAllocator.maxAllocedID.toNat ≤ 2 ^ 24 ∧ wideBuilt.SBTAssertions ∧
    ∃ o inst pl sbt, wideBuilt.heap .instanceAccel 12 = some o ∧
      wideBuilt.buildInstances o = some [inst] ∧ inst.accelerationStructureReference = 11 ∧
      wideBuilt.rtPipeline.pipeline = some pl ∧ wideBuilt.buildSBT sampleMemory = some sbt ∧
      ¬ Dispatches wideBuilt wideBuilt pl sbt.hitGroups inst 11 0 := by
  obtain ⟨sbt, hsbt, hread⟩ := Option.bind_eq_some_iff.mp wideBuilt_record
  refine ⟨wideScene_reachable, wideBuilt_step, by decide, wideBuilt_assertions, _, ⟨0, 0, 11⟩, _,
    sbt, rfl, by decide, rfl, rfl, hsbt, fun h => ?_⟩
  obtain ⟨accel, g, o, type, i, group, handle, ha, hg, ho, htype, hi, -, -, hhandle, hrecord⟩ :=
    h.record
  rw [wideBuilt_geoms 11 accel ha] at hg
  obtain rfl : 10 = g := Option.some.inj (Option.some.inj hg)
  obtain rfl : { type := 8, data := List.replicate 40 0 } = o := Option.some.inj ho
  obtain rfl : i = 2 := by
    have htwo : groupIndex wideBuilt.heap (.geomType, 8) = some 2 := by decide
    simp only [groupIndex, htype, Option.map_some, Option.some.injEq, hi] at htwo
    omega
  obtain rfl : List.replicate 32 3 = handle := Option.some.inj hhandle
  have hcontent := Option.some.inj (hread.symm.trans hrecord)
  exact absurd hcontent (by decide)

end Context

end Vulkanite
