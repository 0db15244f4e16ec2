/-
# What `vpTrace` launches

`vpTrace` writes its arguments into the data of the ray generation program, builds the
shader binding table and launches.  A launch hands three regions to Vulkan, and what runs
is decided by what is in them: the first record of the first region, the record of the
second that a miss selects, and for a hit the record of the third that the instance and
the geometry select.

`vpTrace_spec` says what these records hold in every scene that a prime context can reach,
whatever was made before and in whatever order.  The one bound is that of the field of an
instance that holds a record index.
-/
import Vulkanite.PrimeScenes

namespace Vulkanite.Prime

open Vulkanite (Context)
open TypedHeap
open Context (Step)

/-! ## Sizes -/

/-- The pipeline has one group for each type. -/
theorem length_groups {c built : Context} (hbuild : Step .build c built) {pl : VkPipeline}
    (hpl : built.rtPipeline.pipeline = some pl) :
    pl.groups.length = built.rtPipeline.types.length := by
  cases hbuild with
  | build _ c₁ stages groups handles hrun _ =>
    obtain ⟨h', hpipeline, rfl⟩ := Context.gatherPrograms_eq_ok hrun
    obtain rfl := Option.some.inj hpl
    exact (gatherPrograms_spec hpipeline).groups_labels.length_eq

/-- All tables have room for the arguments of `traceRays`. -/
theorem toNat_maxDataSize_le {p : SetUp} {c : Context} (ht : p.Types c.heap) (hp : p.Programs c)
    {t : SBTTable} {m : UInt64} (hm : c.maxDataSize t = some m) : m.toNat ≤ 56 := by
  cases t with
  | progs k =>
    obtain ⟨o, ho, htype, -⟩ := hp.prog k
    obtain ⟨type, hget, hsize, -⟩ := ht.progType k
    simp only [Context.maxDataSize, hp.elements, List.foldlM_cons, List.foldlM_nil,
      Context.maxWithProg, ho, htype, hget, hsize, Option.bind_eq_bind, Option.bind_some,
      Option.pure_def, Option.some.injEq] at hm
    rw [← hm]
    cases k <;> decide
  | hitGroups =>
    obtain ⟨gt, hgt, -, hsize, -⟩ := ht.geomType
    simp only [Context.maxDataSize, hp.geomTypes, List.foldlM_cons, List.foldlM_nil,
      Context.maxWithGeomType, hgt, hsize, Option.bind_eq_bind, Option.bind_some,
      Option.pure_def, Option.some.injEq] at hm
    rw [← hm]
    decide

/-- A record is no larger than header, data and alignment together. -/
theorem stride_lt {p : PipelineProperties} {m : ℕ} (hm : m ≤ 56) : p.stride m < 2 ^ 34 := by
  have hhandle := p.shaderGroupHandleSize.toNat_lt
  have halign := p.shaderGroupBaseAlignment.toNat_lt
  refine lt_of_le_of_lt (Nat.mul_div_le _ _) ?_
  omega

/-- No size of a prime context overflows. -/
theorem sbtSizesFit {p : SetUp} {c₀ built c : Context} (hbuild : Step .build c₀ built)
    (hbuilt : p.Programs built) {pl : VkPipeline} (hpl : c.HandlesCurrent pl)
    (hpipeline : built.rtPipeline.pipeline = some pl)
    (hgroups : pl.handles.length = pl.groups.length) (h : c.Invariant) (ht : p.Types c.heap)
    (hp : p.Programs c) (hmax : c.sbtRangeAllocator.maxAllocedID.toNat ≤ 2 ^ 24) :
    c.SBTSizesFit where
  storage := by
    have hlength : pl.handles.length = 3 := by
      rw [hgroups, length_groups hbuild hpipeline, RTPipeline.types, hbuilt.progTypes,
        hbuilt.progTypes, hbuilt.geomTypes]
      rfl
    have hsize := c.rtPipeline.properties.shaderGroupHandleSize.toNat_lt
    rw [hpl.storage, List.length_flatten, List.map_congr_left hpl.size_eq, List.map_const',
      List.sum_replicate, hlength]
    simp only [smul_eq_mul]
    omega
  record := fun t m hm => by
    have hle := toNat_maxDataSize_le ht hp hm
    have hhandle := c.rtPipeline.properties.shaderGroupHandleSize.toNat_lt
    have halign := c.rtPipeline.properties.shaderGroupBaseAlignment.toNat_lt
    unfold PipelineProperties.RecordFits
    omega
  table := fun t m hm => by
    have hstride := stride_lt (p := c.rtPipeline.properties) (toNat_maxDataSize_le ht hp hm)
    have hnum : (c.numRecords t).toNat ≤ 2 ^ 24 := by
      cases t with
      | progs k =>
        rw [Context.numRecords_progs, hp.elements, List.length_singleton]
        decide
      | hitGroups =>
        rw [h.numRecords_hitGroups]
        omega
    calc _ ≤ 2 ^ 24 * 2 ^ 34 := Nat.mul_le_mul hnum hstride.le
      _ < 2 ^ 64 := by decide

/-- The assertions of `buildSBT` hold in a prime context. -/
theorem Scene.Invariant.sbtAssertions {built : Context} {s : Scene} (h : s.Invariant built) :
    s.vkn.SBTAssertions where
  rayGen := by
    obtain ⟨o, ho, htype, -⟩ := h.programs.prog .rayGen
    obtain ⟨type, hget, hsize, -⟩ := h.types.progType .rayGen
    exact ⟨_, o, type, ho, by rw [htype, hget], by rw [hsize]; decide⟩
  missProgs := by
    rw [h.programs.elements]
    exact List.cons_ne_nil _ _
  geoms := h.accels

/-! ## What a record runs -/

/-- The entry point of the stage at a shader index of a group. -/
def EntryPointAt (pl : VkPipeline) (x : ℤ) (entryPoint : String) : Prop :=
  ∃ (i : ℕ) (stage : ShaderStageInfo), x = i ∧ pl.stages[i]? = some stage ∧
    stage.pName = entryPoint

/-- A group of one program. -/
def IsGeneral (pl : VkPipeline) (entryPoint : String) (group : ShaderGroupInfo) : Prop :=
  group.type = .GENERAL ∧ EntryPointAt pl group.generalShader entryPoint

/-- The group of the meshes. -/
structure IsMeshGroup (pl : VkPipeline) (group : ShaderGroupInfo) : Prop where
  type : group.type = .TRIANGLES_HIT_GROUP
  closestHit : EntryPointAt pl group.closestHitShader "TriangleMesh_CH"
  anyHit : EntryPointAt pl group.anyHitShader "TriangleMesh_AH"
  intersection : group.intersectionShader = VK_SHADER_UNUSED

/-- The record at an index of a table has the handle of a group with a property, then the
data. -/
def Runs (pl : VkPipeline) (table : Table) (n : ℕ) (P : ShaderGroupInfo → Prop)
    (data : List UInt8) : Prop :=
  ∃ (i : ℕ) (group : ShaderGroupInfo) (handle : List UInt8), pl.groups[i]? = some group ∧
    P group ∧ pl.handles[i]? = some handle ∧
    ByteMemory.read table.bytes (n * table.region.stride.toNat)
      (handle.length + data.length) = some (handle ++ data)

/-- What a launch with the arguments `rg` runs in a scene. -/
structure Scene.Traces (s : Scene) (pl : VkPipeline) (rg : List UInt8) (sbt : SBT)
    (call : TraceRays) : Prop where
  rayGens : call.raygenShaderBindingTable = sbt.rayGens.region ∧
    sbt.rayGens.region.size = sbt.rayGens.region.stride
  missProgs : call.missShaderBindingTable = sbt.missProgs.region
  hitGroups : call.hitShaderBindingTable = sbt.hitGroups.region
  rayGen : Runs pl sbt.rayGens 0 (IsGeneral pl "traceRays") rg
  miss : Runs pl sbt.missProgs traceMissType (IsGeneral pl "missProg")
    (List.replicate sizeofMissProgData.toNat 0)
  length_eq : ∀ model ∈ s.models, model.instances.length = model.groups.length
  hit : ∀ model ∈ s.models, ∀ (i : ℕ) inst group, model.instances[i]? = some inst →
    model.groups[i]? = some group → inst.accelerationStructureReference = group.vkn ∧
      ∀ (j : ℕ) mesh, group.meshes[j]? = some mesh →
        Runs pl sbt.hitGroups (inst.hitRecord j) (IsMeshGroup pl) (bytes32 mesh.data.geomID)

/-- The shader index of a program with an entry point. -/
theorem entryPointAt_of_shaderIndexOf {c : Context} {pl : VkPipeline} {q : Ptr} {x : ℤ}
    {e : String} (hx : c.ShaderIndexOf pl.stages (some q) x) (hq : HasEntryPoint c.heap q e) :
    EntryPointAt pl x e := by
  obtain ⟨i, rfl, -, -, o, stage, ho, -, hstage, hget⟩ := hx
  obtain ⟨o', ho', rfl⟩ := hq
  obtain rfl := Option.some.inj (ho.symm.trans ho')
  refine ⟨i, stage, rfl, hstage, ?_⟩
  unfold getShaderStage at hget
  split at hget
  · cases hget
  · rw [← Except.ok.inj hget]

/-- The group of a type that is as it was when the pipeline was built. -/
theorem group_of_index {built c : Context} {pl : VkPipeline}
    (htables : built.ShaderTables pl.stages pl.groups) (h : built.Invariant)
    (hrun : Context.Run (Op.Keeps typeKinds) built c) {r : ObjectKind × Ptr} {i : ℕ}
    (hi : groupIndex c.heap r = some (i : ℤ)) :
    ∃ group, pl.groups[i]? = some group ∧ built.GroupOf pl.stages group r := by
  rw [Context.groupIndex_congr (fun k => hrun.heap_eq (by cases k <;> decide))
    (hrun.heap_eq (by decide))] at hi
  exact htables.group r (h.mem_types.mpr (Option.isSome_of_eq_some hi)) i hi

section Records

variable {p : SetUp} {built c : Context} {pl : VkPipeline} {group : ShaderGroupInfo}

/-- The group of a program type runs its program. -/
theorem isGeneral_of_groupOf (ht : p.Types built.heap) {k : ProgKind}
    (hgroup : built.GroupOf pl.stages group (.progType k, p.type k)) :
    IsGeneral pl (entryPoint k) group := by
  obtain ⟨o, ho, htype, hgeneral, -⟩ := hgroup
  obtain ⟨type, hget, -, hprogram⟩ := ht.progType k
  obtain rfl := Option.some.inj (ho.symm.trans hget)
  rw [hprogram] at hgeneral
  exact ⟨htype, entryPointAt_of_shaderIndexOf hgeneral (ht.program k)⟩

/-- The group of the mesh type runs the two hit programs. -/
theorem isMeshGroup_of_groupOf (ht : p.Types built.heap)
    (hgroup : built.GroupOf pl.stages group (.geomType, p.meshGT)) : IsMeshGroup pl group := by
  obtain ⟨gt, hgt, htype, -, hch, hah, his⟩ := hgroup
  obtain ⟨gt', hgt', hkind, -, hch', hah'⟩ := ht.geomType
  obtain rfl := Option.some.inj (hgt.symm.trans hgt')
  rw [hch'] at hch
  rw [hah'] at hah
  rw [hkind] at his htype
  exact ⟨(Except.ok.inj htype).symm, entryPointAt_of_shaderIndexOf hch ht.ch,
    entryPointAt_of_shaderIndexOf hah ht.ah, his⟩

/-- A record that is in place runs the group of its type. -/
theorem runs_of_holds {table : Table} {id : ℤ} {n : ℕ} {r : Record} {P : ShaderGroupInfo → Prop}
    (hholds : table.Holds pl id r) (hid : id = n)
    (hP : ∀ i : ℕ, r.shaderGroupIndex = i → ∃ group, pl.groups[i]? = some group ∧ P group) :
    Runs pl table n P r.data := by
  obtain ⟨n', i, handle, hn', hi, hhandle, hread⟩ := hholds
  obtain rfl : n' = n := by omega
  obtain ⟨group, hgroup, hPgroup⟩ := hP i hi
  exact ⟨i, group, handle, hgroup, hPgroup, hhandle, hread⟩

end Records

namespace Scene

variable {s : Scene} {c built : Context}

/-- The record of a program of the prime context. -/
theorem Invariant.runs_prog (h : s.Invariant built) (hbuilt : built.Invariant) {pl : VkPipeline}
    (htables : built.ShaderTables pl.stages pl.groups) {k : ProgKind} {table : Table}
    (hwritten : s.vkn.TableWritten pl (.progs k) table) {o : Prog}
    (ho : s.vkn.heap (.prog k) (s.setUp.prog k) = some o) :
    Runs pl table 0 (IsGeneral pl (entryPoint k)) o.data := by
  obtain ⟨o', ho', htype, hindex⟩ := h.programs.prog k
  obtain rfl := Option.some.inj (ho'.symm.trans ho)
  obtain ⟨type, hget, -⟩ := h.types.progType k
  have hy := Context.recordOf_prog.mpr ⟨o', type, ho, by rw [htype, hget], rfl⟩
  have hbuiltTypes : s.setUp.Types built.heap :=
    h.types.congr fun k hk => (h.run.heap_eq hk).symm
  refine runs_of_holds (hwritten.holds (.prog k _) _ rfl hy) (by simp [hindex]) fun i hi => ?_
  obtain ⟨group, hgroup, hof⟩ := group_of_index (r := (.progType k, s.setUp.type k)) htables hbuilt
    h.run (by simpa [groupIndex, hget] using hi)
  exact ⟨group, hgroup, isGeneral_of_groupOf hbuiltTypes hof⟩

/-- The record that a hit of a mesh in an instance selects. -/
theorem Invariant.runs_mesh (h : s.Invariant built) (hbuilt : built.Invariant)
    (hs : s.vkn.Invariant) (hmax : s.vkn.sbtRangeAllocator.maxAllocedID.toNat ≤ 2 ^ 24)
    {pl : VkPipeline} (htables : built.ShaderTables pl.stages pl.groups) {table : Table}
    (hwritten : s.vkn.TableWritten pl .hitGroups table) {group : SceneGroup}
    (hgroup : group ∈ s.groups) {inst : TransformedInstance}
    (hinst : InstanceOf s.vkn.heap inst group) {j : ℕ} {mesh : SceneMesh}
    (hmesh : group.meshes[j]? = some mesh) :
    Runs pl table (inst.hitRecord j) (IsMeshGroup pl) (bytes32 mesh.data.geomID) := by
  obtain ⟨-, accel, haccel, hoffset⟩ := hinst
  obtain ⟨⟨accel', haccel', hgeoms⟩, hmeshes⟩ := h.groups group hgroup
  obtain rfl := Option.some.inj (haccel.symm.trans haccel')
  have hgeom : accel.geoms[j]? = some (some mesh.vkn) := by
    rw [hgeoms, List.getElem?_map, hmesh, Option.map_some]
  have hj : j < accel.geoms.length := (List.getElem?_eq_some_iff.mp hgeom).1
  have hrecord := (hs.hitRecord_eq haccel hmax hoffset hj).1
  obtain ⟨gt, hgt, -⟩ := h.types.geomType
  have hy := Context.recordOf_geom.mpr ⟨accel, mesh.vkn, _, gt, haccel, hgeom,
    h.meshes mesh (hmeshes mesh (List.mem_of_getElem? hmesh)), hgt, rfl⟩
  have hbuiltTypes : s.setUp.Types built.heap :=
    h.types.congr fun k hk => (h.run.heap_eq hk).symm
  refine runs_of_holds (hwritten.holds (.geom group.vkn j) _ rfl hy) hrecord.symm fun i hi => ?_
  obtain ⟨g, hg, hof⟩ := group_of_index (r := (.geomType, s.setUp.meshGT)) htables hbuilt
    h.run (by simpa [groupIndex, hgt] using hi)
  exact ⟨g, hg, isMeshGroup_of_groupOf hbuiltTypes hof⟩

/-- The table is built, and a launch runs what it should. -/
theorem Invariant.traces (h : s.Invariant built) (hc : c.Reachable)
    (hbuild : Step .build c built)
    (hmax : s.vkn.sbtRangeAllocator.maxAllocedID.toNat ≤ 2 ^ 24) (mem : DeviceMemory)
    {o : Prog} (ho : s.vkn.heap (.prog .rayGen) (s.setUp.prog .rayGen) = some o) (nx ny : ℤ) :
    ∃ pl sbt, s.vkn.rtPipeline.pipeline = some pl ∧ s.vkn.buildSBT mem = some sbt ∧
      (∀ handle ∈ pl.handles,
        handle.length = s.vkn.rtPipeline.properties.shaderGroupHandleSize.toNat) ∧
      s.Traces pl o.data sbt
        (vknRayGenLaunch2D sbt (s.setUp.prog .rayGen) (s.setUp.prog .missProg) nx ny) := by
  obtain ⟨pl, hp, htables, hgroups⟩ := hbuild.build_spec hc.invariant
  have hbuilt := (hc.step hbuild).invariant
  have hs := (h.reachable hc hbuild).invariant
  have hp' := hp.run (h.run.mono fun _ hop => hop.keepsHandles)
  have hf := sbtSizesFit hbuild h.atBuild hp' hp.pipeline hgroups hs h.types h.programs hmax
  obtain ⟨sbt, hsbt, hwritten⟩ := Context.buildSBT_spec hs hp' h.sbtAssertions hf mem
  refine ⟨pl, sbt, hp'.pipeline, hsbt, hp'.size_eq, ⟨⟨rfl, ?_⟩, rfl, rfl,
    h.runs_prog hbuilt htables (hwritten.table (.progs .rayGen)) ho, ?_, fun model hmodel => ?_,
    fun model hmodel i inst group hinst hgroup => ?_⟩⟩
  · -- there is one ray generation program
    obtain ⟨m, -, hregion⟩ := Context.region_of_buildSBT hsbt (.progs .rayGen)
    have hregion' : sbt.rayGens.region = _ := hregion
    rw [hregion', Context.numRecords_progs, h.programs.elements]
    exact UInt64.one_mul _
  · obtain ⟨o', ho', -⟩ := h.programs.prog .missProg
    rw [← h.programs.missData o' ho']
    exact h.runs_prog hbuilt htables (hwritten.table (.progs .missProg)) ho'
  · exact (h.models model hmodel).1.length_eq
  · obtain ⟨hinstances, hmem⟩ := h.models model hmodel
    obtain ⟨hi, rfl⟩ := List.getElem?_eq_some_iff.mp hinst
    obtain ⟨hi', rfl⟩ := List.getElem?_eq_some_iff.mp hgroup
    have hof := (List.forall₂_iff_get.mp hinstances).2 i hi hi'
    exact ⟨hof.1, fun j mesh hmesh => h.runs_mesh hbuilt hs hmax htables
      (hwritten.table .hitGroups) (hmem _ (List.getElem_mem hi')) hof hmesh⟩

/-- What `vpTrace` does, with the sizes of the handles in the records. -/
theorem exists_trace (hs : s.Reachable)
    (hmax : s.vkn.sbtRangeAllocator.maxAllocedID.toNat ≤ 2 ^ 24)
    (world numRays arrayOfRays arrayOfHits padding : UInt64) (traceMode : TraceMode)
    (mem : DeviceMemory) :
    ∃ s' sbt call pl,
      s.vpTrace world numRays arrayOfRays arrayOfHits traceMode padding mem = some (s', sbt, call) ∧
      s'.models = s.models ∧ s'.vkn.rtPipeline = s.vkn.rtPipeline ∧
      s'.vkn.rtPipeline.pipeline = some pl ∧
      (∀ handle ∈ pl.handles,
        handle.length = s.vkn.rtPipeline.properties.shaderGroupHandleSize.toNat) ∧
      call.width = intOfSize numRays ∧ call.height = 1 ∧ call.depth = 1 ∧
      s'.Traces pl ((rayGenData world numRays arrayOfRays arrayOfHits traceMode).bytes padding)
        sbt call := by
  obtain ⟨c, built, hc, hbuild, h⟩ := hs.invariant
  unfold vpTrace
  generalize rayGenData world numRays arrayOfRays arrayOfHits traceMode = rg
  generalize intOfSize numRays = nx
  obtain ⟨o, ho, -, -, -, h'⟩ := h.setArguments (h.reachable hc hbuild).invariant rg padding
  obtain ⟨pl, sbt, hpl, hsbt, hsizes, htraces⟩ := h'.traces hc hbuild hmax mem
    (set_self s.vkn.heap (.prog .rayGen) (s.setUp.prog .rayGen) _) nx 1
  refine ⟨{ s with vkn := s.vkn.setProgData .rayGen o (rg.bytes padding) (s.setUp.prog .rayGen) },
    sbt, vknRayGenLaunch2D sbt (s.setUp.prog .rayGen) (s.setUp.prog .missProg) nx 1, pl, ?_, rfl,
    rfl, hpl, hsizes, rfl, rfl, rfl, htraces⟩
  simp only [ho, hsbt, Option.bind_eq_bind, Option.bind_some, Option.pure_def]

/-- Whether there is such a device decides alone whether a context is made: its programs are
in order, and its pipeline is built. -/
theorem vpContextCreate_isSome_iff (driver : VkDriver) (gpuToUse : Int32) (p : SetUp)
    (properties : LogicalDevice → PipelineProperties) (handle : ℕ) (vk : PipelineMaker)
    (memory : DeviceHeap) :
    (vpContextCreate driver gpuToUse p properties handle vk memory).isSome ↔
      gpuToUse.toUInt32.toNat < (matching driver VKN_DEVICE_TYPE_DEFAULT).length := by
  rw [vpContextCreate, vknInitialize_eq]
  split_ifs with hnone
  · -- no device at all
    have hlength : (matching driver VKN_DEVICE_TYPE_DEFAULT).length = 0 := by
      rw [List.length_eq_zero_iff, List.eq_nil_iff_forall_not_mem]
      intro d hd
      have henumerated := (mem_matching.mp hd).1
      simp [VkDriver.enumerated, hnone] at henumerated
    simp [hlength]
  · simp only [Option.bind_eq_bind, Option.bind_some, vknDeviceGet]
    constructor
    · intro h
      obtain ⟨s₀, h⟩ := Option.isSome_iff_exists.mp h
      obtain ⟨device, hdevice, -⟩ := Option.bind_eq_some_iff.mp h
      simpa using (List.getElem?_eq_some_iff.mp hdevice).1
    · intro hlt
      rw [List.getElem?_map, List.getElem?_eq_getElem hlt, Option.map_some, Option.bind_some]
      obtain ⟨c, hc, -⟩ := p.exists_programs
        (properties ⟨(matching driver VKN_DEVICE_TYPE_DEFAULT)[gpuToUse.toUInt32.toNat]⟩) handle
      obtain ⟨built, hbuilt, -⟩ := SetUp.build_spec hc vk
      simp only [hc, hbuilt, Option.bind_some, Option.pure_def, Option.isSome_some]

/-- The ID that `prime.h` documents for the CPU is that of no device. -/
theorem vpContextCreate_cpu (driver : VkDriver) (p : SetUp)
    (properties : LogicalDevice → PipelineProperties) (handle : ℕ) (vk : PipelineMaker)
    (memory : DeviceHeap) : vpContextCreate driver (-1) p properties handle vk memory = none := by
  have hlt := length_matching_lt driver VKN_DEVICE_TYPE_DEFAULT
  have hID : (-1 : Int32).toUInt32.toNat = 2 ^ 32 - 1 := by decide
  have hnot := (vpContextCreate_isSome_iff driver (-1) p properties handle vk memory).not.mpr
    (by rw [hID]; omega)
  exact Option.not_isSome_iff_eq_none.mp hnot

/-- Whether the buffers of a mesh can be made decides alone whether the mesh is. -/
theorem Invariant.vpMeshCreate_isSome_iff (h : s.Invariant built) (vma : DeviceAllocator)
    (userGeomID : UInt64) (arguments : Triangles.MeshArguments) (g : Ptr) :
    (s.vpMeshCreate vma userGeomID arguments g).isSome ↔
      (Triangles.vpMeshCreate vma s.device arguments).isSome := by
  obtain ⟨gt, hgt, -⟩ := h.types.geomType
  cases htriangles : Triangles.vpMeshCreate vma s.device arguments with
  | none => simp [vpMeshCreate, htriangles]
  | some r =>
    simp only [vpMeshCreate, htriangles, hgt, Context.newGeom, Context.setObj, set_self,
      Option.bind_eq_bind, Option.bind_some, Option.pure_def, Option.isSome_some]

/-- A model of groups that were made can be made while there are SBT entries. -/
theorem Invariant.vpModelCreate_isSome (h : s.Invariant built) (hc : c.Reachable)
    (hbuild : Step .build c built) {groups : List SceneGroup} (xfms : Option (List VPTransform))
    {ia : Ptr} (mem : DeviceMemory) (hgroups : ∀ group ∈ groups, group ∈ s.groups)
    (halloc : s.vkn.CanAllocEntries groups.length) (hia : s.vkn.heap .instanceAccel ia = none)
    (hmax : (Context.allocEntries s.vkn.sbtRangeAllocator
      (UInt64.ofNat groups.length)).2.maxAllocedID.toNat ≤ 2 ^ 24) :
    (s.vpModelCreate groups xfms ia mem).isSome := by
  obtain ⟨m, hm, h'⟩ := h.createModel xfms hgroups halloc hia
  obtain ⟨o, ho, -⟩ := h'.programs.prog .rayGen
  have hmax' : m.context.sbtRangeAllocator.maxAllocedID.toNat ≤ 2 ^ 24 := by
    obtain ⟨accel, -, hm⟩ := Option.bind_eq_some_iff.mp hm
    obtain ⟨instances, -, hm⟩ := Option.bind_eq_some_iff.mp hm
    obtain rfl := Option.some.inj hm
    simpa only [Context.newInstanceAccel, List.length_map] using hmax
  obtain ⟨pl, sbt, -, hsbt, -, -⟩ := h'.traces hc hbuild hmax' mem ho 1 1
  simp only [vpModelCreate, hm, Option.bind_eq_bind, Option.bind_some, hsbt, Option.pure_def,
    Option.isSome_some]

/-- **Which calls go through**, Vulkan's own calls succeeding.  A context is made exactly if
`gpuToUse`, as a `uint32_t`, is the number of a device that matches.  In every scene that
calls lead to, a mesh whose counts are `int`s and for which VMA has room is made exactly if
the strides are those of the assertions and there are vertices and triangles, and a model of
groups that were made is made while there are SBT entries. -/
theorem calls_iff :
    (∀ driver gpuToUse p properties handle vk memory,
        (vpContextCreate driver gpuToUse p properties handle vk memory).isSome ↔
          gpuToUse.toUInt32.toNat < (matching driver VKN_DEVICE_TYPE_DEFAULT).length) ∧
      ∀ s : Scene, s.Reachable →
        (∀ vma userGeomID (arguments : Triangles.MeshArguments) g, Triangles.CountsFit arguments →
          vma.HasRoom s.device.buffers
            (12 * max arguments.numVertices.toNat arguments.numTriangles.toNat) →
          ((s.vpMeshCreate vma userGeomID arguments g).isSome ↔
            (arguments.sizeOfVertexInBytes = Triangles.sizeofFloat3 ∧
                arguments.sizeOfIndexStructInBytes = Triangles.sizeofInt3) ∧
              0 < arguments.numVertices.toNat ∧ 0 < arguments.numTriangles.toNat)) ∧
        ∀ groups xfms ia mem, (∀ group ∈ groups, group ∈ s.groups) →
          s.vkn.CanAllocEntries groups.length → s.vkn.heap .instanceAccel ia = none →
          (Context.allocEntries s.vkn.sbtRangeAllocator
            (UInt64.ofNat groups.length)).2.maxAllocedID.toNat ≤ 2 ^ 24 →
          (s.vpModelCreate groups xfms ia mem).isSome := by
  refine ⟨vpContextCreate_isSome_iff, fun s hs => ?_⟩
  obtain ⟨c, built, hc, hbuild, h⟩ := hs.invariant
  refine ⟨fun vma userGeomID arguments g hfit hroom => ?_,
    fun groups xfms ia mem hgroups halloc hia hmax =>
      h.vpModelCreate_isSome hc hbuild xfms mem hgroups halloc hia hmax⟩
  rw [h.vpMeshCreate_isSome_iff, Triangles.vpMeshCreate_isSome_iff hfit hroom]

/-! ## A sample scene -/

/-- Some addresses. -/
def sampleSetUp : SetUp where
  sm := 1
  meshGT := 2
  ch := 3
  ah := 4
  program
    | .missProg => 5
    | .rayGen => 8
  type
    | .missProg => 6
    | .rayGen => 9
  prog
    | .missProg => 7
    | .rayGen => 10
  nodup := by decide

/-- Handles full of zeros. -/
def sampleMaker : PipelineMaker where
  handles properties groups := List.replicate groups.length
    (List.replicate properties.shaderGroupHandleSize.toNat 0)
  isGroupHandles _ _ := ⟨List.length_replicate, fun h hh => by
    rw [List.eq_of_mem_replicate hh, List.length_replicate]⟩

/-- A driver with one device, which can do ray tracing. -/
def sampleDriver : VkDriver where
  physicalHandles := [⟨"gpu", .DiscreteGPU, PhysicalDevice.rtExtensions⟩]
  numGPUs_lt := by decide

/-- A new context. -/
def sampleCreated : Scene where
  setUp := sampleSetUp
  vkn := (vknBuildPipeline ((sampleSetUp.programs Context.sampleProperties 11).get (by decide))
    sampleMaker).get (by decide)
  device := Triangles.sampleDevice

theorem vpContextCreate_sample : vpContextCreate sampleDriver 0 sampleSetUp
    (fun _ => Context.sampleProperties) 11 sampleMaker Triangles.sampleDevice =
      some sampleCreated := by
  have hmatching : 0 < (matching sampleDriver VKN_DEVICE_TYPE_DEFAULT).length := by
    refine List.length_pos_of_mem (a := .new 0 ⟨"gpu", .DiscreteGPU, PhysicalDevice.rtExtensions⟩)
      (mem_matching.mpr ⟨List.mem_singleton.mpr rfl, ?_, by decide⟩)
    exact List.all_eq_true.mpr fun ext hext => List.contains_iff_mem.mpr hext
  have hdevice := List.getElem?_eq_getElem
    (show 0 < ((matching sampleDriver VKN_DEVICE_TYPE_DEFAULT).map LogicalDevice.mk).length by
      rwa [List.length_map])
  have hsome : sampleDriver.physicalHandles ≠ [] := List.cons_ne_nil _ _
  rw [vpContextCreate, vknInitialize_eq, if_neg hsome]
  have hID : (0 : Int32).toUInt32.toNat = 0 := rfl
  simp only [Option.bind_eq_bind, Option.bind_some, vknDeviceGet, hID, hdevice]
  rfl

/-- The same with a mesh, in a group. -/
def sampleGrouped : Scene :=
  let s := (sampleCreated.vpMeshCreate Triangles.sampleAllocator 42 Triangles.sampleTriangle 20).get
    (by decide)
  s.vpGroupCreate s.meshes 30

/-- The same with a model of the group. -/
def sampleModelled : Scene :=
  (sampleGrouped.vpModelCreate sampleGrouped.groups none 40 Context.sampleMemory).get
    (by decide +kernel)

theorem sampleModelled_reachable : sampleModelled.Reachable := by
  refine ⟨sampleDriver, 0, sampleSetUp, _, 11, sampleMaker, _, sampleCreated,
    vpContextCreate_sample, ?_⟩
  have hmesh : SceneStep sampleCreated ((sampleCreated.vpMeshCreate Triangles.sampleAllocator 42
      Triangles.sampleTriangle 20).get (by decide)) :=
    .meshCreate _ _ _ 42 _ 20 (by decide) (Option.some_get _).symm
  have hgroup : SceneStep _ sampleGrouped :=
    .groupCreate ((sampleCreated.vpMeshCreate Triangles.sampleAllocator 42
      Triangles.sampleTriangle 20).get (by decide)) _ 30 (fun _ h => h)
      ⟨by decide, fun _ _ => by decide⟩ (by decide)
  have hmodel : SceneStep sampleGrouped sampleModelled :=
    .modelCreate _ _ sampleGrouped.groups none 40 Context.sampleMemory (fun _ h => h)
      ⟨by decide, fun _ _ => by decide⟩ (by decide) (Option.some_get _).symm
  exact ((Relation.ReflTransGen.single hmesh).tail hgroup).tail hmodel

end Scene

end Vulkanite.Prime
