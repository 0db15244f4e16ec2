/-
# Runs of a prime context

A `Scene` changes in four ways only: a mesh, a group or a model is made, or rays are
traced.  The pipeline is built once, before any of that, and `buildSBT` runs again and
again with whatever geometry there is by then.

`Scene.Invariant` links the meshes, groups and models that were made to the objects of the
context, and the context to the one whose pipeline was built.  From it `vpTrace_spec`
derives what a launch runs: `traceRays` with the arguments of the call, `missProg` for a
miss, and for a hit of a mesh in an instance the two hit programs, with the ID of that
mesh.

The buffers of the meshes and what Vulkan reads of them are `MeshTriangles`; every run of a
scene is a run of these as well (`Scene.Reachable.meshScene`).
-/
import Vulkanite.PipelineBuilds
import Vulkanite.PrimeContext

namespace Vulkanite.Prime

open Vulkanite (Context)
open TypedHeap
open Context (Step)

/-! ## The set-up -/

section Calls

variable {c c' : Context} {m q : Ptr} {e : String}

/-- The other programs that `ShaderModule::get` leaves out. -/
theorem get_shaderProgram_eq_none {mod : ShaderModule} {stage : ShaderStage} {q' : Ptr}
    (hne : q' ≠ q) (hq' : c.heap .shaderProgram q' = none) :
    (c.get m mod e stage q).2.heap .shaderProgram q' = none := by
  unfold Context.get
  split
  · exact hq'
  · have hmodule : (ObjectKind.shaderProgram) ≠ .shaderModule := by decide
    simp only [Context.setObj, Context.newShaderProgram]
    rw [set_of_kind_ne _ _ _ hmodule, set_of_ptr_ne _ _ _ hne]
    exact hq'

theorem vknGeomTypeSetProg_spec {role : HitRole} {t : Ptr}
    (h : vknGeomTypeSetProg c role t m e q = some c') (hq : c.heap .shaderProgram q = none) :
    Step .setHitProg c c' ∧
      ∀ q' ≠ q, c.heap .shaderProgram q' = none → c'.heap .shaderProgram q' = none := by
  obtain ⟨gt, ht, h⟩ := Option.bind_eq_some_iff.mp h
  obtain ⟨mod, hm, h⟩ := Option.bind_eq_some_iff.mp h
  obtain rfl := Option.some.inj h
  refine ⟨.setHitProg c t gt role m mod e q ht hm hq, fun q' hne hq' => ?_⟩
  have hkind : (ObjectKind.shaderProgram) ≠ .geomType := by decide
  rw [Context.setHitProg, Context.setObj]
  dsimp only
  rw [set_of_kind_ne _ _ _ hkind]
  exact get_shaderProgram_eq_none hne hq'

theorem vknProgCreate_spec {k : ProgKind} {sizeOfData : UInt64} {t p : Ptr}
    (h : vknProgCreate c k m e sizeOfData q t p = some c') (hc : c.Reachable)
    (hq : c.heap .shaderProgram q = none) (ht : c.heap (.progType k) t = none)
    (hp : c.heap (.prog k) p = none) :
    c'.Reachable ∧
      (∀ q' ≠ q, c.heap .shaderProgram q' = none → c'.heap .shaderProgram q' = none) ∧
      ∀ k', k' ∉ [.shaderModule, .shaderProgram, .progType k, .prog k] →
        c'.heap k' = c.heap k' := by
  obtain ⟨mod, hm, h⟩ := Option.bind_eq_some_iff.mp h
  obtain ⟨type, htype, h⟩ := Option.bind_eq_some_iff.mp h
  obtain rfl := Option.some.inj h
  have hnew := Step.newProgType c k m mod e sizeOfData q t hm hq ht
  refine ⟨(hc.step hnew).step (.newProg _ k t type p htype ?_), fun q' hne hq' => ?_,
    fun k' hne => ?_⟩
  · rw [hnew.heap_frame (by cases k <;> decide)]
    exact hp
  · exact get_shaderProgram_eq_none hne hq'
  · simp only [List.mem_cons, List.not_mem_nil, or_false, not_or] at hne
    obtain ⟨hmodule, hprogram, htypes, hprogs⟩ := hne
    exact (set_of_kind_ne _ _ _ hprogs).trans ((set_of_kind_ne _ _ _ htypes).trans
      (Context.get_heap_of_ne _ _ _ _ _ _ hmodule hprogram))

end Calls

namespace SetUp

variable {p : SetUp} {c : Context} {properties : PipelineProperties} {handle : ℕ}

/-- The set-up is a run of the context. -/
theorem reachable_of_programs (h : p.programs properties handle = some c) : c.Reachable := by
  obtain ⟨⟨hne₁, hne₂, hne₃⟩, ⟨hne₄, hne₅⟩, hne₆⟩ := by simpa using p.nodup
  have h₀ : Context.Reachable { rtPipeline := { properties } } := ⟨properties, .refl⟩
  have h₁ := h₀.step (.newShaderModule _ handle p.sm rfl)
  have h₂ := h₁.step (.newGeomType _ .TRIANGLES sizeofTrianglesGeomData p.meshGT rfl)
  obtain ⟨c₃, hc₃, h⟩ := Option.bind_eq_some_iff.mp h
  obtain ⟨c₄, hc₄, h⟩ := Option.bind_eq_some_iff.mp h
  obtain ⟨c₅, hc₅, h⟩ := Option.bind_eq_some_iff.mp h
  obtain ⟨hstep₃, hfresh₃⟩ := vknGeomTypeSetProg_spec hc₃ rfl
  obtain ⟨hstep₄, hfresh₄⟩ := vknGeomTypeSetProg_spec hc₄ (hfresh₃ _ (Ne.symm hne₁) rfl)
  have hframe : ∀ k : ObjectKind, k ∉ Op.setHitProg.touches → c₄.heap k = _ := fun k hk =>
    (hstep₄.heap_frame hk).trans (hstep₃.heap_frame hk)
  obtain ⟨h₅, hfresh₅, hkinds⟩ := vknProgCreate_spec hc₅ ((h₂.step hstep₃).step hstep₄)
    (hfresh₄ _ (Ne.symm hne₄) (hfresh₃ _ (Ne.symm hne₂) rfl))
    (by rw [hframe _ (by decide)]; rfl) (by rw [hframe _ (by decide)]; rfl)
  refine (vknProgCreate_spec h h₅ (hfresh₅ _ (Ne.symm hne₆) ?_) ?_ ?_).1
  · exact hfresh₄ _ (Ne.symm hne₅) (hfresh₃ _ (Ne.symm hne₃) rfl)
  · rw [hkinds _ (by decide), hframe _ (by decide)]
    rfl
  · rw [hkinds _ (by decide), hframe _ (by decide)]
    rfl

end SetUp

/-- There is a program with an entry point. -/
def HasEntryPoint (h : Heap) (q : Ptr) (entryPoint : String) : Prop :=
  ∃ o, h .shaderProgram q = some o ∧ o.entryPoint = entryPoint

/-- The types of a prime context, and the programs that they hold. -/
structure SetUp.Types (p : SetUp) (h : Heap) : Prop where
  geomType : ∃ gt, h .geomType p.meshGT = some gt ∧ gt.kind = .TRIANGLES ∧
    gt.dataSize = sizeofTrianglesGeomData ∧ gt.ch = some p.ch ∧ gt.ah = some p.ah
  ch : HasEntryPoint h p.ch "TriangleMesh_CH"
  ah : HasEntryPoint h p.ah "TriangleMesh_AH"
  progType : ∀ k, ∃ type, h (.progType k) (p.type k) = some type ∧
    type.dataSize = sizeOfData k ∧ type.program = p.program k
  program : ∀ k, HasEntryPoint h (p.program k) (entryPoint k)

/-- The ray generation program and the miss program of a prime context, and what the
pipeline keeps track of. -/
structure SetUp.Programs (p : SetUp) (c : Context) : Prop where
  prog : ∀ k, ∃ o, c.heap (.prog k) (p.prog k) = some o ∧ o.type = p.type k ∧ o.sbtIndex = 0
  elements : ∀ k, (c.rtPipeline.progs k).elements = [some (p.prog k)]
  progTypes : ∀ k, (c.rtPipeline.progTypes k).toList = [p.type k]
  geomTypes : c.rtPipeline.geomTypes.toList = [p.meshGT]
  missData : ∀ o, c.heap (.prog .missProg) (p.prog .missProg) = some o →
    o.data = List.replicate sizeofMissProgData.toNat 0

/-- The set-up makes what it should, and no accels. -/
theorem SetUp.exists_programs (p : SetUp) (properties : PipelineProperties) (handle : ℕ) :
    ∃ c, p.programs properties handle = some c ∧ p.Types c.heap ∧ p.Programs c ∧
      ∀ a, c.heap .geomAccel a = none := by
  obtain ⟨⟨hne₁, hne₂, hne₃⟩, ⟨hne₄, hne₅⟩, hne₆⟩ := by simpa using p.nodup
  -- every call finds what the calls before it made
  simp +decide only [SetUp.programs, vknGeomTypeSetProg, vknProgCreate, Context.newShaderModule,
    Context.newGeomType, Context.setObj, Context.get, Context.newShaderProgram,
    Context.setHitProg, Context.newProgType, Context.newProg, TypedHeap.set,
    Function.update_self, Function.update_of_ne, ne_eq, Option.bind_eq_bind, Option.bind_some,
    Option.pure_def, GeomType.setProg, HitRole.stage, ProgKind.stage]
  refine ⟨_, rfl, ⟨?_, ?_, ?_, fun k => ?_, fun k => ?_⟩,
    ⟨fun k => ?_, fun k => ?_, fun k => ?_, ?_, ?_⟩, ?_⟩
  · simp
  · simp [HasEntryPoint, *]
  · simp [HasEntryPoint, *]
  · cases k <;> simp
  · cases k <;> simp [HasEntryPoint, *]
  · cases k
    · simp
      rfl
    · simp
      rfl
  · cases k <;> rfl
  · cases k <;> rfl
  · rfl
  · rintro o ho
    simp only [Function.update_self, ne_eq, reduceCtorEq, not_false_eq_true,
      Function.update_of_ne, ObjectKind.prog.injEq, Option.some.injEq] at ho
    rw [← ho]
    rfl
  · simp

/-! ## The pipeline -/

/-- The build stores indices, and nothing else, in the types and programs. -/
theorem SetUp.Types.sameButIndices {p : SetUp} {h h' : Heap} (hp : p.Types h)
    (hs : SameButIndices h h') : p.Types h' := by
  have hnamed : ∀ q e, HasEntryPoint h q e → HasEntryPoint h' q e := by
    rintro q e ⟨o, ho, rfl⟩
    obtain ⟨o', ho', herase⟩ := hs.symm.get ho
    exact ⟨o', ho', (eraseIndex_shaderProgram herase).1⟩
  refine ⟨?_, hnamed _ _ hp.ch, hnamed _ _ hp.ah, fun k => ?_, fun k => hnamed _ _ (hp.program k)⟩
  · obtain ⟨gt, hgt, hkind, hsize, hch, hah⟩ := hp.geomType
    obtain ⟨gt', hgt', herase⟩ := hs.symm.get hgt
    simp only [eraseIndex, GeomType.mk.injEq] at herase
    obtain ⟨hkind', hsize', -, hch', hah', -⟩ := herase
    exact ⟨gt', hgt', hkind'.trans hkind, hsize'.trans hsize, hch'.trans hch, hah'.trans hah⟩
  · obtain ⟨type, htype, hsize, hprogram⟩ := hp.progType k
    obtain ⟨type', htype', herase⟩ := hs.symm.get htype
    obtain ⟨hsize', hprogram'⟩ := eraseIndex_progType herase
    exact ⟨type', htype', hsize'.trans hsize, hprogram'.trans hprogram⟩

/-- The types and programs are the same in a context with the same types and programs. -/
theorem SetUp.Types.congr {p : SetUp} {h h' : Heap} (hp : p.Types h)
    (heq : ∀ k ∈ typeKinds, h' k = h k) : p.Types h' := by
  have hprogram := heq .shaderProgram (by decide)
  have hprogType : ∀ k, h' (.progType k) = h (.progType k) := fun k =>
    heq _ (by cases k <;> decide)
  have hgeomType := heq .geomType (by decide)
  have hnamed : ∀ q e, HasEntryPoint h' q e ↔ HasEntryPoint h q e := fun q e => by
    rw [HasEntryPoint, hprogram, HasEntryPoint]
  refine ⟨?_, (hnamed _ _).mpr hp.ch, (hnamed _ _).mpr hp.ah, fun k => ?_,
    fun k => (hnamed _ _).mpr (hp.program k)⟩
  · rw [hgeomType]
    exact hp.geomType
  · rw [hprogType]
    exact hp.progType k

/-- The only geometry type is that of the meshes. -/
theorem SetUp.Programs.geomType_eq {p : SetUp} {c : Context} (hp : p.Programs c)
    (h : c.Invariant) {t : Ptr} (ht : (c.heap .geomType t).isSome) : t = p.meshGT := by
  have hmem : t ∈ c.rtPipeline.geomTypes.toList := (h.geomTypes t).mpr ht
  rw [hp.geomTypes] at hmem
  exact List.mem_singleton.mp hmem

/-- What the build of a prime context leaves behind. -/
theorem SetUp.build_spec {p : SetUp} {properties : PipelineProperties} {handle : ℕ} {c : Context}
    (hc : p.programs properties handle = some c) (vk : PipelineMaker) :
    ∃ built, vknBuildPipeline c vk = some built ∧ Step .build c built ∧ p.Types built.heap ∧
      p.Programs built ∧ ∀ a, built.heap .geomAccel a = none := by
  obtain ⟨c', hc', htypes, hprograms, haccels⟩ := p.exists_programs properties handle
  obtain rfl : c' = c := Option.some.inj (hc'.symm.trans hc)
  have h := (reachable_of_programs hc).invariant
  have hgroups : c'.HasGroups := fun t gt hgt => by
    obtain rfl := hprograms.geomType_eq h (Option.isSome_of_eq_some hgt)
    obtain ⟨gt', hgt', hkind, -⟩ := htypes.geomType
    obtain rfl := Option.some.inj (hgt'.symm.trans hgt)
    exact Or.inl hkind
  obtain ⟨hsame, ⟨stages, groups⟩, hok⟩ :=
    h.gatherPrograms_completes hgroups c'.heap (SameButIndices.refl c'.heap)
  have hrun : c'.gatherPrograms = (.ok (stages, groups), c'.gatherPrograms.2) := Prod.ext hok rfl
  have hstep : Step .build c' (c'.gatherPrograms.2.finishBuild stages groups
      (vk.handles c'.gatherPrograms.2.rtPipeline.properties groups)) :=
    .build _ _ _ _ _ hrun (vk.isGroupHandles _ _)
  refine ⟨_, ?_, hstep, htypes.sameButIndices hsame, ⟨fun k => ?_, hprograms.elements,
    hprograms.progTypes, hprograms.geomTypes, ?_⟩, ?_⟩
  · rw [vknBuildPipeline, hrun]
  · rw [hstep.heap_frame (by cases k <;> decide)]
    exact hprograms.prog k
  · rw [hstep.heap_frame (by decide)]
    exact hprograms.missData
  · rw [hstep.heap_frame (by decide)]
    exact haccels

/-! ## Steps -/

/-- What a prime context does: meshes, groups and models are made from what was made
before, each at a free address, and rays are traced.  The SBT entries stay within `int`.
Other buffers than those of the meshes come and go. -/
inductive SceneStep : Scene → Scene → Prop
  | meshCreate (s s' : Scene) (vma : DeviceAllocator) (userGeomID : UInt64)
      (arguments : Triangles.MeshArguments) (g : Ptr) (hg : s.vkn.heap .geom g = none)
      (hstep : s.vpMeshCreate vma userGeomID arguments g = some s') : SceneStep s s'
  | groupCreate (s : Scene) (meshes : List SceneMesh) (a : Ptr)
      (hmeshes : ∀ mesh ∈ meshes, mesh ∈ s.meshes)
      (halloc : s.vkn.CanAllocEntries meshes.length) (ha : s.vkn.heap .geomAccel a = none) :
      SceneStep s (s.vpGroupCreate meshes a)
  | modelCreate (s s' : Scene) (groups : List SceneGroup) (xfms : Option (List VPTransform))
      (ia : Ptr) (mem : DeviceMemory) (hgroups : ∀ group ∈ groups, group ∈ s.groups)
      (halloc : s.vkn.CanAllocEntries groups.length) (hia : s.vkn.heap .instanceAccel ia = none)
      (hstep : s.vpModelCreate groups xfms ia mem = some s') : SceneStep s s'
  | trace (s s' : Scene) (world numRays arrayOfRays arrayOfHits : UInt64) (traceMode : TraceMode)
      (padding : UInt64) (mem : DeviceMemory) (sbt : SBT) (call : TraceRays)
      (hstep : s.vpTrace world numRays arrayOfRays arrayOfHits traceMode padding mem =
        some (s', sbt, call)) : SceneStep s s'
  | other (s : Scene) (device : DeviceHeap)
      (hkept : ∀ mesh ∈ s.meshes, mesh.triangles.Kept s.device device) :
      SceneStep s { s with device }

/-- The scenes of the runs from a new prime context. -/
def Scene.Reachable (s : Scene) : Prop :=
  ∃ driver gpuToUse p properties handle vk memory s₀,
    vpContextCreate driver gpuToUse p properties handle vk memory = some s₀ ∧
      Relation.ReflTransGen SceneStep s₀ s

/-! ## The invariant -/

/-- The geometries of an accel are those of the meshes. -/
def HoldsMeshes (h : Heap) (a : Ptr) (meshes : List SceneMesh) : Prop :=
  ∃ accel, h .geomAccel a = some accel ∧ accel.geoms = meshes.map fun mesh => some mesh.vkn

/-- The instance refers to the accel of the group, and its offset is the begin of the
entries of that accel. -/
def InstanceOf (h : Heap) (inst : TransformedInstance) (group : SceneGroup) : Prop :=
  inst.accelerationStructureReference = group.vkn ∧
    ∃ accel, h .geomAccel group.vkn = some accel ∧
      inst.instanceShaderBindingTableRecordOffset = (accel.sbtEntryBegin % 2 ^ 24).toNat

/-- What holds of a scene between calls; `built` is the context when its pipeline was
built. -/
structure Scene.Invariant (built : Context) (s : Scene) : Prop where
  run : Context.Run (Op.Keeps typeKinds) built s.vkn
  atBuild : s.setUp.Programs built
  types : s.setUp.Types s.vkn.heap
  programs : s.setUp.Programs s.vkn
  meshes : ∀ mesh ∈ s.meshes, s.vkn.heap .geom mesh.vkn =
    some { type := s.setUp.meshGT, data := bytes32 mesh.data.geomID }
  geomIDs : ∀ mesh ∈ s.meshes, mesh.toMesh = Records.vpMeshCreate mesh.userGeomID
  groups : ∀ group ∈ s.groups, HoldsMeshes s.vkn.heap group.vkn group.meshes ∧
    ∀ mesh ∈ group.meshes, mesh ∈ s.meshes
  accels : ∀ a accel, s.vkn.heap .geomAccel a = some accel → none ∉ accel.geoms
  models : ∀ model ∈ s.models, List.Forall₂ (InstanceOf s.vkn.heap) model.instances model.groups ∧
    ∀ group ∈ model.groups, group ∈ s.groups

namespace Scene

variable {built : Context} {s s' : Scene}

/-- A new mesh has the buffers and the ID that the two halves of `vpMeshCreate` give it, and
a geometry of its own, with its ID as the data. -/
theorem vpMeshCreate_spec (htypes : s.setUp.Types s.vkn.heap) {vma : DeviceAllocator}
    {userGeomID : UInt64} {arguments : Triangles.MeshArguments} {g : Ptr}
    (hg : s.vkn.heap .geom g = none) (h : s.vpMeshCreate vma userGeomID arguments g = some s') :
    ∃ (mesh : SceneMesh) (device : DeviceHeap) (c₁ c' : Context),
      s' = { s with vkn := c', device, meshes := mesh :: s.meshes } ∧ mesh.vkn = g ∧
      mesh.arguments = arguments ∧
      Triangles.vpMeshCreate vma s.device arguments = some (mesh.triangles, device) ∧
      mesh.toMesh = Records.vpMeshCreate mesh.userGeomID ∧ mesh.userGeomID = userGeomID ∧
      Step .newGeom s.vkn c₁ ∧ Step .setGeomData c₁ c' ∧
      c'.rtPipeline = s.vkn.rtPipeline ∧
      c'.heap = set s.vkn.heap .geom g
        (some { type := s.setUp.meshGT, data := bytes32 mesh.data.geomID }) := by
  obtain ⟨gt, hgt, hkind, hsize, -⟩ := htypes.geomType
  obtain ⟨⟨triangles, device⟩, htriangles, h⟩ := Option.bind_eq_some_iff.mp h
  obtain ⟨type, htype, h⟩ := Option.bind_eq_some_iff.mp h
  obtain ⟨o, ho, h⟩ := Option.bind_eq_some_iff.mp h
  obtain rfl := Option.some.inj (hgt.symm.trans htype)
  have hdata : o = { type := s.setUp.meshGT, data := List.replicate gt.dataSize.toNat 0 } := by
    simp only [Context.newGeom, Context.setObj, set_self, Option.some.injEq] at ho
    exact ho.symm
  refine ⟨{ Records.vpMeshCreate userGeomID with vkn := g, triangles, userGeomID, arguments },
    device, _, _, (Option.some.inj h).symm, rfl, rfl, htriangles, rfl, rfl,
    .newGeom _ _ gt g htype (by rw [hkind]; decide) hg, .setGeomData _ o _ g ho ?_, rfl, ?_⟩
  · rw [hdata, List.length_replicate, hsize]
    rfl
  · simp only [Context.setGeomData, Context.newGeom, Context.setObj, TypedHeap.set,
      Function.update_self, Function.update_idem, hdata]

end Scene

/-- What another context keeps of the programs. -/
theorem SetUp.Programs.congr {p : SetUp} {c c' : Context} (hp : p.Programs c)
    (hheap : ∀ k, c'.heap (.prog k) = c.heap (.prog k))
    (hprogs : c'.rtPipeline.progs = c.rtPipeline.progs)
    (hprogTypes : c'.rtPipeline.progTypes = c.rtPipeline.progTypes)
    (hgeomTypes : c'.rtPipeline.geomTypes = c.rtPipeline.geomTypes) : p.Programs c' where
  prog := fun k => by
    rw [hheap]
    exact hp.prog k
  elements := by
    rw [hprogs]
    exact hp.elements
  progTypes := by
    rw [hprogTypes]
    exact hp.progTypes
  geomTypes := by
    rw [hgeomTypes]
    exact hp.geomTypes
  missData := by
    rw [hheap]
    exact hp.missData

/-- The objects of a class are still there. -/
def Grows (h h' : Heap) (k : ObjectKind) : Prop := ∀ p o, h k p = some o → h' k p = some o

theorem grows_of_eq {h h' : Heap} {k : ObjectKind} (heq : h' k = h k) : Grows h h' k :=
  fun p o ho => by rw [heq, ho]

theorem grows_set {h h' : Heap} {k : ObjectKind} {p : Ptr} {o : Option (Obj k)}
    (hp : h k p = none) (heq : h' = set h k p o) : Grows h h' k := fun q o' ho' => by
  rw [heq]
  exact set_eq_some_of_none hp ho' o

namespace Scene.Invariant

variable {built : Context} {s : Scene}

/-- A run that makes objects and destroys none keeps what was made before. -/
theorem extend (h : s.Invariant built) {c' : Context}
    (hrun : Context.Run (Op.Keeps typeKinds) built c') (hprograms : s.setUp.Programs c')
    (hgeom : Grows s.vkn.heap c'.heap .geom) (haccel : Grows s.vkn.heap c'.heap .geomAccel)
    (haccels : ∀ a accel, c'.heap .geomAccel a = some accel → none ∉ accel.geoms) :
    Scene.Invariant built { s with vkn := c' } where
  run := hrun
  atBuild := h.atBuild
  types := h.types.congr fun k hk => (hrun.heap_eq hk).trans (h.run.heap_eq hk).symm
  programs := hprograms
  meshes := fun mesh hmesh => hgeom _ _ (h.meshes mesh hmesh)
  geomIDs := h.geomIDs
  groups := fun group hgroup => by
    obtain ⟨⟨accel, haccel', hgeoms⟩, hmeshes⟩ := h.groups group hgroup
    exact ⟨⟨accel, haccel _ _ haccel', hgeoms⟩, hmeshes⟩
  accels := haccels
  models := fun model hmodel => by
    obtain ⟨hinstances, hgroups⟩ := h.models model hmodel
    refine ⟨hinstances.imp fun inst group => ?_, hgroups⟩
    rintro ⟨href, accel, haccel', hoffset⟩
    exact ⟨href, accel, haccel _ _ haccel', hoffset⟩

/-- The invariant is about no device memory. -/
theorem withDevice (h : s.Invariant built) (device : DeviceHeap) :
    Scene.Invariant built { s with device } := { h with }

theorem addMesh (h : s.Invariant built) {mesh : SceneMesh}
    (hmesh : s.vkn.heap .geom mesh.vkn =
      some { type := s.setUp.meshGT, data := bytes32 mesh.data.geomID })
    (hgeomID : mesh.toMesh = Records.vpMeshCreate mesh.userGeomID) :
    Scene.Invariant built { s with meshes := mesh :: s.meshes } :=
  { h with
    meshes := List.forall_mem_cons.mpr ⟨hmesh, h.meshes⟩
    geomIDs := List.forall_mem_cons.mpr ⟨hgeomID, h.geomIDs⟩
    groups := fun group hgroup => ⟨(h.groups group hgroup).1, fun mesh' hmesh' =>
      List.mem_cons_of_mem _ ((h.groups group hgroup).2 mesh' hmesh')⟩ }

theorem addGroup (h : s.Invariant built) (group : SceneGroup)
    (hgroup : HoldsMeshes s.vkn.heap group.vkn group.meshes)
    (hmeshes : ∀ mesh ∈ group.meshes, mesh ∈ s.meshes) :
    Scene.Invariant built { s with groups := group :: s.groups } :=
  { h with
    groups := List.forall_mem_cons.mpr ⟨⟨hgroup, hmeshes⟩, h.groups⟩
    models := fun model hmodel => ⟨(h.models model hmodel).1, fun group' hgroup' =>
      List.mem_cons_of_mem _ ((h.models model hmodel).2 group' hgroup')⟩ }

theorem addModel (h : s.Invariant built) (model : SceneModel)
    (hmodel : List.Forall₂ (InstanceOf s.vkn.heap) model.instances model.groups)
    (hgroups : ∀ group ∈ model.groups, group ∈ s.groups) :
    Scene.Invariant built { s with models := model :: s.models } :=
  { h with models := List.forall_mem_cons.mpr ⟨⟨hmodel, hgroups⟩, h.models⟩ }

/-- One more operation of the context. -/
theorem run_step (h : s.Invariant built) {op : Op} {c : Context} (hop : op.Keeps typeKinds)
    (hstep : Step op s.vkn c) : Context.Run (Op.Keeps typeKinds) built c :=
  h.run.tail ⟨op, hop, hstep⟩

theorem meshCreate (h : s.Invariant built) {s' : Scene} {vma : DeviceAllocator}
    {userGeomID : UInt64} {arguments : Triangles.MeshArguments} {g : Ptr}
    (hg : s.vkn.heap .geom g = none)
    (hstep : s.vpMeshCreate vma userGeomID arguments g = some s') : s'.Invariant built := by
  obtain ⟨mesh, device, c₁, c', rfl, rfl, -, -, hgeomID, -, hnew, hset, hpipeline, hheap⟩ :=
    vpMeshCreate_spec h.types hg hstep
  have hkind : ∀ k ≠ .geom, c'.heap k = s.vkn.heap k := fun k hk => by
    rw [hheap]
    exact set_of_kind_ne _ _ _ hk
  have hkeeps : Op.Keeps typeKinds .newGeom ∧ Op.Keeps typeKinds .setGeomData := by
    unfold Op.Keeps
    decide
  have hextend := h.extend ((h.run_step hkeeps.1 hnew).tail ⟨_, hkeeps.2, hset⟩)
    (h.programs.congr (fun k => hkind _ (by simp)) (by rw [hpipeline]) (by rw [hpipeline])
      (by rw [hpipeline]))
    (grows_set hg hheap) (grows_of_eq (hkind _ (by simp)))
    (by rw [hkind _ (by simp)]; exact h.accels)
  exact (hextend.withDevice device).addMesh (by dsimp only; rw [hheap, set_self]) hgeomID

theorem groupCreate (h : s.Invariant built) {meshes : List SceneMesh} {a : Ptr}
    (hmeshes : ∀ mesh ∈ meshes, mesh ∈ s.meshes)
    (halloc : s.vkn.CanAllocEntries meshes.length) (ha : s.vkn.heap .geomAccel a = none) :
    (s.vpGroupCreate meshes a).Invariant built := by
  have hstep : Step .newGeomAccel s.vkn
      (s.vkn.newGeomAccel (meshes.map fun mesh => some mesh.vkn) a) := by
    refine .newGeomAccel _ _ a (fun g hg => ?_) (by rwa [List.length_map]) ha
    obtain ⟨mesh, hmesh, heq⟩ := List.mem_map.mp hg
    rw [← Option.some.inj heq, h.meshes mesh (hmeshes mesh hmesh)]
    rfl
  obtain ⟨accel, hgeoms, hheap⟩ : ∃ accel : GeomAccel,
      accel.geoms = meshes.map (fun mesh => some mesh.vkn) ∧
      (s.vkn.newGeomAccel (meshes.map fun mesh => some mesh.vkn) a).heap =
        set s.vkn.heap .geomAccel a (some accel) := ⟨_, rfl, rfl⟩
  have hkind : ∀ k ≠ .geomAccel, _ = s.vkn.heap k := fun k hk =>
    (congrFun hheap k).trans (set_of_kind_ne _ _ _ hk)
  have hextend := h.extend (h.run_step (by unfold Op.Keeps; decide) hstep)
    (h.programs.congr (fun k => hkind _ (by simp)) rfl rfl rfl)
    (grows_of_eq (hkind _ (by simp))) (grows_set ha hheap) ?_
  · exact hextend.addGroup { vkn := a, meshes }
      ⟨accel, by dsimp only; rw [hheap, set_self], hgeoms⟩ hmeshes
  · rintro a' accel' haccel'
    rw [hheap, set_apply] at haccel'
    split_ifs at haccel' with heq
    · rw [← Option.some.inj haccel', hgeoms]
      simp
    · exact h.accels a' accel' haccel'

/-- The instances of a new model are those of its groups. -/
theorem forall₂_instanceOf {c : Context} {groups : List SceneGroup}
    {xfms : Option (List VPTransform)} {ia : Ptr} {m : Model}
    (hm : Model.create c (groups.map (·.toGroup)) xfms ia = some m) :
    List.Forall₂ (InstanceOf m.context.heap) m.instances groups := by
  obtain ⟨accel, haccel, hm⟩ := Option.bind_eq_some_iff.mp hm
  obtain ⟨instances, hinstances, hm⟩ := Option.bind_eq_some_iff.mp hm
  obtain rfl := Option.some.inj hm
  rw [Context.heap_newInstanceAccel, set_self, Option.some.injEq] at haccel
  have haccels : accel.accels = groups.map fun group => some group.vkn := by
    rw [← haccel, List.map_map]
    rfl
  have hlength : instances.length = groups.length := by
    rw [List.length_of_mapM hinstances, List.length_zipIdx, haccels, List.length_map]
  refine List.forall₂_iff_get.mpr ⟨hlength, fun i hi hi' => ?_⟩
  have hget := Context.getElem?_writeInstances hinstances i
  rw [List.getElem?_eq_getElem hi, haccels, List.getElem?_map, List.getElem?_eq_getElem hi',
    Option.map_some, Option.bind_some] at hget
  obtain ⟨a, accel', transform, ha, haccel', -, heq⟩ :=
    Context.writeInstance_eq_some.mp hget.symm
  obtain rfl := Option.some.inj ha
  simp only [List.get_eq_getElem, heq]
  exact ⟨rfl, accel', haccel', rfl⟩

/-- A new model, before its tables are built. -/
theorem createModel (h : s.Invariant built) {groups : List SceneGroup}
    (xfms : Option (List VPTransform)) {ia : Ptr} (hgroups : ∀ group ∈ groups, group ∈ s.groups)
    (halloc : s.vkn.CanAllocEntries groups.length) (hia : s.vkn.heap .instanceAccel ia = none) :
    ∃ m, Model.create s.vkn (groups.map (·.toGroup)) xfms ia = some m ∧
      Scene.Invariant built { s with
        vkn := m.context
        models := { vkn := ia, groups, instances := m.instances } :: s.models } := by
  have hlive : ∀ group ∈ groups.map (·.toGroup), (s.vkn.heap .geomAccel group.vkn).isSome := by
    rintro group' hgroup'
    obtain ⟨group, hgroup, rfl⟩ := List.mem_map.mp hgroup'
    obtain ⟨⟨accel, haccel, -⟩, -⟩ := h.groups group (hgroups group hgroup)
    exact Option.isSome_of_eq_some haccel
  obtain ⟨m, hm, -⟩ := Model.create_spec xfms ia hlive
  refine ⟨m, hm, ?_⟩
  have hinstances := forall₂_instanceOf hm
  obtain ⟨accel, -, hm⟩ := Option.bind_eq_some_iff.mp hm
  obtain ⟨instances, -, hm⟩ := Option.bind_eq_some_iff.mp hm
  obtain rfl := Option.some.inj hm
  have hnew : Step .newInstanceAccel s.vkn (s.vkn.newInstanceAccel
      ((groups.map (·.toGroup)).map fun group => some group.vkn) ia) := by
    refine .newInstanceAccel _ _ ia (fun g hg => ?_) (by simpa using halloc) hia
    obtain ⟨group, hgroup, heq⟩ := List.mem_map.mp hg
    rw [← Option.some.inj heq]
    exact hlive group hgroup
  have hkind : ∀ k ≠ .instanceAccel, _ = s.vkn.heap k := fun k hk => hnew.heap_frame (by
    simpa [Op.touches] using hk)
  have hextend := h.extend (h.run_step (by unfold Op.Keeps; decide) hnew)
    (h.programs.congr (fun k => hkind _ (by simp)) rfl rfl rfl)
    (grows_of_eq (hkind _ (by simp))) (grows_of_eq (hkind _ (by simp)))
    (by rw [hkind _ (by simp)]; exact h.accels)
  exact hextend.addModel { vkn := ia, groups, instances } hinstances hgroups

theorem modelCreate (h : s.Invariant built) {s' : Scene} {groups : List SceneGroup}
    {xfms : Option (List VPTransform)} {ia : Ptr} {mem : DeviceMemory}
    (hgroups : ∀ group ∈ groups, group ∈ s.groups)
    (halloc : s.vkn.CanAllocEntries groups.length) (hia : s.vkn.heap .instanceAccel ia = none)
    (hstep : s.vpModelCreate groups xfms ia mem = some s') : s'.Invariant built := by
  obtain ⟨m, hm, h'⟩ := h.createModel xfms hgroups halloc hia
  obtain ⟨m', hm', hstep⟩ := Option.bind_eq_some_iff.mp hstep
  obtain rfl := Option.some.inj (hm.symm.trans hm')
  obtain ⟨-, -, hstep⟩ := Option.bind_eq_some_iff.mp hstep
  obtain rfl := Option.some.inj hstep
  exact h'

/-- Setting the arguments of `rg` is an operation of the context. -/
theorem setArguments (h : s.Invariant built) (hs : s.vkn.Invariant) (rg : RayGenData)
    (padding : UInt64) : ∃ o : Prog,
      s.vkn.heap (.prog .rayGen) (s.setUp.prog .rayGen) = some o ∧ o.sbtIndex = 0 ∧
      o.type = s.setUp.type .rayGen ∧
      Step .setProgData s.vkn
        (s.vkn.setProgData .rayGen o (rg.bytes padding) (s.setUp.prog .rayGen)) ∧
      Scene.Invariant built { s with
        vkn := s.vkn.setProgData .rayGen o (rg.bytes padding) (s.setUp.prog .rayGen) } := by
  obtain ⟨o, ho, htype, hindex⟩ := h.programs.prog .rayGen
  obtain ⟨type, hget, hsize, -⟩ := h.types.progType .rayGen
  obtain ⟨type', hget', hlength⟩ := hs.progData .rayGen _ o ho
  rw [htype, hget, Option.some.injEq] at hget'
  have hstep := Step.setProgData s.vkn .rayGen o (rg.bytes padding) (s.setUp.prog .rayGen) ho
    (by rw [hlength, ← hget', hsize]; rfl)
  have hkind : ∀ k, k ≠ .prog .rayGen → (s.vkn.setProgData .rayGen o (rg.bytes padding)
      (s.setUp.prog .rayGen)).heap k = s.vkn.heap k := fun k hk => set_of_kind_ne _ _ _ hk
  refine ⟨o, ho, hindex, htype, hstep, h.extend (h.run_step (by unfold Op.Keeps; decide) hstep) ?_
    (grows_of_eq (hkind _ (by simp))) (grows_of_eq (hkind _ (by simp)))
    (by rw [hkind _ (by simp)]; exact h.accels)⟩
  refine { h.programs with prog := fun k => ?_, missData := ?_ }
  swap
  · rw [hkind _ (by simp)]
    exact h.programs.missData
  cases k with
  | rayGen => exact ⟨_, set_self s.vkn.heap (.prog .rayGen) (s.setUp.prog .rayGen) _, htype, hindex⟩
  | missProg =>
    rw [hkind _ (by simp)]
    exact h.programs.prog .missProg

theorem trace (h : s.Invariant built) (hs : s.vkn.Invariant) {s' : Scene}
    {world numRays arrayOfRays arrayOfHits padding : UInt64} {traceMode : TraceMode}
    {mem : DeviceMemory} {sbt : SBT} {call : TraceRays}
    (hstep : s.vpTrace world numRays arrayOfRays arrayOfHits traceMode padding mem =
      some (s', sbt, call)) : s'.Invariant built := by
  obtain ⟨o, ho, -, -, -, h'⟩ := h.setArguments hs
    (rayGenData world numRays arrayOfRays arrayOfHits traceMode) padding
  obtain ⟨o', ho', hstep⟩ := Option.bind_eq_some_iff.mp hstep
  obtain rfl := Option.some.inj (ho.symm.trans ho')
  obtain ⟨sbt', -, hstep⟩ := Option.bind_eq_some_iff.mp hstep
  obtain rfl := (Prod.mk.inj (Option.some.inj hstep)).1
  exact h'

/-- **Step lemma**: every call keeps the invariant. -/
theorem step (h : s.Invariant built) (hs : s.vkn.Invariant) {s' : Scene} (hstep : SceneStep s s') :
    s'.Invariant built := by
  cases hstep with
  | meshCreate _ vma userGeomID arguments g hg hstep => exact h.meshCreate hg hstep
  | groupCreate meshes a hmeshes halloc ha => exact h.groupCreate hmeshes halloc ha
  | modelCreate _ groups xfms ia mem hgroups halloc hia hstep =>
    exact h.modelCreate hgroups halloc hia hstep
  | trace _ world numRays arrayOfRays arrayOfHits traceMode padding mem sbt call hstep =>
    exact h.trace hs hstep
  | other device hkept => exact h.withDevice device

/-- A new prime context. -/
theorem init {driver : VkDriver} {gpuToUse : Int32} {p : SetUp}
    {properties : LogicalDevice → PipelineProperties} {handle : ℕ} {vk : PipelineMaker}
    {memory : DeviceHeap} {s₀ : Scene}
    (h : vpContextCreate driver gpuToUse p properties handle vk memory = some s₀) :
    ∃ c, c.Reachable ∧ Step .build c s₀.vkn ∧ s₀.Invariant s₀.vkn := by
  obtain ⟨di, -, h⟩ := Option.bind_eq_some_iff.mp h
  obtain ⟨device, -, h⟩ := Option.bind_eq_some_iff.mp h
  obtain ⟨c, hc, h⟩ := Option.bind_eq_some_iff.mp h
  obtain ⟨built, hbuilt, hstep, htypes, hprograms, haccels⟩ := SetUp.build_spec hc vk
  obtain ⟨built', hbuilt', h⟩ := Option.bind_eq_some_iff.mp h
  obtain rfl := Option.some.inj (hbuilt.symm.trans hbuilt')
  obtain rfl := Option.some.inj h
  refine ⟨c, SetUp.reachable_of_programs hc, hstep, ⟨.refl, hprograms, htypes, hprograms, by simp,
    by simp, by simp, fun a accel haccel => ?_, by simp⟩⟩
  rw [haccels] at haccel
  cases haccel

/-- The context of a scene is reachable. -/
theorem reachable (h : s.Invariant built) {c : Context} (hc : c.Reachable)
    (hbuild : Step .build c built) : s.vkn.Reachable :=
  (hc.step hbuild).run h.run

end Scene.Invariant

/-- **Run lemma**: every scene has the invariant, with the context at its one build. -/
theorem Scene.Reachable.invariant {s : Scene} (hs : s.Reachable) :
    ∃ c built, c.Reachable ∧ Step .build c built ∧ s.Invariant built := by
  obtain ⟨driver, gpuToUse, p, properties, handle, vk, memory, s₀, hs₀, hrun⟩ := hs
  obtain ⟨c, hc, hbuild, h₀⟩ := Scene.Invariant.init hs₀
  refine ⟨c, s₀.vkn, hc, hbuild, ?_⟩
  induction hrun with
  | refl => exact h₀
  | tail _ hstep ih => exact ih.step (ih.reachable hc hbuild).invariant hstep

/-! ## The triangles of the meshes -/

/-- The device memory of a scene and the meshes in it, without the rest. -/
def Scene.meshScene (s : Scene) : Triangles.MeshScene where
  heap := s.device
  meshes := s.meshes.map fun mesh => (mesh.triangles, mesh.arguments)

/-- What happens in a scene happens to its meshes and their memory, or leaves them alone. -/
theorem SceneStep.meshScene {s s' : Scene} (hstep : SceneStep s s') :
    s'.meshScene = s.meshScene ∨ Triangles.MeshStep s.meshScene s'.meshScene := by
  cases hstep with
  | meshCreate _ vma userGeomID arguments g _ h =>
    right
    obtain ⟨⟨triangles, device⟩, htriangles, h⟩ := Option.bind_eq_some_iff.mp h
    obtain ⟨type, _, h⟩ := Option.bind_eq_some_iff.mp h
    obtain ⟨o, _, h⟩ := Option.bind_eq_some_iff.mp h
    obtain rfl := Option.some.inj h
    exact .meshCreate s.meshScene vma arguments triangles device htriangles
  | groupCreate => exact Or.inl rfl
  | modelCreate _ groups xfms ia mem _ _ _ h =>
    left
    obtain ⟨m, _, h⟩ := Option.bind_eq_some_iff.mp h
    obtain ⟨sbt, _, h⟩ := Option.bind_eq_some_iff.mp h
    obtain rfl := Option.some.inj h
    rfl
  | trace _ world numRays arrayOfRays arrayOfHits traceMode padding mem sbt call h =>
    left
    obtain ⟨o, _, h⟩ := Option.bind_eq_some_iff.mp h
    obtain ⟨sbt', _, h⟩ := Option.bind_eq_some_iff.mp h
    obtain rfl := (Prod.mk.inj (Option.some.inj h)).1
    rfl
  | other device hkept =>
    right
    refine .other s.meshScene device fun r hr => ?_
    obtain ⟨mesh, hmesh, rfl⟩ := List.mem_map.mp hr
    exact hkept mesh hmesh

/-- The runs of a scene are runs of its meshes. -/
theorem Scene.Reachable.meshScene {s : Scene} (hs : s.Reachable) : s.meshScene.Reachable := by
  obtain ⟨driver, gpuToUse, p, properties, handle, vk, memory, s₀, h, hrun⟩ := hs
  obtain ⟨di, _, h⟩ := Option.bind_eq_some_iff.mp h
  obtain ⟨device, _, h⟩ := Option.bind_eq_some_iff.mp h
  obtain ⟨c, _, h⟩ := Option.bind_eq_some_iff.mp h
  obtain ⟨built, _, h⟩ := Option.bind_eq_some_iff.mp h
  obtain rfl := Option.some.inj h
  refine ⟨memory, ?_⟩
  induction hrun with
  | refl => exact .refl
  | tail _ hstep ih =>
    rcases hstep.meshScene with heq | hstep
    · exact heq ▸ ih
    · exact ih.tail hstep

/-- Every mesh of a scene has its arrays in device memory, whatever else was made, and so
Vulkan sees its triangles exactly if the counts are `int`s. -/
theorem Scene.Reachable.sees_iff {s : Scene} (hs : s.Reachable) {mesh : SceneMesh}
    (hmesh : mesh ∈ s.meshes) :
    mesh.triangles.Holds s.device mesh.arguments ∧
      (Triangles.Sees s.device.bytes (TrianglesGeomAccel.geomInput mesh.triangles.vkn)
          mesh.arguments ↔ Triangles.CountsFit mesh.arguments) := by
  have hholds : mesh.triangles.Holds s.device mesh.arguments :=
    hs.meshScene.holds _ (List.mem_map_of_mem hmesh)
  exact ⟨hholds, hholds.sees_iff⟩

end Vulkanite.Prime
