/-
# What a query finds

The hits of a ray that Vulkan finds are of primitives, in geometries, in instances of a
model.  The hit programs get the primitive and the instance from Vulkan, but the ID of the
geometry from the record of the shader binding table that the hit selects: that is how the
IDs of the application come into the hit records.

`vpTrace_reports` is about a sequence of `vpTrace` calls, with any other calls in between
and with the threads of each launch in any interleaving.  The calls run through the hits of
each ray in order, with the IDs that the application gave to the meshes.

It takes of Vulkan what `deliver` says: a trace meets the hits of a ray in any order and
any number of times, and the any-hit program is called for one while its distance lies
beyond `tMin` and is at most the current end of the ray.
-/
import Vulkanite.FloatHits
import Vulkanite.PrimeTraces

namespace Vulkanite.Prime

/-! ## The model -/

/-- A hit as Vulkan finds it: `InstanceIndex()`, the geometry in the instance,
`PrimitiveIndex()`, `RayTCurrent()` and the barycentrics. -/
structure Intersection (U : Type) where
  instanceIndex : ℕ
  geometryIndex : ℕ
  primitiveIndex : ℕ
  t : ℤ
  bc : U × U
  deriving DecidableEq

/-- A `uint32_t` in memory. -/
def word32 : List UInt8 → Option UInt32
  | [a, b, c, d] => some (UInt32.ofNat
      (a.toNat + 2 ^ 8 * b.toNat + 2 ^ 16 * c.toNat + 2 ^ 24 * d.toNat))
  | _ => none

variable {U : Type}

/-- `currentHit`, which reads `self` from the record that the hit selects, behind the handle
of the group. -/
def currentHit (table : Table) (sbtHeaderSize : ℕ) (instances : List TransformedInstance)
    (x : Intersection U) : Option (Candidate ℤ (U × U)) := do
  let inst ← instances[x.instanceIndex]?
  let data ← ByteMemory.read table.bytes
    (inst.hitRecord x.geometryIndex * table.region.stride.toNat + sbtHeaderSize) 4
  let geomID ← word32 data
  return {
    hit := {
      primID := x.primitiveIndex
      geomID := (Records.currentGeomID ⟨geomID⟩).toInt
      instID := x.instanceIndex
      t := x.t }
    bc := x.bc }

/-- The same as the application sees it: with the ID that it gave to the mesh. -/
def SceneModel.candidate (model : SceneModel) (x : Intersection U) :
    Option (Candidate ℤ (U × U)) := do
  let group ← model.groups[x.instanceIndex]?
  let mesh ← group.meshes[x.geometryIndex]?
  return {
    hit := {
      primID := x.primitiveIndex
      geomID := mesh.userGeomID.toNat
      instID := x.instanceIndex
      t := x.t }
    bc := x.bc }

/-- The IDs that the application gave to the meshes are those of hits, and not that of no
hit. -/
def SceneModel.IDsFit (model : SceneModel) : Prop :=
  ∀ group ∈ model.groups, ∀ mesh ∈ group.meshes, (mesh.userGeomID.toNat : ℤ) < INT_MAX

/-- Rays that are traced into a model again and again, and the hits that there are. -/
structure Query (U : Type) where
  model : SceneModel
  rays : ℤ → PrimeRay ℤ
  numRays : UInt64
  intersections : ℤ → Finset (Intersection U)
  valid : ∀ r, ∀ x ∈ intersections r, (model.candidate x).isSome

/-- What a launch gets, if the hit programs make `f` of the hits. -/
def Query.args [DecidableEq U] (q : Query U)
    (f : Intersection U → Option (Candidate ℤ (U × U))) : TraceArgs ℤ U where
  nextLowerThan := lowerPlace
  rays := q.rays
  cands := fun r => (q.intersections r).biUnion fun x => (f x).toFinset
  numRays := q.numRays

/-- A `vpTrace` call in the scene `s`, and what its launch can make of the hit records. -/
def Query.Trace [DecidableEq U] (q : Query U) (traceMode : TraceMode) (s : Scene)
    (hits hits' : HitArray ℤ U) : Prop :=
  ∃ world arrayOfRays arrayOfHits padding mem s' sbt call,
    s.vpTrace world q.numRays arrayOfRays arrayOfHits traceMode padding mem =
      some (s', sbt, call) ∧
    Launch (q.args (currentHit sbt.hitGroups
      s.vkn.rtPipeline.properties.shaderGroupHandleSize.toNat q.model.instances))
      traceMode hits hits'

/-- The hits of a ray lie on the ray and have small numbers, and the IDs of the meshes tell
them apart. -/
structure Query.Meets (q : Query U) (r : ℤ) : Prop where
  tMin_lt : ∀ x ∈ q.intersections r, (q.rays r).tMin < x.t
  le_tMax : ∀ x ∈ q.intersections r, x.t ≤ (q.rays r).tMax
  primitiveIndex_lt : ∀ x ∈ q.intersections r, (x.primitiveIndex : ℤ) < INT_MAX
  instanceIndex_lt : ∀ x ∈ q.intersections r, (x.instanceIndex : ℤ) < INT_MAX
  distinct : ∀ x ∈ q.intersections r, ∀ y ∈ q.intersections r, ∀ c d,
    q.model.candidate x = some c → q.model.candidate y = some d → c.hit = d.hit → c = d

/-! ## The IDs in the records -/

theorem word32_bytes32 (w : UInt32) : word32 (bytes32 w) = some w := by
  have hw := w.toNat_lt
  have h8 : (8 : UInt32).toNat % 32 = 8 := by decide
  have h16 : (16 : UInt32).toNat % 32 = 16 := by decide
  have h24 : (24 : UInt32).toNat % 32 = 24 := by decide
  simp only [bytes32, word32, Option.some.injEq]
  rw [← UInt32.toNat_inj]
  simp only [UInt32.toNat_ofNat', UInt32.toNat_toUInt8, UInt32.toNat_shiftRight, h8, h16, h24,
    Nat.shiftRight_eq_div_pow]
  omega

/-- What lies behind the handle of a record. -/
theorem read_behind {handle data : List UInt8} {size : ℕ} (h : handle.length = size) :
    ByteMemory.read (handle ++ data) size data.length = some data := by
  rw [ByteMemory.read, if_pos (by rw [List.length_append, h]), List.drop_left' h,
    List.take_length]

/-- An ID of the application that is an `int` stays what it is on the way to the device. -/
theorem toInt_currentGeomID {userGeomID : UInt64} (h : (userGeomID.toNat : ℤ) < INT_MAX) :
    (Records.currentGeomID (Records.vpMeshCreate userGeomID).data).toInt = userGeomID.toNat := by
  have hmax : INT_MAX = 2147483647 := rfl
  have hword : userGeomID.toUInt32.toNat = userGeomID.toNat := by
    rw [UInt64.toNat_toUInt32]
    exact Nat.mod_eq_of_lt (by omega)
  have hint : Records.currentGeomID (Records.vpMeshCreate userGeomID).data =
      userGeomID.toUInt32.toInt32 :=
    Records.toInt32_eq_iff.mpr (Records.toUInt32_currentGeomID userGeomID ▸ rfl)
  have hbits : userGeomID.toUInt32.toInt32.toInt = userGeomID.toUInt32.toBitVec.toInt := rfl
  rw [hint, hbits, BitVec.toInt_eq_toNat_of_lt (by rw [UInt32.toNat_toBitVec]; omega),
    UInt32.toNat_toBitVec, hword]

/-- The hit programs see the ID of the mesh. -/
theorem Scene.Traces.currentHit_eq {s : Scene} {pl : VkPipeline} {rg : List UInt8} {sbt : SBT}
    {call : TraceRays} (h : s.Traces pl rg sbt call) {size : ℕ}
    (hsizes : ∀ handle ∈ pl.handles, handle.length = size) {model : SceneModel}
    (hmodel : model ∈ s.models) (hIDs : model.IDsFit)
    (hmeshes : ∀ group ∈ model.groups, ∀ mesh ∈ group.meshes,
      mesh.toMesh = Records.vpMeshCreate mesh.userGeomID)
    {x : Intersection U} (hx : (model.candidate x).isSome) :
    currentHit sbt.hitGroups size model.instances x = model.candidate x := by
  obtain ⟨c, hc⟩ := Option.isSome_iff_exists.mp hx
  obtain ⟨group, hgroup, hc'⟩ := Option.bind_eq_some_iff.mp hc
  obtain ⟨mesh, hmesh, -⟩ := Option.bind_eq_some_iff.mp hc'
  have hlt := (List.getElem?_eq_some_iff.mp hgroup).1
  rw [← h.length_eq model hmodel] at hlt
  have hinst := List.getElem?_eq_getElem hlt
  obtain ⟨i, g, handle, -, -, hhandle, hread⟩ :=
    (h.hit model hmodel _ _ group hinst hgroup).2 _ mesh hmesh
  have hsize := hsizes handle (List.mem_of_getElem? hhandle)
  have hdata : ByteMemory.read (handle ++ bytes32 mesh.data.geomID) size 4 =
      some (bytes32 mesh.data.geomID) := read_behind hsize
  rw [← ByteMemory.read_part hread (by rw [hsize]; rfl)] at hdata
  have hmemGroup := List.mem_of_getElem? hgroup
  have hmemMesh := List.mem_of_getElem? hmesh
  have hgeomID : (Records.currentGeomID ⟨mesh.data.geomID⟩).toInt = mesh.userGeomID.toNat := by
    rw [hmeshes group hmemGroup mesh hmemMesh]
    exact toInt_currentGeomID (hIDs group hmemGroup mesh hmemMesh)
  simp only [currentHit, SceneModel.candidate, hinst, hdata, word32_bytes32, hgroup, hmesh,
    Option.bind_eq_bind, Option.bind_some, hgeomID]

/-! ## Runs of calls -/

/-- The fields that a hit has from Vulkan, and the ID that it has from a mesh. -/
theorem SceneModel.candidate_eq_some {model : SceneModel} {x : Intersection U}
    {c : Candidate ℤ (U × U)} (h : model.candidate x = some c) :
    (c.hit.primID = x.primitiveIndex ∧ c.hit.instID = x.instanceIndex ∧ c.hit.t = x.t) ∧
      ∃ group ∈ model.groups, ∃ mesh ∈ group.meshes, c.hit.geomID = mesh.userGeomID.toNat := by
  obtain ⟨group, hgroup, h⟩ := Option.bind_eq_some_iff.mp h
  obtain ⟨mesh, hmesh, h⟩ := Option.bind_eq_some_iff.mp h
  obtain rfl := Option.some.inj h
  exact ⟨⟨rfl, rfl, rfl⟩, group, List.mem_of_getElem? hgroup, mesh, List.mem_of_getElem? hmesh,
    rfl⟩

/-- The meshes of the models have the IDs that `vpMeshCreate` gave them. -/
theorem Scene.Invariant.toMesh_eq {built : Context} {s : Scene} (h : s.Invariant built)
    {model : SceneModel} (hmodel : model ∈ s.models) :
    ∀ group ∈ model.groups, ∀ mesh ∈ group.meshes,
      mesh.toMesh = Records.vpMeshCreate mesh.userGeomID :=
  fun group hgroup mesh hmesh =>
    h.geomIDs mesh ((h.groups group ((h.models model hmodel).2 group hgroup)).2 mesh hmesh)

section Queries

variable [DecidableEq U] {q : Query U}

/-- The hit programs and the application get the same of the hits. -/
theorem Query.args_congr {f g : Intersection U → Option (Candidate ℤ (U × U))}
    (h : ∀ r, ∀ x ∈ q.intersections r, f x = g x) : q.args f = q.args g := by
  simp only [Query.args, TraceArgs.mk.injEq, true_and, and_true]
  funext r
  exact Finset.biUnion_congr rfl fun x hx => by rw [h r x hx]

/-- A call traces the hits as the application sees them. -/
theorem Query.trace_iff {traceMode : TraceMode} {s : Scene} (hs : s.Reachable)
    (hmodel : q.model ∈ s.models) (hmax : s.vkn.sbtRangeAllocator.maxAllocedID.toNat ≤ 2 ^ 24)
    (hIDs : q.model.IDsFit) {hits hits' : HitArray ℤ U} :
    q.Trace traceMode s hits hits' ↔ Launch (q.args q.model.candidate) traceMode hits hits' := by
  have hsame : ∀ world arrayOfRays arrayOfHits padding mem, ∃ s' sbt call,
      s.vpTrace world q.numRays arrayOfRays arrayOfHits traceMode padding mem =
        some (s', sbt, call) ∧
      q.args (currentHit sbt.hitGroups
        s.vkn.rtPipeline.properties.shaderGroupHandleSize.toNat q.model.instances) =
        q.args q.model.candidate := by
    obtain ⟨c, built, -, -, hinv⟩ := hs.invariant
    intro world arrayOfRays arrayOfHits padding mem
    obtain ⟨s', sbt, call, pl, hcall, hmodels, -, -, hsizes, -, -, -, htraces⟩ :=
      Scene.exists_trace hs hmax world q.numRays arrayOfRays arrayOfHits padding traceMode mem
    exact ⟨s', sbt, call, hcall, Query.args_congr fun r x hx =>
      htraces.currentHit_eq hsizes (hmodels ▸ hmodel) hIDs (hinv.toMesh_eq hmodel)
        (q.valid r x hx)⟩
  constructor
  · rintro ⟨world, arrayOfRays, arrayOfHits, padding, mem, s', sbt, call, hcall, hlaunch⟩
    obtain ⟨s'', sbt', call', hcall', hargs⟩ := hsame world arrayOfRays arrayOfHits padding mem
    obtain ⟨-, rfl, -⟩ : s' = s'' ∧ sbt = sbt' ∧ call = call' := by
      simpa using hcall.symm.trans hcall'
    rwa [hargs] at hlaunch
  · intro hlaunch
    obtain ⟨s', sbt, call, hcall, hargs⟩ := hsame 0 0 0 0
      ⟨fun _ => 0, fun _ n => List.replicate n 0, fun _ _ => List.length_replicate⟩
    exact ⟨0, 0, 0, 0, _, s', sbt, call, hcall, hargs.symm ▸ hlaunch⟩

/-- The hits that the application sees. -/
theorem Query.mem_args {r : ℤ} {c : Candidate ℤ (U × U)} :
    c ∈ (q.args q.model.candidate).cands r ↔
      ∃ x ∈ q.intersections r, q.model.candidate x = some c := by
  simp only [Query.args, Finset.mem_biUnion, Option.mem_toFinset, Option.mem_def]

theorem Query.Meets.isCandidateSet {r : ℤ} (h : q.Meets r) (hIDs : q.model.IDsFit) :
    IsCandidateSet (q.rays r) ((q.args q.model.candidate).cands r) := by
  refine ⟨fun c hc d hd heq => ?_, fun c hc => ?_, fun c hc => ?_, fun c hc => ?_, fun c hc => ?_,
    fun c hc => ?_⟩
  · obtain ⟨x, hx, hxc⟩ := Query.mem_args.mp hc
    obtain ⟨y, hy, hyd⟩ := Query.mem_args.mp hd
    exact h.distinct x hx y hy c d hxc hyd heq
  all_goals
    obtain ⟨x, hx, hxc⟩ := Query.mem_args.mp hc
    obtain ⟨⟨hprim, hinst, ht⟩, group, hgroup, mesh, hmesh, hgeom⟩ :=
      SceneModel.candidate_eq_some hxc
  · exact ht ▸ h.tMin_lt x hx
  · exact ht ▸ h.le_tMax x hx
  · exact hprim ▸ ⟨Int.natCast_nonneg _, h.primitiveIndex_lt x hx⟩
  · exact hgeom ▸ ⟨Int.natCast_nonneg _, hIDs group hgroup mesh hmesh⟩
  · exact hinst ▸ ⟨Int.natCast_nonneg _, h.instanceIndex_lt x hx⟩

end Queries

/-! ### A mesh in a model, hit twice by each of two rays -/

/-- Two triangles of the mesh of the sample scene. -/
def sampleQuery : Query Unit where
  model := Scene.sampleModelled.models.get ⟨0, by decide +kernel⟩
  rays := fun _ => ⟨0, 10⟩
  numRays := 2
  intersections := fun _ => {⟨0, 0, 2, 5, ((), ())⟩, ⟨0, 0, 1, 5, ((), ())⟩}
  valid := by
    intro r x hx
    simp only [Finset.mem_insert, Finset.mem_singleton] at hx
    rcases hx with rfl | rfl <;> decide +kernel

/-- The hits that the application sees: the mesh has the ID 42. -/
def sampleCands : Finset (Candidate ℤ (Unit × Unit)) :=
  {⟨⟨2, 42, 0, 5⟩, ((), ())⟩, ⟨⟨1, 42, 0, 5⟩, ((), ())⟩}

/-- The records that the traces leave when each meets the triangles in this order. -/
def sampleHits : ℕ → HitArray ℤ Unit
  | 0, _ => ⟨0, 0, 0, 0, ((), ())⟩
  | k + 1, r =>
    if 0 ≤ r ∧ r < 2 then
      Prime.hits lowerPlace ⟨0, 10⟩ ⟨0, 0, 0, 0, ((), ())⟩ (fun _ => ((), ()))
        (fun _ => [⟨⟨2, 42, 0, 5⟩, ((), ())⟩, ⟨⟨1, 42, 0, 5⟩, ((), ())⟩]) k
    else ⟨0, 0, 0, 0, ((), ())⟩

theorem sampleQuery_cands (r : ℤ) :
    (sampleQuery.args sampleQuery.model.candidate).cands r = sampleCands := by
  have hcands : (sampleQuery.intersections 0).biUnion
      (fun x => (sampleQuery.model.candidate x).toFinset) = sampleCands := by
    decide +kernel
  exact hcands

theorem sampleHits_launch (k : ℕ) : Launch (sampleQuery.args sampleQuery.model.candidate)
    (modeOf k) (sampleHits k) (sampleHits (k + 1)) := by
  refine Launch.of_record fun r => ?_
  have hnum : sampleQuery.numRays.toNat ≤ intMax := by decide
  have htraced : Traced sampleQuery.numRays r ↔ 0 ≤ r ∧ r < 2 := traced_iff hnum r
  constructor
  · intro hr
    refine ⟨((), ()), [⟨⟨2, 42, 0, 5⟩, ((), ())⟩, ⟨⟨1, 42, 0, 5⟩, ((), ())⟩], fun c => ?_, ?_⟩
    · rw [sampleQuery_cands]
      simp only [List.mem_cons, List.not_mem_nil, or_false, sampleCands, Finset.mem_insert,
        Finset.mem_singleton]
    · have hr' := htraced.mp hr
      cases k with
      | zero => simp only [sampleHits, if_pos hr', modeOf, if_true, Prime.hits, Query.args,
          sampleQuery]
      | succ k =>
        simp only [sampleHits, if_pos hr', modeOf, Nat.add_one_ne_zero, if_false, Prime.hits,
          Query.args, sampleQuery]
  · intro hr
    have hr' := mt htraced.mpr hr
    cases k <;> simp only [sampleHits, if_neg hr']

theorem sampleQuery_meets (r : ℤ) : sampleQuery.Meets r := by
  have hfacts : ∀ x ∈ sampleQuery.intersections 0, 0 < x.t ∧ x.t ≤ 10 ∧
      (x.primitiveIndex : ℤ) < INT_MAX ∧ (x.instanceIndex : ℤ) < INT_MAX ∧
      sampleQuery.model.candidate x = some ⟨⟨x.primitiveIndex, 42, 0, x.t⟩, ((), ())⟩ := by
    decide +kernel
  refine ⟨fun x hx => (hfacts x hx).1, fun x hx => (hfacts x hx).2.1,
    fun x hx => (hfacts x hx).2.2.1, fun x hx => (hfacts x hx).2.2.2.1,
    fun x hx y hy c d hc hd heq => ?_⟩
  obtain rfl := Option.some.inj ((hfacts x hx).2.2.2.2.symm.trans hc)
  obtain rfl := Option.some.inj ((hfacts y hy).2.2.2.2.symm.trans hd)
  exact congrArg (Candidate.mk · ((), ())) heq

/-- After three traces nothing is left to hit. -/
example : (sampleHits 3 1).primID = INT_MAX := by decide

end Vulkanite.Prime
