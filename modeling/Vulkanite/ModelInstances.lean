/-
# The instances of a model

`vpModelCreate` gets a group and a transform for each instance.  It passes them through
`Context::createModel` to `Model::Model`, which makes an instance accel of the groups and
builds it.  The transforms stay there: `Model::Model` never calls `vknSetTransformsHost`,
and an accel without transforms writes the identity.

So the instances carry the application's transforms exactly if these are all the identity
(`vpModelCreate_carries_iff`).  `writeInstances_setTransformsHost` says what an accel does
with transforms that it gets.  A float is its 32 bits here.
-/
import Vulkanite.HitDispatch
import Vulkanite.PrimeRecords

namespace Vulkanite

open TypedHeap
open Prime.Records (Float3)

/-! ## Transforms -/

/-- `0.f` and `1.f`. -/
def floatZero : UInt32 := 0

def floatOne : UInt32 := 0x3f800000

/-- `VKNFloat4`. -/
structure VKNFloat4 where
  x : UInt32
  y : UInt32
  z : UInt32
  w : UInt32
  deriving DecidableEq, Repr

/-- `VKNFloat4x3`, and the `VkTransformMatrixKHR` that it is written to: three rows. -/
structure VKNFloat4x3 where
  v0 : VKNFloat4
  v1 : VKNFloat4
  v2 : VKNFloat4
  deriving DecidableEq, Repr

/-- `unitTransform`, and the literal in `InstanceAccel::build`. -/
def unitTransform : VKNFloat4x3 where
  v0 := ⟨floatOne, floatZero, floatZero, floatZero⟩
  v1 := ⟨floatZero, floatOne, floatZero, floatZero⟩
  v2 := ⟨floatZero, floatZero, floatOne, floatZero⟩

/-! ## Instance accels with transforms -/

/-- `InstanceAccel`, with its `hostTransforms`. -/
structure TransformedAccel extends InstanceAccel where
  hostTransforms : List VKNFloat4x3 := []
  deriving DecidableEq, Repr

/-- `InstanceAccel::setTransformsHost`.  There is no result if it reads past the end of the
transforms. -/
def TransformedAccel.setTransformsHost (o : TransformedAccel)
    (transforms : Option (List VKNFloat4x3)) : Option TransformedAccel :=
  match transforms with
  | some ts =>
    if o.accels.length ≤ ts.length then
      some { o with hostTransforms := ts.take o.accels.length }
    else none
  | none => some { o with hostTransforms := List.replicate o.accels.length unitTransform }

/-- The transform of an instance. -/
def TransformedAccel.transform (o : TransformedAccel) (instID : ℕ) : Option VKNFloat4x3 :=
  if o.hostTransforms.isEmpty then some unitTransform else o.hostTransforms[instID]?

/-- `VkAccelerationStructureInstanceKHR`. -/
structure TransformedInstance extends VkInstance where
  transform : VKNFloat4x3
  mask : UInt8
  flags : UInt8
  deriving DecidableEq, Repr

namespace Context

/-- The body of the loop in `InstanceAccel::build`. -/
def writeInstance (c : Context) (o : TransformedAccel) (instID : ℕ) (child : Option Ptr) :
    Option TransformedInstance := do
  let a ← child
  let accel ← c.heap .geomAccel a
  let transform ← o.transform instID
  return {
    mask := 0xFF
    instanceCustomIndex := instID % 2 ^ 24
    instanceShaderBindingTableRecordOffset := (accel.sbtEntryBegin % 2 ^ 24).toNat
    flags := 0
    accelerationStructureReference := a
    transform }

/-- The instances that `InstanceAccel::build` writes. -/
def writeInstances (c : Context) (o : TransformedAccel) : Option (List TransformedInstance) :=
  o.accels.zipIdx.mapM fun e => c.writeInstance o e.2 e.1

end Context

/-! ## Models -/

namespace Prime

/-- The `l` of a `VPTransform`. -/
structure LinearSpace where
  vx : Float3
  vy : Float3
  vz : Float3
  deriving DecidableEq, Repr

/-- `VPTransform`. -/
structure VPTransform where
  l : LinearSpace
  p : Float3
  deriving DecidableEq, Repr

/-- `Group`: the accel of its meshes. -/
structure Group where
  vkn : Ptr
  deriving DecidableEq, Repr

/-- `Model`, with the context after its creation and the instances that were written. -/
structure Model where
  vkn : Ptr
  context : Context
  instances : List TransformedInstance

/-- `Model::Model`, for an accel at `p`; the call of `vknBuildSBT` at the end does not
concern the instances. -/
def Model.create (c : Context) (groups : List Group) (_xfms : Option (List VPTransform))
    (p : Ptr) : Option Model := do
  let context := c.newInstanceAccel (groups.map fun group => some group.vkn) p
  let accel ← context.heap .instanceAccel p
  let instances ← context.writeInstances { toInstanceAccel := accel }
  return { vkn := p, context, instances }

/-- `vpModelCreate`.  There is no result if it reads past the end of the groups, or if one
of them is null. -/
def vpModelCreate (c : Context) (_groups : List (Option Group)) (xfms : Option (List VPTransform))
    (numInstances : ℤ) (p : Ptr) : Option Model := do
  let groups ← (List.range numInstances.toNat).mapM fun i => _groups[i]?.join
  Model.create c groups xfms p

end Prime

/-! ## What is written -/

namespace Context

variable {c : Context} {o : TransformedAccel} {instances : List TransformedInstance}

/-- The instance at an index. -/
theorem getElem?_writeInstances (h : c.writeInstances o = some instances) (i : ℕ) :
    instances[i]? = o.accels[i]?.bind (c.writeInstance o i) := by
  rw [List.getElem?_mapM h, List.getElem?_zipIdx, Option.bind_map, Nat.zero_add]
  rfl

theorem writeInstance_eq_some {instID : ℕ} {child : Option Ptr} {inst : TransformedInstance} :
    c.writeInstance o instID child = some inst ↔
      ∃ a accel transform, child = some a ∧ c.heap .geomAccel a = some accel ∧
        o.transform instID = some transform ∧
        inst = { mask := 0xFF
                 instanceCustomIndex := instID % 2 ^ 24
                 instanceShaderBindingTableRecordOffset := (accel.sbtEntryBegin % 2 ^ 24).toNat
                 flags := 0
                 accelerationStructureReference := a
                 transform } := by
  simp only [writeInstance, Option.bind_eq_bind, Option.pure_def, Option.bind_eq_some_iff,
    Option.some.injEq]
  constructor
  · rintro ⟨a, ha, accel, haccel, transform, htransform, rfl⟩
    exact ⟨a, accel, transform, ha, haccel, htransform, rfl⟩
  · rintro ⟨a, accel, transform, ha, haccel, htransform, rfl⟩
    exact ⟨a, ha, accel, haccel, transform, htransform, rfl⟩

/-- The heap with another instance accel. -/
theorem heap_newInstanceAccel (c : Context) (accels : List (Option Ptr)) (p : Ptr) :
    (c.newInstanceAccel accels p).heap = set c.heap .instanceAccel p (some
      { accels
        sbtEntryBegin := (allocEntries c.sbtRangeAllocator (UInt64.ofNat accels.length)).1
        sbtEntryCount := UInt64.ofNat accels.length }) := rfl

/-- The members that hit dispatch reads are those of `buildInstances`. -/
theorem map_toVkInstance (h : c.writeInstances o = some instances) :
    c.buildInstances o.toInstanceAccel = some (instances.map (·.toVkInstance)) := by
  rw [buildInstances, List.mapM_eq_some_iff_forall₂, List.forall₂_map_right_iff]
  refine (List.mapM_eq_some_iff_forall₂.mp h).imp fun e inst hinst => ?_
  obtain ⟨a, accel, transform, ha, haccel, -, rfl⟩ := writeInstance_eq_some.mp hinst
  simp [ha, haccel]

end Context

/-- The column of a matrix. -/
def VKNFloat4x3.column (m : VKNFloat4x3) (component : VKNFloat4 → UInt32) : Float3 :=
  ⟨component m.v0, component m.v1, component m.v2⟩

/-- The matrix has the columns of the transform. -/
structure VKNFloat4x3.HasColumns (m : VKNFloat4x3) (t : Prime.VPTransform) : Prop where
  vx : m.column VKNFloat4.x = t.l.vx
  vy : m.column VKNFloat4.y = t.l.vy
  vz : m.column VKNFloat4.z = t.l.vz
  p : m.column VKNFloat4.w = t.p

namespace Prime

/-- The transform that changes nothing. -/
def VPTransform.identity : VPTransform where
  l := ⟨⟨floatOne, floatZero, floatZero⟩, ⟨floatZero, floatOne, floatZero⟩,
    ⟨floatZero, floatZero, floatOne⟩⟩
  p := ⟨floatZero, floatZero, floatZero⟩

/-- The rows of a transform. -/
def VPTransform.rows (t : VPTransform) : VKNFloat4x3 where
  v0 := ⟨t.l.vx.x, t.l.vy.x, t.l.vz.x, t.p.x⟩
  v1 := ⟨t.l.vx.y, t.l.vy.y, t.l.vz.y, t.p.y⟩
  v2 := ⟨t.l.vx.z, t.l.vy.z, t.l.vz.z, t.p.z⟩

theorem VPTransform.hasColumns_rows (t : VPTransform) : t.rows.HasColumns t := ⟨rfl, rfl, rfl, rfl⟩

theorem VPTransform.rows_identity : VPTransform.identity.rows = unitTransform := rfl

/-- A matrix has the columns of one transform. -/
theorem hasColumns_iff {m : VKNFloat4x3} {t : VPTransform} : m.HasColumns t ↔ m = t.rows := by
  constructor
  · rintro ⟨hvx, hvy, hvz, hp⟩
    obtain ⟨⟨vx, vy, vz⟩, p⟩ := t
    dsimp only at hvx hvy hvz hp
    obtain ⟨v0, v1, v2⟩ := m
    rw [← hvx, ← hvy, ← hvz, ← hp]
    rfl
  · rintro rfl
    exact t.hasColumns_rows

theorem rows_injective {t t' : VPTransform} (h : t.rows = t'.rows) : t = t' := by
  obtain ⟨⟨⟨_, _, _⟩, ⟨_, _, _⟩, ⟨_, _, _⟩⟩, ⟨_, _, _⟩⟩ := t
  obtain ⟨⟨⟨_, _, _⟩, ⟨_, _, _⟩, ⟨_, _, _⟩⟩, ⟨_, _, _⟩⟩ := t'
  simp only [VPTransform.rows, VKNFloat4x3.mk.injEq, VKNFloat4.mk.injEq] at h
  simp [h]

/-- The transform of an instance; no transforms at all mean the identity. -/
def transformOf (xfms : Option (List VPTransform)) (i : ℕ) : Option VPTransform :=
  match xfms with
  | none => some VPTransform.identity
  | some ts => ts[i]?

/-- Each instance has the accel of its group, and the columns of its transform. -/
structure Model.Carries (m : Model) (groups : List Group) (xfms : Option (List VPTransform)) :
    Prop where
  length_eq : m.instances.length = groups.length
  group : ∀ (i : ℕ) (g : Group) (inst : TransformedInstance), groups[i]? = some g →
    m.instances[i]? = some inst → inst.accelerationStructureReference = g.vkn
  transform : ∀ (i : ℕ) (t : VPTransform) (inst : TransformedInstance),
    transformOf xfms i = some t → m.instances[i]? = some inst → inst.transform.HasColumns t

end Prime

/-! ## Accels with transforms -/

section Transforms

variable {c : Context} {o o' : TransformedAccel} {instances : List TransformedInstance}

/-- An accel without transforms gives each instance the identity. -/
theorem TransformedAccel.transform_of_isEmpty (h : o.hostTransforms = []) (i : ℕ) :
    o.transform i = some unitTransform := by
  rw [transform, if_pos (List.isEmpty_iff.mpr h)]

theorem TransformedAccel.setTransformsHost_eq_some {ts : List VKNFloat4x3} :
    o.setTransformsHost (some ts) = some o' ↔ o.accels.length ≤ ts.length ∧
      o' = { o with hostTransforms := ts.take o.accels.length } := by
  unfold setTransformsHost
  dsimp only
  split_ifs with hlength
  · simp [hlength, eq_comm]
  · simp [hlength]

/-- An accel gives each instance the transform that it got for it. -/
theorem TransformedAccel.transform_setTransformsHost {ts : List VKNFloat4x3}
    (h : o.setTransformsHost (some ts) = some o') {i : ℕ} (hi : i < o.accels.length) :
    o'.transform i = ts[i]? := by
  obtain ⟨hlength, rfl⟩ := setTransformsHost_eq_some.mp h
  have hne : ¬ (ts.take o.accels.length).isEmpty := by
    rw [List.isEmpty_iff, ← List.length_eq_zero_iff, List.length_take]
    omega
  rw [transform, if_neg hne, List.getElem?_take_of_lt hi]

/-- **An accel that gets the rows of transforms writes instances with their columns.** -/
theorem writeInstances_setTransformsHost {ts : List Prime.VPTransform}
    (hset : o.setTransformsHost (some (ts.map Prime.VPTransform.rows)) = some o')
    (h : c.writeInstances o' = some instances) {i : ℕ} {t : Prime.VPTransform}
    {inst : TransformedInstance} (ht : ts[i]? = some t) (hinst : instances[i]? = some inst) :
    inst.transform.HasColumns t := by
  rw [Context.getElem?_writeInstances h] at hinst
  obtain ⟨child, hchild, hwrite⟩ := Option.bind_eq_some_iff.mp hinst
  obtain ⟨a, accel, transform, -, -, htransform, rfl⟩ := Context.writeInstance_eq_some.mp hwrite
  have hlt : i < o.accels.length := by
    obtain ⟨-, rfl⟩ := TransformedAccel.setTransformsHost_eq_some.mp hset
    exact (List.getElem?_eq_some_iff.mp hchild).1
  rw [TransformedAccel.transform_setTransformsHost hset hlt, List.getElem?_map, ht] at htransform
  obtain rfl := Option.some.inj htransform
  exact t.hasColumns_rows

end Transforms

/-! ## What models carry -/

namespace Prime

variable {c : Context} {groups : List Group} {xfms : Option (List VPTransform)} {p : Ptr}

/-- What `Model::Model` writes: the accel of each group, with the identity. -/
theorem Model.create_spec (xfms : Option (List VPTransform)) (p : Ptr)
    (hlive : ∀ g ∈ groups, (c.heap .geomAccel g.vkn).isSome) :
    ∃ m, Model.create c groups xfms p = some m ∧ m.instances.length = groups.length ∧
      ∀ (i : ℕ) (inst : TransformedInstance), m.instances[i]? = some inst →
        ∃ g, groups[i]? = some g ∧ inst.accelerationStructureReference = g.vkn ∧
          inst.transform = unitTransform := by
  set accels := groups.map fun group => some group.vkn with haccels
  set c' := c.newInstanceAccel accels p with hc'
  have hheap := Context.heap_newInstanceAccel c accels p
  have hgeomAccel : c'.heap .geomAccel = c.heap .geomAccel := by
    rw [hc', hheap]
    exact set_of_kind_ne _ _ _ (by decide)
  obtain ⟨accel, haccel, hchildren⟩ :
      ∃ accel, c'.heap .instanceAccel p = some accel ∧ accel.accels = accels := by
    rw [hc', hheap, set_self]
    exact ⟨_, rfl, rfl⟩
  have hsome : (c'.writeInstances { toInstanceAccel := accel }).isSome := by
    rw [Context.writeInstances, List.isSome_mapM]
    rintro ⟨child, i⟩ hchild
    dsimp only at hchild ⊢
    rw [hchildren, haccels] at hchild
    obtain ⟨g, hg, rfl⟩ := List.mem_map.mp (List.fst_mem_of_mem_zipIdx hchild)
    obtain ⟨geomAccel, hgeom⟩ := Option.isSome_iff_exists.mp (hlive g hg)
    rw [← hgeomAccel] at hgeom
    exact Option.isSome_iff_exists.mpr ⟨_, Context.writeInstance_eq_some.mpr ⟨g.vkn, geomAccel,
      unitTransform, rfl, hgeom, TransformedAccel.transform_of_isEmpty rfl i, rfl⟩⟩
  obtain ⟨instances, hinstances⟩ := Option.isSome_iff_exists.mp hsome
  refine ⟨⟨p, c', instances⟩, ?_, ?_, fun i inst hinst => ?_⟩
  · simp only [Model.create, ← haccels, ← hc', haccel, hinstances, Option.bind_eq_bind,
      Option.bind_some, Option.pure_def]
  · rw [List.length_of_mapM hinstances, List.length_zipIdx]
    dsimp only
    rw [hchildren, List.length_map]
  · rw [Context.getElem?_writeInstances hinstances] at hinst
    dsimp only at hinst
    rw [hchildren, haccels, List.getElem?_map] at hinst
    obtain ⟨child, hchild, hwrite⟩ := Option.bind_eq_some_iff.mp hinst
    obtain ⟨g, hg, rfl⟩ := Option.map_eq_some_iff.mp hchild
    obtain ⟨a, -, transform, ha, -, htransform, rfl⟩ := Context.writeInstance_eq_some.mp hwrite
    rw [TransformedAccel.transform_of_isEmpty rfl] at htransform
    exact ⟨g, hg, (Option.some.inj ha).symm, (Option.some.inj htransform).symm⟩

/-- The loop of `vpModelCreate` collects the groups. -/
theorem vpModelCreate_eq {numInstances : ℤ} (hnum : numInstances.toNat = groups.length) :
    vpModelCreate c (groups.map some) xfms numInstances p = Model.create c groups xfms p := by
  have hgroups : (List.range numInstances.toNat).mapM (fun i => (groups.map some)[i]?.join) =
      some groups := by
    rw [List.mapM_eq_some_iff_forall₂, List.forall₂_iff_get]
    refine ⟨by rw [List.length_range, hnum], fun i hi hi' => ?_⟩
    simp [hi']
  rw [vpModelCreate, hgroups]
  rfl

/-- **The instances carry the application's transforms exactly if** these are all the
identity. -/
theorem vpModelCreate_carries_iff {numInstances : ℤ} (hnum : numInstances.toNat = groups.length)
    (hxfms : ∀ ts ∈ xfms, ts.length = groups.length)
    (hlive : ∀ g ∈ groups, (c.heap .geomAccel g.vkn).isSome) :
    ∃ m, vpModelCreate c (groups.map some) xfms numInstances p = some m ∧
      (m.Carries groups xfms ↔ ∀ ts ∈ xfms, ∀ t ∈ ts, t = VPTransform.identity) := by
  obtain ⟨m, hm, hlength, hinstances⟩ := Model.create_spec xfms p hlive
  refine ⟨m, (vpModelCreate_eq hnum).trans hm, ?_⟩
  constructor
  · intro h ts hts t ht
    obtain ⟨i, hi⟩ := List.getElem?_of_mem ht
    have hlt : i < m.instances.length := by
      rw [hlength, ← hxfms ts hts]
      exact (List.getElem?_eq_some_iff.mp hi).1
    have hinst := List.getElem?_eq_getElem hlt
    obtain ⟨-, -, -, hunit⟩ := hinstances i _ hinst
    have hof : transformOf xfms i = some t := by
      rw [Option.mem_def.mp hts]
      exact hi
    -- the instance has the identity, and its columns are those of one transform
    have hcolumns := h.transform i t _ hof hinst
    rw [hasColumns_iff, hunit, ← VPTransform.rows_identity] at hcolumns
    exact (rows_injective hcolumns).symm
  · intro hidentity
    refine ⟨hlength, fun i g inst hg hinst => ?_, fun i t inst ht hinst => ?_⟩
    · obtain ⟨g', hg', hreference, -⟩ := hinstances i inst hinst
      obtain rfl := Option.some.inj (hg.symm.trans hg')
      exact hreference
    · obtain ⟨-, -, -, hunit⟩ := hinstances i inst hinst
      have ht' : t = VPTransform.identity := by
        cases xfms with
        | none => exact (Option.some.inj ht).symm
        | some ts => exact hidentity ts rfl t (List.mem_of_getElem? ht)
      rw [hunit, ht', ← VPTransform.rows_identity]
      exact VPTransform.hasColumns_rows _

/-- A transform that moves a group by one. -/
def sampleTransform : VPTransform :=
  { VPTransform.identity with p := ⟨floatOne, floatZero, floatZero⟩ }

/-- Models of two groups: one with two identities carries them, and one that moves the
second group does not. -/
theorem vpModelCreate_carries_iff_sample :
    (∃ m, vpModelCreate Context.sampleHoles [some ⟨16⟩, some ⟨11⟩]
        (some [VPTransform.identity, VPTransform.identity]) 2 20 = some m ∧
      m.Carries [⟨16⟩, ⟨11⟩] (some [VPTransform.identity, VPTransform.identity])) ∧
    ∃ m, vpModelCreate Context.sampleHoles [some ⟨16⟩, some ⟨11⟩]
        (some [VPTransform.identity, sampleTransform]) 2 20 = some m ∧
      ¬ m.Carries [⟨16⟩, ⟨11⟩] (some [VPTransform.identity, sampleTransform]) := by
  have hlive : ∀ g ∈ [(⟨16⟩ : Group), ⟨11⟩],
      (Context.sampleHoles.heap .geomAccel g.vkn).isSome := by decide
  have hmodel (t : VPTransform) :
      ∃ m, vpModelCreate Context.sampleHoles ([⟨16⟩, ⟨11⟩].map some)
          (some [VPTransform.identity, t]) 2 20 = some m ∧
        (m.Carries [⟨16⟩, ⟨11⟩] (some [VPTransform.identity, t]) ↔
          ∀ ts ∈ some [VPTransform.identity, t], ∀ t' ∈ ts, t' = VPTransform.identity) :=
    vpModelCreate_carries_iff rfl (by simp) hlive
  obtain ⟨m, hm, hiff⟩ := hmodel VPTransform.identity
  obtain ⟨m', hm', hiff'⟩ := hmodel sampleTransform
  refine ⟨⟨m, hm, hiff.mpr (by simp)⟩, m', hm', fun hcarries => ?_⟩
  exact absurd (hiff'.mp hcarries _ rfl sampleTransform (by simp)) (by decide)

/-- Its instance stays where it was. -/
theorem vpModelCreate_drops_transform :
    ¬ ∀ (c : Context) (groups : List Group) (xfms : Option (List VPTransform)) (numInstances : ℤ)
      (p : Ptr), numInstances.toNat = groups.length → (∀ ts ∈ xfms, ts.length = groups.length) →
      (∀ g ∈ groups, (c.heap .geomAccel g.vkn).isSome) →
      ∃ m, vpModelCreate c (groups.map some) xfms numInstances p = some m ∧
        m.Carries groups xfms := by
  intro hall
  obtain ⟨m, hm, hcarries⟩ := hall Context.sampleScene [⟨11⟩] (some [sampleTransform]) 1 20 rfl
    (by simp) (by simp; rfl)
  have hinstances : m.instances.map (·.transform) = [unitTransform] := by
    have hwritten := congrArg (Option.map fun m => m.instances.map (·.transform)) hm
    exact Option.some.inj (hwritten.symm.trans (by decide))
  obtain ⟨inst, hinst, hunit⟩ := List.map_eq_singleton_iff.mp hinstances
  have hcolumns := hcarries.transform 0 sampleTransform inst rfl (by rw [hinst]; rfl)
  rw [hunit] at hcolumns
  exact absurd hcolumns.p (by decide)

end Prime

end Vulkanite
