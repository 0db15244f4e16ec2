/-
# Runs of a context

`Step` is one operation on a context: the construction or destruction of an
object, a member function that changes one, or a build of the pipeline, which
stops at `gatherPrograms` or comes to its end.  A new object gets an address at
which no object of its class lives, and an object is destroyed only when no
`shared_ptr` member leads to it.  When exactly it is destroyed is left open (the
application may hold on to it), so these runs include all runs of the reference
counts.

`Invariant` says what holds between operations: references lead to live objects,
the tracked sets and slot tables hold exactly the live objects, data has the size
of its type, no type refers to a compute kernel, and the accels own the SBT
entries that are not free.  `Step.invariant` is the step lemma, with one lemma
for each operation, and `Reachable.invariant` the run lemma.
-/
import Mathlib.Logic.Relation
import Vulkanite.AccelEntries
import Vulkanite.GatherPrograms

namespace Vulkanite

open TypedHeap

/-! ## Steps -/

/-- The operations, by name. -/
inductive Op where
  | newShaderModule
  | deleteShaderModule
  | newCompute
  | deleteShaderProgram
  | newProgType
  | deleteProgType
  | newProg
  | deleteProg
  | setProgData
  | newGeomType
  | deleteGeomType
  | setHitProg
  | setBoundsProg
  | newGeom
  | deleteGeom
  | setGeomData
  | newGeomAccel
  | deleteGeomAccel
  | newInstanceAccel
  | deleteInstanceAccel
  | gatherPrograms
  | build
  deriving DecidableEq, Repr

namespace Context

/-- No live object holds a `shared_ptr` to the object. -/
def Unowned (c : Context) (k : ObjectKind) (p : Ptr) : Prop := ¬ Owned refs c.heap (k, p)

/-- The length of a vector is a `size_t`, and `RangeAllocator::alloc` stays
within `int`, as its assertion says. -/
def CanAllocEntries (c : Context) (n : ℕ) : Prop :=
  n < 2 ^ 64 ∧ (UInt64.ofNat n ≠ 0 → c.sbtRangeAllocator.StaysInInt (UInt64.ofNat n))

/-- One operation. -/
inductive Step : Op → Context → Context → Prop
  | newShaderModule (c : Context) (handle : ℕ) (m : Ptr) (hm : c.heap .shaderModule m = none) :
      Step .newShaderModule c (c.newShaderModule handle m)
  | deleteShaderModule (c : Context) (m : Ptr) (hm : c.Unowned .shaderModule m) :
      Step .deleteShaderModule c (c.deleteShaderModule m)
  | newCompute (c : Context) (m : Ptr) (mod : ShaderModule) (entryPoint : String) (q : Ptr)
      (hm : c.heap .shaderModule m = some mod) (hq : c.heap .shaderProgram q = none) :
      Step .newCompute c (c.newCompute m entryPoint q)
  | deleteShaderProgram (c : Context) (q : Ptr) (hq : c.Unowned .shaderProgram q) :
      Step .deleteShaderProgram c (c.deleteShaderProgram q)
  | newProgType (c : Context) (k : ProgKind) (m : Ptr) (mod : ShaderModule) (entryPoint : String)
      (dataSize : UInt64) (q t : Ptr) (hm : c.heap .shaderModule m = some mod)
      (hq : c.heap .shaderProgram q = none) (ht : c.heap (.progType k) t = none) :
      Step .newProgType c
        ((c.get m mod entryPoint k.stage q).2.newProgType k
          (c.get m mod entryPoint k.stage q).1 dataSize t)
  | deleteProgType (c : Context) (k : ProgKind) (t : Ptr) (ht : c.Unowned (.progType k) t) :
      Step .deleteProgType c (c.deleteProgType k t)
  | newProg (c : Context) (k : ProgKind) (t : Ptr) (type : ProgType) (p : Ptr)
      (ht : c.heap (.progType k) t = some type) (hp : c.heap (.prog k) p = none) :
      Step .newProg c (c.newProg k t type p)
  | deleteProg (c : Context) (k : ProgKind) (o : Prog) (p : Ptr)
      (hp : c.heap (.prog k) p = some o) : Step .deleteProg c (c.deleteProg k o p)
  | setProgData (c : Context) (k : ProgKind) (o : Prog) (data : List UInt8) (p : Ptr)
      (hp : c.heap (.prog k) p = some o) (hdata : data.length = o.data.length) :
      Step .setProgData c (c.setProgData k o data p)
  | newGeomType (c : Context) (kind : GeomKind) (dataSize : UInt64) (t : Ptr)
      (ht : c.heap .geomType t = none) : Step .newGeomType c (c.newGeomType kind dataSize t)
  | deleteGeomType (c : Context) (t : Ptr) (ht : c.Unowned .geomType t) :
      Step .deleteGeomType c (c.deleteGeomType t)
  | setHitProg (c : Context) (t : Ptr) (gt : GeomType) (role : HitRole) (m : Ptr)
      (mod : ShaderModule) (entryPoint : String) (q : Ptr) (ht : c.heap .geomType t = some gt)
      (hm : c.heap .shaderModule m = some mod) (hq : c.heap .shaderProgram q = none) :
      Step .setHitProg c
        ((c.get m mod entryPoint role.stage q).2.setHitProg gt role
          (c.get m mod entryPoint role.stage q).1 t)
  | setBoundsProg (c : Context) (t : Ptr) (gt : GeomType) (m : Ptr) (mod : ShaderModule)
      (entryPoint : String) (q : Ptr) (ht : c.heap .geomType t = some gt)
      (hm : c.heap .shaderModule m = some mod) (hq : c.heap .shaderProgram q = none) :
      Step .setBoundsProg c ((c.newCompute m entryPoint q).setBoundsProg gt q t)
  | newGeom (c : Context) (t : Ptr) (type : GeomType) (g : Ptr)
      (ht : c.heap .geomType t = some type) (hkind : type.kind ≠ .other)
      (hg : c.heap .geom g = none) : Step .newGeom c (c.newGeom t type g)
  | deleteGeom (c : Context) (g : Ptr) (hg : c.Unowned .geom g) :
      Step .deleteGeom c (c.deleteGeom g)
  | setGeomData (c : Context) (o : Geom) (data : List UInt8) (g : Ptr)
      (hg : c.heap .geom g = some o) (hdata : data.length = o.data.length) :
      Step .setGeomData c (c.setGeomData o data g)
  | newGeomAccel (c : Context) (geoms : List (Option Ptr)) (a : Ptr)
      (hgeoms : ∀ g, some g ∈ geoms → (c.heap .geom g).isSome)
      (halloc : c.CanAllocEntries geoms.length) (ha : c.heap .geomAccel a = none) :
      Step .newGeomAccel c (c.newGeomAccel geoms a)
  | deleteGeomAccel (c : Context) (o : GeomAccel) (a : Ptr) (ho : c.heap .geomAccel a = some o)
      (ha : c.Unowned .geomAccel a) : Step .deleteGeomAccel c (c.deleteGeomAccel o a)
  | newInstanceAccel (c : Context) (accels : List (Option Ptr)) (a : Ptr)
      (haccels : ∀ g, some g ∈ accels → (c.heap .geomAccel g).isSome)
      (halloc : c.CanAllocEntries accels.length) (ha : c.heap .instanceAccel a = none) :
      Step .newInstanceAccel c (c.newInstanceAccel accels a)
  | deleteInstanceAccel (c : Context) (o : InstanceAccel) (a : Ptr)
      (ho : c.heap .instanceAccel a = some o) :
      Step .deleteInstanceAccel c (c.deleteInstanceAccel o a)
  | gatherPrograms (c : Context) : Step .gatherPrograms c c.destroyPipeline.gatherPrograms.2
  | build (c c' : Context) (stages : List ShaderStageInfo) (groups : List ShaderGroupInfo)
      (handles : List (List UInt8)) (hrun : c.gatherPrograms = (.ok (stages, groups), c'))
      (hhandles : IsGroupHandles c.rtPipeline.properties groups handles) :
      Step .build c (c'.finishBuild stages groups handles)

/-- A run all of whose operations are allowed. -/
def Run (allowed : Op → Prop) : Context → Context → Prop :=
  Relation.ReflTransGen fun c c' => ∃ op, allowed op ∧ Step op c c'

/-- The states of the runs from a new context. -/
def Reachable (c : Context) : Prop :=
  ∃ properties, Run (fun _ => True) { rtPipeline := { properties } } c

/-- A run extends the reachable states. -/
theorem Reachable.run {c c' : Context} (h : c.Reachable) {allowed : Op → Prop}
    (hrun : Run allowed c c') : c'.Reachable := by
  obtain ⟨properties, hstart⟩ := h
  refine ⟨properties, hstart.trans ?_⟩
  exact Relation.ReflTransGen.mono (fun _ _ ⟨op, _, hstep⟩ => ⟨op, trivial, hstep⟩) _ _ hrun

/-- One more operation. -/
theorem Reachable.step {c c' : Context} (h : c.Reachable) {op : Op} (hstep : Step op c c') :
    c'.Reachable :=
  h.run (Relation.ReflTransGen.single ⟨op, trivial, hstep⟩ : Run (fun _ => True) c c')

/-! ## The invariant -/

/-- The set holds exactly the pointers to live objects. -/
def TracksLive {α : Type} (s : OrderedSet Ptr) (objs : Ptr → Option α) : Prop :=
  ∀ p, p ∈ s ↔ (objs p).isSome

/-- The table holds each live object in the slot it stores, and nothing else. -/
def SlotsOf (t : SlotTable Ptr) (objs : Ptr → Option Prog) : Prop :=
  t.Tracks fun p => (objs p).map Prog.sbtIndex

/-- A slot holds the object that stores its number. -/
theorem SlotsOf.get?_iff {t : SlotTable Ptr} {objs : Ptr → Option Prog} (ht : SlotsOf t objs)
    (id : ℕ) (p : Ptr) : t.get? id = some p ↔ ∃ o, objs p = some o ∧ o.sbtIndex = id :=
  (SlotTable.Tracks.get?_iff ht id p).trans Option.map_eq_some_iff

/-- There is a program at `q`, and it is no compute kernel. -/
def NonCompute (h : Heap) (q : Ptr) : Prop :=
  ∃ o, h .shaderProgram q = some o ∧ o.stage ≠ .COMPUTE

/-- What holds between operations. -/
structure Invariant (c : Context) : Prop where
  closed : Closed refs c.heap
  programs : TracksLive c.rtPipeline.programs (c.heap .shaderProgram)
  progTypes : ∀ k, TracksLive (c.rtPipeline.progTypes k) (c.heap (.progType k))
  geomTypes : TracksLive c.rtPipeline.geomTypes (c.heap .geomType)
  geomAccels : TracksLive c.rtPipeline.geomAccels (c.heap .geomAccel)
  progs : ∀ k, SlotsOf (c.rtPipeline.progs k) (c.heap (.prog k))
  progData : ∀ k p o, c.heap (.prog k) p = some o →
    ∃ t, c.heap (.progType k) o.type = some t ∧ o.data.length = t.dataSize.toNat
  geomData : ∀ p o, c.heap .geom p = some o →
    ∃ t, c.heap .geomType o.type = some t ∧ o.data.length = t.dataSize.toNat
  weak : ∀ m mod e q, c.heap .shaderModule m = some mod → mod.programs e = some q →
    NonCompute c.heap q
  progTypePrograms : ∀ k t o, c.heap (.progType k) t = some o → NonCompute c.heap o.program
  hitPrograms : ∀ t gt role q, c.heap .geomType t = some gt → gt.prog role = some q →
    NonCompute c.heap q
  entries : Entries c.sbtRangeAllocator (accelRange c.heap)
  geomAccelCount : ∀ p a, c.heap .geomAccel p = some a → a.sbtEntryCount.toNat = a.geoms.length
  instanceAccelCount : ∀ p a, c.heap .instanceAccel p = some a →
    a.sbtEntryCount.toNat = a.accels.length

/-- A new context has no objects. -/
theorem invariant_init (properties : PipelineProperties) :
    Invariant { rtPipeline := { properties } } where
  closed := closed_empty
  programs := fun p => by simp [OrderedSet.notMem_empty]
  progTypes := fun k p => by simp [OrderedSet.notMem_empty]
  geomTypes := fun p => by simp [OrderedSet.notMem_empty]
  geomAccels := fun p => by simp [OrderedSet.notMem_empty]
  progs := fun _ => SlotTable.tracks_empty
  progData := fun k p o h => by cases h
  geomData := fun p o h => by cases h
  weak := fun m mod e q h => by cases h
  progTypePrograms := fun k t o h => by cases h
  hitPrograms := fun t gt role q h => by cases h
  entries := by
    have hrange : accelRange (fun _ _ => none) = fun _ => none := by
      funext r
      unfold accelRange
      split <;> rfl
    rw [hrange]
    exact entries_init
  geomAccelCount := fun p a h => by cases h
  instanceAccelCount := fun p a h => by cases h

/-! ### How its parts change -/

section Parts

variable {h : Heap} {k : ObjectKind} {p : Ptr} {s : OrderedSet Ptr}

/-- A new object enters the set of its class. -/
theorem TracksLive.insert (hs : TracksLive s (h k)) (o : Obj k) :
    TracksLive (s.insert p) (set h k p (some o) k) := by
  intro q
  rw [OrderedSet.mem_insert, set_apply, hs q]
  split_ifs with hq
  · simp [hq]
  · simp [hq]

/-- An object that dies leaves the set of its class. -/
theorem TracksLive.erase (hs : TracksLive s (h k)) :
    TracksLive (s.erase p) (set h k p none k) := by
  intro q
  rw [OrderedSet.mem_erase, set_apply, hs q]
  split_ifs with hq
  · simp [hq]
  · simp [hq]

/-- Changing a live object. -/
theorem TracksLive.update (hs : TracksLive s (h k)) {o : Obj k} (hp : h k p = some o) (o' : Obj k) :
    TracksLive s (set h k p (some o') k) := by
  intro q
  rw [set_apply, hs q]
  split_ifs with hq
  · simp [hq, hp]
  · rfl

/-- The slots after one object was changed. -/
theorem slots_set (h : Heap) (k : ProgKind) (p : Ptr) (o : Option Prog) :
    (fun q => (set h (.prog k) p o (.prog k) q).map Prog.sbtIndex) =
      Function.update (fun q => (h (.prog k) q).map Prog.sbtIndex) p (o.map Prog.sbtIndex) :=
  map_set h (.prog k) p o Prog.sbtIndex

/-- An object that stores the slot it was given. -/
theorem SlotsOf.insert {t : SlotTable Ptr} {k : ProgKind} (ht : SlotsOf t (h (.prog k)))
    (hp : h (.prog k) p = none) {o : Prog} (ho : o.sbtIndex = (t.insert p).1) :
    SlotsOf (t.insert p).2 (set h (.prog k) p (some o) (.prog k)) := by
  unfold SlotsOf
  rw [slots_set, Option.map_some, ho]
  exact SlotTable.Tracks.insert ht (by rw [hp, Option.map_none])

/-- An object that leaves its slot. -/
theorem SlotsOf.release {t : SlotTable Ptr} {k : ProgKind} (ht : SlotsOf t (h (.prog k)))
    {o : Prog} (hp : h (.prog k) p = some o) :
    SlotsOf (t.release o.sbtIndex) (set h (.prog k) p none (.prog k)) := by
  unfold SlotsOf
  rw [slots_set, Option.map_none]
  exact SlotTable.Tracks.release ht (by rw [hp, Option.map_some])

/-- An object that stays in its slot. -/
theorem SlotsOf.update {t : SlotTable Ptr} {k : ProgKind} (ht : SlotsOf t (h (.prog k)))
    {o o' : Prog} (hp : h (.prog k) p = some o) (ho' : o'.sbtIndex = o.sbtIndex) :
    SlotsOf t (set h (.prog k) p (some o') (.prog k)) := by
  have hslot : Function.update (fun q => (h (.prog k) q).map Prog.sbtIndex) p
      (some o'.sbtIndex) = fun q => (h (.prog k) q).map Prog.sbtIndex := by
    rw [ho', Function.update_eq_self_iff, hp, Option.map_some]
  unfold SlotsOf
  rw [slots_set, Option.map_some, hslot]
  exact ht

/-- A new program leaves the others as they are. -/
theorem NonCompute.set_fresh {q : Ptr} (hq : NonCompute h q) (hp : h .shaderProgram p = none)
    (o : ShaderProgram) : NonCompute (set h .shaderProgram p (some o)) q := by
  obtain ⟨o', ho', hstage⟩ := hq
  have hne : q ≠ p := by
    rintro rfl
    rw [hp] at ho'
    cases ho'
  exact ⟨o', by rw [set_of_ptr_ne h _ _ hne]; exact ho', hstage⟩

/-- Destroying another program leaves a program as it is. -/
theorem NonCompute.set_none {q : Ptr} (hq : NonCompute h q) (hne : q ≠ p) :
    NonCompute (set h .shaderProgram p none) q := by
  obtain ⟨o, ho, hstage⟩ := hq
  exact ⟨o, by rw [set_of_ptr_ne h _ _ hne]; exact ho, hstage⟩

end Parts

/-! ### Shader modules and programs -/

namespace Invariant

variable {c : Context}

/-- A new module has no weak pointers. -/
theorem newShaderModule (h : c.Invariant) (handle : ℕ) (m : Ptr) :
    (c.newShaderModule handle m).Invariant :=
  { h with
    closed := h.closed.set_some (by simp [refs])
    weak := by
      intro m' mod e q hmod hq
      simp only [Context.newShaderModule, setObj, set_apply] at hmod
      split_ifs at hmod with heq
      · obtain rfl := Option.some.inj hmod
        cases hq
      · exact h.weak m' mod e q hmod hq }

/-- No program is left of a module that dies. -/
theorem deleteShaderModule (h : c.Invariant) {m : Ptr} (hm : c.Unowned .shaderModule m) :
    (c.deleteShaderModule m).Invariant :=
  { h with
    closed := h.closed.set_none hm
    weak := by
      intro m' mod e q hmod hq
      simp only [Context.deleteShaderModule, setObj, set_apply] at hmod
      split_ifs at hmod
      exact h.weak m' mod e q hmod hq }

/-- A new program, whatever its stage. -/
theorem newShaderProgram (h : c.Invariant) {m : Ptr} {mod : ShaderModule}
    (hm : c.heap .shaderModule m = some mod) {q : Ptr} (hq : c.heap .shaderProgram q = none)
    (entryPoint : String) (stage : ShaderStage) :
    (c.newShaderProgram m entryPoint stage q).Invariant :=
  { h with
    closed := h.closed.set_some (by simp [refs, hm])
    programs := h.programs.insert _
    weak := fun m' mod' e q' hmod hq' => (h.weak m' mod' e q' hmod hq').set_fresh hq _
    progTypePrograms := fun k t o ho => (h.progTypePrograms k t o ho).set_fresh hq _
    hitPrograms := fun t gt role q' ht hq' => (h.hitPrograms t gt role q' ht hq').set_fresh hq _ }

/-- The weak pointers hold no object alive. -/
theorem closed_expireWeak {h : Heap} (hc : Closed refs h) (q : Ptr) :
    Closed refs (expireWeak h q) := by
  have hlive : ∀ k p, (expireWeak h q k p).isSome = (h k p).isSome := by
    intro k p
    by_cases hk : k = .shaderModule
    · subst hk
      simp [expireWeak]
    · rw [expireWeak, Function.update_of_ne hk]
  -- modules hold no `shared_ptr`, so their references are the same
  rintro r ⟨k, p, o, ho, hr⟩
  rw [hlive]
  by_cases hk : k = .shaderModule
  · subst hk
    exact absurd hr List.not_mem_nil
  · rw [expireWeak, Function.update_of_ne hk] at ho
    exact hc r ⟨k, p, o, ho, hr⟩

/-- A program that dies is in no type, and weak pointers to it expire. -/
theorem deleteShaderProgram (h : c.Invariant) {q : Ptr} (hq : c.Unowned .shaderProgram q) :
    (c.deleteShaderProgram q).Invariant :=
  { h with
    closed := closed_expireWeak (h.closed.set_none hq) q
    programs := h.programs.erase
    weak := by
      intro m mod e q' hmod hq'
      simp only [Context.deleteShaderProgram, expireWeak, Function.update_self] at hmod
      obtain ⟨mod', hmod', rfl⟩ := Option.map_eq_some_iff.mp hmod
      simp only at hq'
      split_ifs at hq' with hexp
      have hne : q' ≠ q := by
        rintro rfl
        exact hexp hq'
      exact (h.weak m mod' e q' hmod' hq').set_none hne
    progTypePrograms := by
      intro k t o ho
      have hne : o.program ≠ q := by
        rintro rfl
        exact hq ⟨.progType k, t, o, ho, by simp [refs]⟩
      exact (h.progTypePrograms k t o ho).set_none hne
    hitPrograms := by
      intro t gt role q' ht hq'
      have hne : q' ≠ q := by
        rintro rfl
        exact hq ⟨.geomType, t, gt, ht, mem_refs_geomType_prog hq'⟩
      exact (h.hitPrograms t gt role q' ht hq').set_none hne }

/-- `get` returns a program that is no compute kernel, and creates it if it has to. -/
theorem get (h : c.Invariant) {m : Ptr} {mod : ShaderModule}
    (hm : c.heap .shaderModule m = some mod) {q : Ptr} (hq : c.heap .shaderProgram q = none)
    (entryPoint : String) {stage : ShaderStage} (hstage : stage ≠ .COMPUTE) :
    (c.get m mod entryPoint stage q).2.Invariant ∧
      NonCompute (c.get m mod entryPoint stage q).2.heap (c.get m mod entryPoint stage q).1 := by
  unfold Context.get
  split
  -- the cache has the program
  · rename_i q' hcache
    exact ⟨h, h.weak m mod entryPoint q' hm hcache⟩
  -- it has none, or one that has died: make one and store it
  · have h₁ := h.newShaderProgram hm hq entryPoint stage
    have hnew : NonCompute (c.newShaderProgram m entryPoint stage q).heap q :=
      ⟨{ entryPoint, shaderModule := m, stage }, set_self c.heap .shaderProgram q _, hstage⟩
    refine ⟨{ h₁ with closed := h₁.closed.set_some (by simp [refs]), weak := ?_ }, hnew⟩
    intro m' mod' e q' hmod' hq'
    simp only [setObj, set_apply] at hmod'
    split_ifs at hmod' with heq
    · obtain rfl := Option.some.inj hmod'
      simp only [Function.update_apply] at hq'
      split_ifs at hq' with he
      · obtain rfl := Option.some.inj hq'
        exact hnew
      · exact h₁.weak m mod e q' hm hq'
    · exact h₁.weak m' mod' e q' hmod' hq'

end Invariant

/-- A new program leaves objects of other classes alone. -/
theorem newShaderProgram_heap_of_ne (c : Context) (m : Ptr) (entryPoint : String)
    (stage : ShaderStage) (q : Ptr) {k : ObjectKind} (hk : k ≠ .shaderProgram) :
    (c.newShaderProgram m entryPoint stage q).heap k = c.heap k :=
  set_of_kind_ne _ _ _ hk

/-- `get` touches shader modules and programs only. -/
theorem get_heap_of_ne (c : Context) (m : Ptr) (mod : ShaderModule) (entryPoint : String)
    (stage : ShaderStage) (q : Ptr) {k : ObjectKind} (hk : k ≠ .shaderModule)
    (hk' : k ≠ .shaderProgram) : (c.get m mod entryPoint stage q).2.heap k = c.heap k := by
  unfold Context.get
  split
  · rfl
  · exact (set_of_kind_ne _ _ _ hk).trans (newShaderProgram_heap_of_ne c m entryPoint stage q hk')

namespace Invariant

variable {c : Context}

/-! ### Ray generation and miss programs -/

theorem progType_injective : Function.Injective ObjectKind.progType :=
  fun _ _ => ObjectKind.progType.inj

theorem prog_injective : Function.Injective ObjectKind.prog := fun _ _ => ObjectKind.prog.inj

/-- One more or one less type of programs, and its set. -/
theorem progTypes_update (h : c.Invariant) {k : ProgKind} {t : Ptr} {x : Option ProgType}
    {types : OrderedSet Ptr}
    (htypes : TracksLive types (set c.heap (.progType k) t x (.progType k))) (k' : ProgKind) :
    TracksLive (Function.update c.rtPipeline.progTypes k types k')
      (set c.heap (.progType k) t x (.progType k')) :=
  forall_update_set (R := fun _ s objs => TracksLive s objs) progType_injective h.progTypes
    htypes k'

/-- A type that no program has. -/
theorem progData_set_progType (h : c.Invariant) {k : ProgKind} {t : Ptr}
    (ht : ∀ p o, c.heap (.prog k) p = some o → o.type ≠ t) (x : Option ProgType) {k' : ProgKind}
    {p : Ptr} {o : Prog} (ho : c.heap (.prog k') p = some o) :
    ∃ t', set c.heap (.progType k) t x (.progType k') o.type = some t' ∧
      o.data.length = t'.dataSize.toNat := by
  obtain ⟨t', ht', hdata⟩ := h.progData k' p o ho
  refine ⟨t', set_eq_some (k := .progType k) (p := t) ht' (fun heq => ?_) x, hdata⟩
  obtain ⟨hk, hp⟩ := Prod.mk.inj heq
  obtain rfl := progType_injective hk
  exact ht p o ho hp

/-- A type whose program is no compute kernel. -/
theorem progTypePrograms_set (h : c.Invariant) {k : ProgKind} {t : Ptr} {x : Option ProgType}
    (hx : ∀ o, x = some o → NonCompute c.heap o.program) {k' : ProgKind} {t' : Ptr} {o : ProgType}
    (ho : set c.heap (.progType k) t x (.progType k') t' = some o) :
    NonCompute c.heap o.program :=
  forall_set (P := fun _ o => NonCompute c.heap (ProgType.program o)) progType_injective
    h.progTypePrograms hx ho

/-- One more or one less program, and its table. -/
theorem progs_update (h : c.Invariant) {k : ProgKind} {p : Ptr} {x : Option Prog}
    {table : SlotTable Ptr} (htable : SlotsOf table (set c.heap (.prog k) p x (.prog k)))
    (k' : ProgKind) : SlotsOf (Function.update c.rtPipeline.progs k table k')
      (set c.heap (.prog k) p x (.prog k')) :=
  forall_update_set (h := c.heap) (R := fun _ t (objs : Ptr → Option Prog) => SlotsOf t objs)
    prog_injective h.progs htable k'

/-- A program with as much data as its type says. -/
theorem progData_set_prog (h : c.Invariant) {k : ProgKind} {p : Ptr} {x : Option Prog}
    (hx : ∀ o, x = some o →
      ∃ t, c.heap (.progType k) o.type = some t ∧ o.data.length = t.dataSize.toNat)
    {k' : ProgKind} {p' : Ptr} {o : Prog}
    (ho : set c.heap (.prog k) p x (.prog k') p' = some o) :
    ∃ t, c.heap (.progType k') o.type = some t ∧ o.data.length = t.dataSize.toNat :=
  forall_set (P := fun k' o => ∃ t, c.heap (.progType k') (Prog.type o) = some t ∧
    o.data.length = t.dataSize.toNat) prog_injective h.progData hx ho

/-- A type enters the set of its kind, with a program that is no kernel. -/
theorem newProgType (h : c.Invariant) (k : ProgKind) {q t : Ptr} (hq : NonCompute c.heap q)
    (ht : c.heap (.progType k) t = none) (dataSize : UInt64) :
    (c.newProgType k q dataSize t).Invariant :=
  { h with
    closed := by
      obtain ⟨o, ho, -⟩ := hq
      exact h.closed.set_some (by simp [refs, ho])
    progTypes := h.progTypes_update ((h.progTypes k).insert _)
    progData := by
      intro k' p o ho
      refine h.progData_set_progType (fun p' o' ho' heq => ?_) _ ho
      -- the type of a program is alive, so it is not at a free address
      obtain ⟨t', ht', -⟩ := h.progData k p' o' ho'
      rw [heq, ht] at ht'
      cases ht'
    progTypePrograms := by
      intro k' t' o ho
      refine h.progTypePrograms_set (fun o' ho' => ?_) ho
      obtain rfl := Option.some.inj ho'
      exact hq }

/-- A type that dies has no programs left. -/
theorem deleteProgType (h : c.Invariant) (k : ProgKind) {t : Ptr}
    (ht : c.Unowned (.progType k) t) : (c.deleteProgType k t).Invariant :=
  { h with
    closed := h.closed.set_none ht
    progTypes := h.progTypes_update (h.progTypes k).erase
    progData := by
      intro k' p o ho
      refine h.progData_set_progType (fun p' o' ho' heq => ?_) _ ho
      exact ht ⟨.prog k, p', o', ho', by simp [refs, heq]⟩
    progTypePrograms := by
      intro k' t' o ho
      exact h.progTypePrograms_set (by rintro _ ⟨⟩) ho }

/-- A program takes a slot, and has as many bytes as its type says. -/
theorem newProg (h : c.Invariant) (k : ProgKind) {t p : Ptr} {type : ProgType}
    (ht : c.heap (.progType k) t = some type) (hp : c.heap (.prog k) p = none) :
    (c.newProg k t type p).Invariant :=
  { h with
    closed := h.closed.set_some (by simp [refs, ht])
    progs := h.progs_update ((h.progs k).insert hp rfl)
    progData := by
      intro k' p' o ho
      refine h.progData_set_prog (fun o' ho' => ?_) ho
      obtain rfl := Option.some.inj ho'
      exact ⟨type, ht, by simp⟩ }

/-- A program leaves its slot. -/
theorem deleteProg (h : c.Invariant) (k : ProgKind) {p : Ptr} {o : Prog}
    (hp : c.heap (.prog k) p = some o) : (c.deleteProg k o p).Invariant :=
  { h with
    closed := by
      refine h.closed.set_none ?_
      rintro ⟨k', p', o', -, hr⟩
      cases k' <;> simp [refs] at hr
    progs := h.progs_update ((h.progs k).release hp)
    progData := by
      intro k' p' o' ho
      exact h.progData_set_prog (by rintro _ ⟨⟩) ho }

/-- The bytes of a program are replaced by as many. -/
theorem setProgData (h : c.Invariant) (k : ProgKind) {p : Ptr} {o : Prog} {data : List UInt8}
    (hp : c.heap (.prog k) p = some o) (hdata : data.length = o.data.length) :
    (c.setProgData k o data p).Invariant := by
  obtain ⟨t, ht, hlen⟩ := h.progData k p o hp
  have hslots : SlotsOf (c.rtPipeline.progs k)
      (set c.heap (.prog k) p (some { o with data }) (.prog k)) := (h.progs k).update hp rfl
  exact
    { h with
      closed := h.closed.set_some (by simp [refs, ht])
      progs := by
        intro k'
        have hupdate := h.progs_update hslots k'
        rwa [Function.update_eq_self] at hupdate
      progData := by
        intro k' p' o' ho
        refine h.progData_set_prog (fun o'' ho'' => ?_) ho
        obtain rfl := Option.some.inj ho''
        exact ⟨t, ht, hdata.trans hlen⟩ }

/-! ### Geometry types and geometries -/

/-- A geometry type starts without programs. -/
theorem newGeomType (h : c.Invariant) {t : Ptr} (ht : c.heap .geomType t = none)
    (kind : GeomKind) (dataSize : UInt64) : (c.newGeomType kind dataSize t).Invariant :=
  { h with
    closed := h.closed.set_some (by simp [refs, refTo])
    geomTypes := h.geomTypes.insert _
    geomData := by
      intro g o ho
      obtain ⟨t', ht', hdata⟩ := h.geomData g o ho
      have hne : o.type ≠ t := by
        intro heq
        rw [heq, ht] at ht'
        cases ht'
      exact ⟨t', (set_of_ptr_ne _ _ _ hne).trans ht', hdata⟩
    hitPrograms := by
      intro t' gt role q ho hq
      simp only [Context.newGeomType, setObj, set_apply] at ho
      split_ifs at ho
      · obtain rfl := Option.some.inj ho
        cases role <;> cases hq
      · exact h.hitPrograms t' gt role q ho hq }

/-- A geometry type that dies has no geometries left. -/
theorem deleteGeomType (h : c.Invariant) {t : Ptr} (ht : c.Unowned .geomType t) :
    (c.deleteGeomType t).Invariant :=
  { h with
    closed := h.closed.set_none ht
    geomTypes := h.geomTypes.erase
    geomData := by
      intro g o ho
      obtain ⟨t', ht', hdata⟩ := h.geomData g o ho
      have hne : o.type ≠ t := by
        rintro rfl
        exact ht ⟨.geom, g, o, ho, by simp [refs]⟩
      exact ⟨t', (set_of_ptr_ne _ _ _ hne).trans ht', hdata⟩
    hitPrograms := by
      intro t' gt role q ho hq
      simp only [Context.deleteGeomType, setObj, set_apply] at ho
      split_ifs at ho
      exact h.hitPrograms t' gt role q ho hq }

/-- A geometry type whose data size stays and whose references are live. -/
theorem updateGeomType (h : c.Invariant) {t : Ptr} {gt gt' : GeomType}
    (ht : c.heap .geomType t = some gt) (hsize : gt'.dataSize = gt.dataSize)
    (hrefs : ∀ r ∈ refs .geomType gt', (c.heap r.1 r.2).isSome)
    (hprogs : ∀ role q, gt'.prog role = some q → NonCompute c.heap q) :
    (c.setObj .geomType t (some gt')).Invariant :=
  { h with
    closed := h.closed.set_some hrefs
    geomTypes := h.geomTypes.update ht gt'
    geomData := by
      intro g o ho
      obtain ⟨t', ht', hdata⟩ := h.geomData g o ho
      simp only [setObj, set_apply]
      split_ifs with heq
      · rw [heq, ht] at ht'
        obtain rfl := Option.some.inj ht'
        exact ⟨gt', rfl, by rw [hsize]; exact hdata⟩
      · exact ⟨t', ht', hdata⟩
    hitPrograms := by
      intro t' gt'' role q ho hq
      simp only [setObj, set_apply] at ho
      split_ifs at ho
      · obtain rfl := Option.some.inj ho
        exact hprogs role q hq
      · exact h.hitPrograms t' gt'' role q ho hq }

/-- The programs and the bounds kernel of a geometry type are what it refers to. -/
theorem mem_refs_geomType {gt : GeomType} {r : ObjectKind × Ptr} :
    r ∈ refs .geomType gt ↔
      r.1 = .shaderProgram ∧ ((∃ role, gt.prog role = some r.2) ∨ gt.boundsKernel = some r.2) := by
  simp only [refs, List.mem_append, mem_refTo]
  constructor
  · rintro (((⟨hk, hq⟩ | ⟨hk, hq⟩) | ⟨hk, hq⟩) | ⟨hk, hq⟩)
    · exact ⟨hk, Or.inl ⟨.ch, hq⟩⟩
    · exact ⟨hk, Or.inl ⟨.ah, hq⟩⟩
    · exact ⟨hk, Or.inl ⟨.is, hq⟩⟩
    · exact ⟨hk, Or.inr hq⟩
  · rintro ⟨hk, ⟨role, hq⟩ | hq⟩
    · cases role <;> simp only [GeomType.prog] at hq <;> simp [hk, hq]
    · simp [hk, hq]

/-- A geometry type gets a program that is no kernel. -/
theorem setHitProg (h : c.Invariant) {t q : Ptr} {gt : GeomType}
    (ht : c.heap .geomType t = some gt) (role : HitRole) (hq : NonCompute c.heap q) :
    (c.setHitProg gt role q t).Invariant := by
  have hprogs : ∀ role' q', (gt.setProg role q).prog role' = some q' → NonCompute c.heap q' := by
    intro role' q' hq'
    rw [GeomType.prog_setProg] at hq'
    split_ifs at hq'
    · obtain rfl := Option.some.inj hq'
      exact hq
    · exact h.hitPrograms t gt role' q' ht hq'
  refine h.updateGeomType ht (by cases role <;> rfl) (fun r hr => ?_) hprogs
  obtain ⟨k, p⟩ := r
  obtain ⟨rfl, ⟨role', hp⟩ | hp⟩ := mem_refs_geomType.mp hr
  · obtain ⟨o, ho, -⟩ := hprogs role' p hp
    exact Option.isSome_iff_exists.mpr ⟨o, ho⟩
  · have hb : gt.boundsKernel = some p := by cases role <;> exact hp
    exact h.closed _ ⟨.geomType, t, gt, ht, mem_refs_geomType.mpr ⟨rfl, Or.inr hb⟩⟩

/-- A geometry type gets a bounds kernel, which is in no role. -/
theorem setBoundsProg (h : c.Invariant) {t q : Ptr} {gt : GeomType}
    (ht : c.heap .geomType t = some gt) (hq : (c.heap .shaderProgram q).isSome) :
    (c.setBoundsProg gt q t).Invariant := by
  have hprogs : ∀ role', { gt with boundsKernel := some q }.prog role' = gt.prog role' :=
    fun role' => by cases role' <;> rfl
  refine h.updateGeomType ht rfl (fun r hr => ?_) fun role' q' hq' =>
    h.hitPrograms t gt role' q' ht ((hprogs role').symm.trans hq')
  obtain ⟨k, p⟩ := r
  obtain ⟨rfl, ⟨role', hp⟩ | hp⟩ := mem_refs_geomType.mp hr
  · rw [hprogs] at hp
    exact h.closed _ ⟨.geomType, t, gt, ht, mem_refs_geomType.mpr ⟨rfl, Or.inl ⟨role', hp⟩⟩⟩
  · obtain rfl := Option.some.inj hp
    exact hq

/-- A geometry has as many bytes as its type says. -/
theorem newGeom (h : c.Invariant) {t : Ptr} {type : GeomType}
    (ht : c.heap .geomType t = some type) (g : Ptr) : (c.newGeom t type g).Invariant :=
  { h with
    closed := h.closed.set_some (by simp [refs, ht])
    geomData := by
      intro g' o ho
      simp only [Context.newGeom, setObj, set_apply] at ho
      split_ifs at ho
      · obtain rfl := Option.some.inj ho
        exact ⟨type, ht, by simp⟩
      · exact h.geomData g' o ho }

/-- A geometry that dies is in no accel. -/
theorem deleteGeom (h : c.Invariant) {g : Ptr} (hg : c.Unowned .geom g) :
    (c.deleteGeom g).Invariant :=
  { h with
    closed := h.closed.set_none hg
    geomData := by
      intro g' o ho
      simp only [Context.deleteGeom, setObj, set_apply] at ho
      split_ifs at ho
      exact h.geomData g' o ho }

/-- The bytes of a geometry are replaced by as many. -/
theorem setGeomData (h : c.Invariant) {g : Ptr} {o : Geom} {data : List UInt8}
    (hg : c.heap .geom g = some o) (hdata : data.length = o.data.length) :
    (c.setGeomData o data g).Invariant :=
  { h with
    closed := by
      obtain ⟨t, ht, -⟩ := h.geomData g o hg
      exact h.closed.set_some (by simp [refs, ht])
    geomData := by
      intro g' o' ho
      simp only [Context.setGeomData, setObj, set_apply] at ho
      split_ifs at ho
      · obtain rfl := Option.some.inj ho
        obtain ⟨t, ht, hlen⟩ := h.geomData g o hg
        exact ⟨t, ht, hdata.trans hlen⟩
      · exact h.geomData g' o' ho }

/-! ### Acceleration structures -/

/-- A new object whose members are live objects of one kind. -/
theorem closed_set_refTo (h : c.Invariant) {k k' : ObjectKind} {p : Ptr} {o : Obj k}
    {ps : List (Option Ptr)} (hrefs : refs k o = ps.flatMap (refTo k'))
    (hps : ∀ q, some q ∈ ps → (c.heap k' q).isSome) : Closed refs (set c.heap k p (some o)) := by
  refine h.closed.set_some fun r hr => ?_
  rw [hrefs] at hr
  obtain ⟨q, hq, hr⟩ := List.mem_flatMap.mp hr
  obtain ⟨hk, hq'⟩ := mem_refTo.mp hr
  rw [hk]
  exact hps r.2 (hq' ▸ hq)

/-- An accel gets an entry for each of its geometries. -/
theorem newGeomAccel (h : c.Invariant) {geoms : List (Option Ptr)} {a : Ptr}
    (hgeoms : ∀ g, some g ∈ geoms → (c.heap .geom g).isSome)
    (halloc : c.CanAllocEntries geoms.length) (ha : c.heap .geomAccel a = none) :
    (c.newGeomAccel geoms a).Invariant :=
  { h with
    closed := h.closed_set_refTo rfl hgeoms
    geomAccels := h.geomAccels.insert _
    entries := by
      have hfresh : accelRange c.heap (.geomAccel, a) = none := by simp [accelRange, ha]
      have hentries := h.entries.allocEntries hfresh halloc.2
      simp only [Context.newGeomAccel, setObj, accelRange_set_geomAccel]
      exact hentries
    geomAccelCount := by
      intro p o ho
      simp only [Context.newGeomAccel, setObj, set_apply] at ho
      split_ifs at ho
      · obtain rfl := Option.some.inj ho
        exact UInt64.toNat_ofNat_of_lt' halloc.1
      · exact h.geomAccelCount p o ho }

/-- An accel gives its entries back. -/
theorem deleteGeomAccel (h : c.Invariant) {a : Ptr} {o : GeomAccel}
    (ho : c.heap .geomAccel a = some o) (ha : c.Unowned .geomAccel a) :
    (c.deleteGeomAccel o a).Invariant :=
  { h with
    closed := h.closed.set_none ha
    geomAccels := h.geomAccels.erase
    entries := by
      have hrange :
          accelRange c.heap (.geomAccel, a) = some (o.sbtEntryBegin, o.sbtEntryCount) := by
        simp [accelRange, ho]
      simp only [Context.deleteGeomAccel, setObj, accelRange_set_geomAccel]
      exact h.entries.release hrange
    geomAccelCount := by
      intro p o' ho'
      simp only [Context.deleteGeomAccel, setObj, set_apply] at ho'
      split_ifs at ho'
      exact h.geomAccelCount p o' ho' }

/-- An instance accel gets entries as well, which no record is written to. -/
theorem newInstanceAccel (h : c.Invariant) {accels : List (Option Ptr)} {a : Ptr}
    (haccels : ∀ g, some g ∈ accels → (c.heap .geomAccel g).isSome)
    (halloc : c.CanAllocEntries accels.length) (ha : c.heap .instanceAccel a = none) :
    (c.newInstanceAccel accels a).Invariant :=
  { h with
    closed := h.closed_set_refTo rfl haccels
    entries := by
      have hfresh : accelRange c.heap (.instanceAccel, a) = none := by simp [accelRange, ha]
      have hentries := h.entries.allocEntries hfresh halloc.2
      simp only [Context.newInstanceAccel, setObj, accelRange_set_instanceAccel]
      exact hentries
    instanceAccelCount := by
      intro p o ho
      simp only [Context.newInstanceAccel, setObj, set_apply] at ho
      split_ifs at ho
      · obtain rfl := Option.some.inj ho
        exact UInt64.toNat_ofNat_of_lt' halloc.1
      · exact h.instanceAccelCount p o ho }

/-- An instance accel gives its entries back. -/
theorem deleteInstanceAccel (h : c.Invariant) {a : Ptr} {o : InstanceAccel}
    (ho : c.heap .instanceAccel a = some o) : (c.deleteInstanceAccel o a).Invariant :=
  { h with
    closed := by
      refine h.closed.set_none ?_
      rintro ⟨k', p', o', -, hr⟩
      cases k' <;> simp [refs] at hr
    entries := by
      have hrange : accelRange c.heap (.instanceAccel, a) =
          some (o.sbtEntryBegin, o.sbtEntryCount) := by simp [accelRange, ho]
      simp only [Context.deleteInstanceAccel, setObj, accelRange_set_instanceAccel]
      exact h.entries.release hrange
    instanceAccelCount := by
      intro p o' ho'
      simp only [Context.deleteInstanceAccel, setObj, set_apply] at ho'
      split_ifs at ho'
      exact h.instanceAccelCount p o' ho' }

/-! ### Gathering programs -/

/-- The index of an object does not matter to what it refers to. -/
theorem refs_congr {k : ObjectKind} {o o' : Obj k} (h : eraseIndex k o = eraseIndex k o') :
    refs k o = refs k o' := by
  cases k with
  | shaderProgram => rw [refs, refs, (eraseIndex_shaderProgram h).2.1]
  | progType k => rw [refs, refs, (eraseIndex_progType (k := k) h).2]
  | geomType =>
    obtain ⟨-, hprog, hbounds⟩ := eraseIndex_geomType h
    have hch := hprog .ch
    have hah := hprog .ah
    have his := hprog .is
    simp only [GeomType.prog] at hch hah his
    rw [refs, refs, hch, hah, his, hbounds]
  | _ => exact congrArg _ h

/-- Programs keep their stage. -/
theorem nonCompute_of_sameButIndices {h h' : Heap} (hs : SameButIndices h h') {q : Ptr}
    (hq : NonCompute h q) : NonCompute h' q := by
  obtain ⟨o, ho, hstage⟩ := hq
  obtain ⟨o', ho', herase⟩ := hs.symm.get ho
  exact ⟨o', ho', (eraseIndex_shaderProgram herase).2.2 ▸ hstage⟩

/-- **Other indices do not matter to the invariant.** -/
theorem sameButIndices (h : c.Invariant) {heap' : Heap} (hs : SameButIndices c.heap heap') :
    Invariant { c with heap := heap' } :=
  { closed := by
      rintro r ⟨k, p, o', ho', hr⟩
      obtain ⟨o, ho, herase⟩ := hs.get ho'
      rw [hs.isSome_iff]
      exact h.closed r ⟨k, p, o, ho, refs_congr herase ▸ hr⟩
    programs := fun p => (h.programs p).trans (hs.isSome_iff _ _).symm
    progTypes := fun k p => (h.progTypes k p).trans (hs.isSome_iff _ _).symm
    geomTypes := fun p => (h.geomTypes p).trans (hs.isSome_iff _ _).symm
    geomAccels := fun p => (h.geomAccels p).trans (hs.isSome_iff _ _).symm
    progs := by
      intro k
      dsimp only
      rw [hs.eq_of_erase_id (.prog k) fun _ => rfl]
      exact h.progs k
    progData := by
      intro k p o ho
      dsimp only at ho
      rw [hs.eq_of_erase_id (.prog k) fun _ => rfl] at ho
      obtain ⟨t, ht, hlen⟩ := h.progData k p o ho
      obtain ⟨t', ht', herase⟩ := hs.symm.get ht
      exact ⟨t', ht', by rw [hlen, (eraseIndex_progType herase).1]⟩
    geomData := by
      intro g o ho
      dsimp only at ho
      rw [hs.eq_of_erase_id .geom fun _ => rfl] at ho
      obtain ⟨t, ht, hlen⟩ := h.geomData g o ho
      obtain ⟨t', ht', herase⟩ := hs.symm.get ht
      exact ⟨t', ht', by rw [hlen, (eraseIndex_geomType herase).1]⟩
    weak := by
      intro m mod e q hmod hq
      dsimp only at hmod
      rw [hs.eq_of_erase_id .shaderModule fun _ => rfl] at hmod
      exact nonCompute_of_sameButIndices hs (h.weak m mod e q hmod hq)
    progTypePrograms := by
      intro k t o' ho'
      obtain ⟨o, ho, herase⟩ := hs.get ho'
      rw [← (eraseIndex_progType herase).2]
      exact nonCompute_of_sameButIndices hs (h.progTypePrograms k t o ho)
    hitPrograms := by
      intro t gt' role q hgt' hq
      obtain ⟨gt, hgt, herase⟩ := hs.get hgt'
      exact nonCompute_of_sameButIndices hs
        (h.hitPrograms t gt role q hgt (((eraseIndex_geomType herase).2.1 role).trans hq))
    entries := by
      rw [accelRange_congr (hs.eq_of_erase_id .geomAccel fun _ => rfl)
        (hs.eq_of_erase_id .instanceAccel fun _ => rfl)]
      exact h.entries
    geomAccelCount := by
      intro p a ha
      dsimp only at ha
      rw [hs.eq_of_erase_id .geomAccel fun _ => rfl] at ha
      exact h.geomAccelCount p a ha
    instanceAccelCount := by
      intro p a ha
      dsimp only at ha
      rw [hs.eq_of_erase_id .instanceAccel fun _ => rfl] at ha
      exact h.instanceAccelCount p a ha }

/-- `gatherPrograms` keeps the invariant, whether it throws or not. -/
theorem gatherPrograms (h : c.Invariant) : c.gatherPrograms.2.Invariant :=
  h.sameButIndices (gatherPrograms_frame c.rtPipeline c.heap)

/-- The pipeline holds no objects. -/
theorem destroyPipeline (h : c.Invariant) : c.destroyPipeline.Invariant :=
  { h with }

/-- A build leaves the objects and their numbers alone. -/
theorem finishBuild (h : c.Invariant) (stages : List ShaderStageInfo)
    (groups : List ShaderGroupInfo) (handles : List (List UInt8)) :
    (c.finishBuild stages groups handles).Invariant :=
  { h with }

end Invariant

/-! ## Every run -/

/-- **Step lemma**: every operation keeps the invariant. -/
theorem Step.invariant {op : Op} {c c' : Context} (hstep : Step op c c') (h : c.Invariant) :
    c'.Invariant := by
  cases hstep with
  | newShaderModule _ handle m _ => exact h.newShaderModule handle m
  | deleteShaderModule _ m hm => exact h.deleteShaderModule hm
  | newCompute _ m mod entryPoint q hm hq => exact h.newShaderProgram hm hq entryPoint .COMPUTE
  | deleteShaderProgram _ q hq => exact h.deleteShaderProgram hq
  | newProgType _ k m mod entryPoint dataSize q t hm hq ht =>
    obtain ⟨hget, hq'⟩ := h.get hm hq entryPoint k.stage_ne_compute
    refine hget.newProgType k hq' ?_ dataSize
    rwa [get_heap_of_ne c m mod entryPoint k.stage q (by simp) (by simp)]
  | deleteProgType _ k t ht => exact h.deleteProgType k ht
  | newProg _ k t type p ht hp => exact h.newProg k ht hp
  | deleteProg _ k o p hp => exact h.deleteProg k hp
  | setProgData _ k o data p hp hdata => exact h.setProgData k hp hdata
  | newGeomType _ kind dataSize t ht => exact h.newGeomType ht kind dataSize
  | deleteGeomType _ t ht => exact h.deleteGeomType ht
  | setHitProg _ t gt role m mod entryPoint q ht hm hq =>
    obtain ⟨hget, hq'⟩ := h.get hm hq entryPoint role.stage_ne_compute
    refine hget.setHitProg ?_ role hq'
    rwa [get_heap_of_ne c m mod entryPoint role.stage q (by simp) (by simp)]
  | setBoundsProg _ t gt m mod entryPoint q ht hm hq =>
    have hnew := h.newShaderProgram hm hq entryPoint .COMPUTE
    refine hnew.setBoundsProg ?_ ?_
    · rwa [newShaderProgram_heap_of_ne c m entryPoint .COMPUTE q (by simp)]
    · exact Option.isSome_iff_exists.mpr ⟨_, set_self c.heap .shaderProgram q _⟩
  | newGeom _ t type g ht _ _ => exact h.newGeom ht g
  | deleteGeom _ g hg => exact h.deleteGeom hg
  | setGeomData _ o data g hg hdata => exact h.setGeomData hg hdata
  | newGeomAccel _ geoms a hgeoms halloc ha => exact h.newGeomAccel hgeoms halloc ha
  | deleteGeomAccel _ o a ho ha => exact h.deleteGeomAccel ho ha
  | newInstanceAccel _ accels a haccels halloc ha => exact h.newInstanceAccel haccels halloc ha
  | deleteInstanceAccel _ o a ho => exact h.deleteInstanceAccel ho
  | gatherPrograms => exact h.destroyPipeline.gatherPrograms
  | build _ c' stages groups handles hrun _ =>
    have hgather := h.gatherPrograms
    rw [hrun] at hgather
    exact hgather.finishBuild stages groups handles

/-- What every operation of a run keeps holds after the run. -/
theorem Run.induction {allowed : Op → Prop} {P : Context → Prop} {c c' : Context}
    (hrun : Run allowed c c') (hinit : P c)
    (hstep : ∀ op c₁ c₂, allowed op → Step op c₁ c₂ → P c₁ → P c₂) : P c' := by
  induction hrun with
  | refl => exact hinit
  | tail _ hlast ih =>
    obtain ⟨op, hop, hlast⟩ := hlast
    exact hstep op _ _ hop hlast ih

/-- **Run lemma**: the invariant holds in every reachable state. -/
theorem Reachable.invariant {c : Context} (h : c.Reachable) : c.Invariant := by
  obtain ⟨properties, hrun⟩ := h
  exact hrun.induction (invariant_init properties) fun _ _ _ _ hstep => hstep.invariant

/-! ## A sample scene -/

/-- Handles of 32 bytes, records aligned to 64. -/
def sampleProperties : PipelineProperties := ⟨32, 64, by decide, by decide⟩

/-- A shader module with a handle of 7, at address 1. -/
def sampleModule : ShaderModule := { handle := 7, programs := fun _ => none }

/-- A context with a shader module, a type of ray generation programs with 8 bytes of
data and one such program. -/
def sampleRayGen : Context :=
  let c := newShaderModule { rtPipeline := { properties := sampleProperties } } 7 1
  let r := c.get 1 sampleModule "rayGen" .RAYGEN 3
  (r.2.newProgType .rayGen r.1 8 2).newProg .rayGen 2 { dataSize := 8, program := 3 } 4

theorem sampleRayGen_reachable : sampleRayGen.Reachable := by
  have h₀ : Reachable { rtPipeline := { properties := sampleProperties } } :=
    ⟨sampleProperties, .refl⟩
  have h₁ := h₀.step (.newShaderModule _ 7 1 rfl)
  have h₂ := h₁.step (.newProgType _ .rayGen 1 sampleModule "rayGen" 8 3 2 rfl rfl rfl)
  exact h₂.step (.newProg _ .rayGen 2 _ 4 rfl rfl)

/-- The module once the ray generation program was made. -/
def sampleModule' : ShaderModule :=
  { sampleModule with programs := Function.update sampleModule.programs "rayGen" (some 3) }

/-- The same with a miss program with 4 bytes of data. -/
def sampleMiss : Context :=
  let r := sampleRayGen.get 1 sampleModule' "miss" .MISS 6
  (r.2.newProgType .missProg r.1 4 5).newProg .missProg 5 { dataSize := 4, program := 6 } 7

theorem sampleMiss_reachable : sampleMiss.Reachable := by
  have h := sampleRayGen_reachable.step
    (.newProgType _ .missProg 1 sampleModule' "miss" 4 6 5 rfl rfl rfl)
  exact h.step (.newProg _ .missProg 5 _ 7 rfl rfl)

/-- The same with a type of triangles, which has a closest hit program, a geometry with
16 bytes of data and accels. -/
def sampleScene : Context :=
  let c := sampleMiss.newGeomType .TRIANGLES 16 8
  let mod : ShaderModule :=
    { sampleModule' with programs := Function.update sampleModule'.programs "miss" (some 6) }
  let r := c.get 1 mod "closestHit" .CLOSEST_HIT 9
  let gt : GeomType := { kind := .TRIANGLES, dataSize := 16 }
  let c := (r.2.setHitProg gt .ch r.1 8).newGeom 8 (gt.setProg .ch r.1) 10
  (c.newGeomAccel [some 10] 11).newInstanceAccel [some 11] 12

theorem sampleScene_reachable : sampleScene.Reachable := by
  have h₁ := sampleMiss_reachable.step (.newGeomType _ .TRIANGLES 16 8 rfl)
  have h₂ := h₁.step (.setHitProg _ 8 _ .ch 1 _ "closestHit" 9 rfl rfl rfl)
  have h₃ := h₂.step (.newGeom _ 8 _ 10 rfl (by decide) rfl)
  have h₄ := h₃.step (.newGeomAccel _ [some 10] 11 (fun g hg => by
    obtain rfl : g = 10 := by simpa using hg
    rfl) ⟨by decide, fun _ _ => by decide⟩ rfl)
  exact h₄.step (.newInstanceAccel _ [some 11] 12 (fun g hg => by
    obtain rfl : g = 11 := by simpa using hg
    rfl) ⟨by decide, fun _ _ => by decide⟩ rfl)

end Context

end Vulkanite
