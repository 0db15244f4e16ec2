/-
# Descriptor pools

`DescriptorPool`, `DescriptorSetLayout` and `DescriptorSet` come together in four kinds of
places: the two `DSHelper`s of a context, the members of the context for the uniform
buffer, and the static variables of `Compute::buildPipeline`.  All `create` functions
destroy or free first what is there, so the order in which a place calls them matters.

Handles are numbers, null is zero, and Vulkan never gives a number out twice.  The calls
that make and destroy layouts concern no pool and are not recorded; the sizes of pools
and the bindings of layouts only go to Vulkan.
-/
import Vulkanite.Lib.PoolCalls
import Vulkanite.Lib.Traces

namespace Vulkanite

namespace Descriptors

open PoolCalls

/-! ## The wrappers -/

/-- The calls to Vulkan about pools and sets so far, and the number of handles made. -/
structure Vk where
  calls : List (Call ℕ) := []
  handles : ℕ := 0

/-- One more call. -/
def Vk.call (vk : Vk) (c : Call ℕ) : Vk := { vk with calls := vk.calls ++ [c] }

/-- One more handle. -/
def Vk.newHandle (vk : Vk) : ℕ × Vk := (vk.handles + 1, { vk with handles := vk.handles + 1 })

/-- `DescriptorPool`. -/
structure DescriptorPool where
  handle : ℕ := 0

/-- `DescriptorSetLayout`. -/
structure DescriptorSetLayout where
  handle : ℕ := 0

/-- `DescriptorSet`. -/
structure DescriptorSet where
  poolHandle : ℕ := 0
  handle : ℕ := 0

/-- `DescriptorPool::destroy`. -/
def DescriptorPool.destroy (pool : DescriptorPool) (vk : Vk) : DescriptorPool × Vk :=
  if pool.handle = 0 then (pool, vk) else ({ handle := 0 }, vk.call (.destroy pool.handle))

/-- `DescriptorPool::create`. -/
def DescriptorPool.create (pool : DescriptorPool) (vk : Vk) : DescriptorPool × Vk :=
  let r := pool.destroy vk
  let h := r.2.newHandle
  ({ handle := h.1 }, h.2.call (.create h.1))

/-- `DescriptorSetLayout::destroy`. -/
def DescriptorSetLayout.destroy (layout : DescriptorSetLayout) (vk : Vk) :
    DescriptorSetLayout × Vk :=
  if layout.handle = 0 then (layout, vk) else ({ handle := 0 }, vk)

/-- Destroying a layout is no call that is recorded. -/
theorem DescriptorSetLayout.destroy_snd (layout : DescriptorSetLayout) (vk : Vk) :
    (layout.destroy vk).2 = vk := by
  unfold DescriptorSetLayout.destroy
  split_ifs
  · rfl
  · rfl

/-- `DescriptorSetLayout::create`. -/
def DescriptorSetLayout.create (layout : DescriptorSetLayout) (vk : Vk) :
    DescriptorSetLayout × Vk :=
  let r := layout.destroy vk
  let h := r.2.newHandle
  ({ handle := h.1 }, h.2)

/-- `DescriptorSet::free`. -/
def DescriptorSet.free (ds : DescriptorSet) (vk : Vk) : DescriptorSet × Vk :=
  if ds.handle = 0 then (ds, vk)
  else ({ ds with handle := 0 }, vk.call (.free ds.poolHandle ds.handle))

/-- `DescriptorSet::create`. -/
def DescriptorSet.create (ds : DescriptorSet) (pool : DescriptorPool) (vk : Vk) :
    DescriptorSet × Vk :=
  let r := ds.free vk
  let h := r.2.newHandle
  ({ poolHandle := pool.handle, handle := h.1 }, h.2.call (.allocate pool.handle h.1))

/-! ## The places -/

/-- The three wrappers at a place, and `dsSize`, which only a `DSHelper` has. -/
structure Wrappers where
  pool : DescriptorPool := {}
  layout : DescriptorSetLayout := {}
  descriptorSet : DescriptorSet := {}
  dsSize : ℕ := 0

namespace Wrappers

/-- `pool.create`. -/
def createPool (x : Wrappers × Vk) : Wrappers × Vk :=
  let r := x.1.pool.create x.2
  ({ x.1 with pool := r.1 }, r.2)

/-- `pool.destroy`. -/
def destroyPool (x : Wrappers × Vk) : Wrappers × Vk :=
  let r := x.1.pool.destroy x.2
  ({ x.1 with pool := r.1 }, r.2)

/-- `layout.create`, which is also `DSHelper::createLayout`. -/
def createLayout (x : Wrappers × Vk) : Wrappers × Vk :=
  let r := x.1.layout.create x.2
  ({ x.1 with layout := r.1 }, r.2)

/-- `layout.destroy`. -/
def destroyLayout (x : Wrappers × Vk) : Wrappers × Vk :=
  let r := x.1.layout.destroy x.2
  ({ x.1 with layout := r.1 }, r.2)

/-- `descriptorSet.create(pool,layout)`. -/
def createSet (x : Wrappers × Vk) : Wrappers × Vk :=
  let r := x.1.descriptorSet.create x.1.pool x.2
  ({ x.1 with descriptorSet := r.1 }, r.2)

/-- `descriptorSet.free`. -/
def freeSet (x : Wrappers × Vk) : Wrappers × Vk :=
  let r := x.1.descriptorSet.free x.2
  ({ x.1 with descriptorSet := r.1 }, r.2)

/-- The three calls in `Context::rebuildDescriptors` and in `Compute::buildPipeline`. -/
def create (x : Wrappers × Vk) : Wrappers × Vk := createSet (createLayout (createPool x))

/-- The destructors of the three members, last member first. -/
def destruct (x : Wrappers × Vk) : Wrappers × Vk := destroyPool (destroyLayout (freeSet x))

/-- `DSHelper::destroy`. -/
def destroy (x : Wrappers × Vk) : Wrappers × Vk := destroyPool (freeSet x)

/-- `DSHelper::createDS`, for so many objects. -/
def createDS (size : ℕ) (x : Wrappers × Vk) : Wrappers × Vk :=
  if x.1.dsSize ≠ size then createSet (createPool (destroy x)) else x

/-- `DSHelper::~DSHelper`, and then the destructors of the members. -/
def destructHelper (x : Wrappers × Vk) : Wrappers × Vk := destruct (destroy x)

end Wrappers

/-- The places with wrappers. -/
inductive Place where
  | uniformBuffers (context : ℕ)
  | samplers (context : ℕ)
  | image2Ds (context : ℕ)
  | compute
  deriving DecidableEq, Repr

/-- All places, the contexts that are alive, and the static variable `created`.  The
static wrappers are made when `Compute::buildPipeline` first runs; their handles are
null until then. -/
structure Process where
  vk : Vk := {}
  wrappers : Place → Wrappers := fun _ => {}
  contexts : Finset ℕ := ∅
  created : Bool := false

namespace Process

/-- Something that happens at one place. -/
def atPlace (s : Process) (place : Place) (f : Wrappers × Vk → Wrappers × Vk) : Process :=
  let r := f (s.wrappers place, s.vk)
  { s with wrappers := Function.update s.wrappers place r.1, vk := r.2 }

/-- New wrappers at a place, whose handles are null. -/
def construct (s : Process) (place : Place) : Process := s.atPlace place fun x => ({}, x.2)

/-- `Context::Context`. -/
def newContext (s : Process) (id : ℕ) : Process :=
  { ((s.construct (.samplers id)).construct (.image2Ds id)).construct (.uniformBuffers id) with
    contexts := insert id s.contexts }

/-- `Context::rebuildDescriptors`. -/
def rebuildDescriptors (s : Process) (id : ℕ) : Process :=
  if s.created then s
  else { s.atPlace (.uniformBuffers id) Wrappers.create with created := true }

/-- The test for a null handle in `Context::launch` and `Compute::launch`. -/
def launch (s : Process) (id : ℕ) : Process :=
  if (s.wrappers (.uniformBuffers id)).descriptorSet.handle = 0 then s.rebuildDescriptors id else s

/-- `RTPipeline::build`, with so many samplers and images. -/
def build (s : Process) (id samplers image2Ds : ℕ) : Process :=
  let s := s.atPlace (.samplers id) Wrappers.createLayout
  let s := s.atPlace (.samplers id) (Wrappers.createDS samplers)
  let s := s.atPlace (.image2Ds id) Wrappers.createLayout
  s.atPlace (.image2Ds id) (Wrappers.createDS image2Ds)

/-- `Compute::buildPipeline`, which the constructor of every kernel calls. -/
def buildPipeline (s : Process) : Process := s.atPlace .compute Wrappers.create

/-- `Context::~Context`, whose members die in the reverse order. -/
def deleteContext (s : Process) (id : ℕ) : Process :=
  let s := s.atPlace (.uniformBuffers id) Wrappers.destruct
  let s := s.atPlace (.image2Ds id) Wrappers.destructHelper
  let s := s.atPlace (.samplers id) Wrappers.destructHelper
  { s with contexts := s.contexts.erase id }

/-- The end of the process, when static variables die. -/
def exit (s : Process) : Process := s.atPlace .compute Wrappers.destruct

end Process

/-- The operations, by name. -/
inductive Op where
  | newContext
  | launch
  | build
  | newCompute
  | deleteContext
  deriving DecidableEq, Repr

open Process in
/-- One operation. -/
inductive Step : Op → Process → Process → Prop
  | newContext (s : Process) (id : ℕ) (hid : id ∉ s.contexts) :
      Step .newContext s (s.newContext id)
  | launch (s : Process) (id : ℕ) (hid : id ∈ s.contexts) : Step .launch s (s.launch id)
  | build (s : Process) (id samplers image2Ds : ℕ) (hid : id ∈ s.contexts) :
      Step .build s (s.build id samplers image2Ds)
  | newCompute (s : Process) (id : ℕ) (hid : id ∈ s.contexts) : Step .newCompute s s.buildPipeline
  | deleteContext (s : Process) (id : ℕ) (hid : id ∈ s.contexts) :
      Step .deleteContext s (s.deleteContext id)

/-! ## What happens at one place -/

namespace Wrappers

/-- The pool and the set at a place are alive, and the set belongs to the pool. -/
structure Holds (x : Wrappers × Vk) (l : Live ℕ) : Prop where
  live : live x.2.calls = some l
  pool : x.1.pool.handle ≠ 0 → x.1.pool.handle ∈ l.pools
  pool_le : x.1.pool.handle ≤ x.2.handles
  descriptorSet : x.1.descriptorSet.handle ≠ 0 → x.1.pool.handle ≠ 0 ∧
    x.1.descriptorSet.poolHandle = x.1.pool.handle ∧
    (x.1.pool.handle, x.1.descriptorSet.handle) ∈ l.items

/-- The pools that something at a place may change: its own, and new ones. -/
def Own (x : Wrappers × Vk) (p : ℕ) : Prop := p = 0 ∨ p = x.1.pool.handle ∨ x.2.handles < p

/-- What happens at a place is safe, and concerns no other pool. -/
structure Effect (x x' : Wrappers × Vk) : Prop where
  handles_le : x.2.handles ≤ x'.2.handles
  pool : Own x x'.1.pool.handle
  holds : ∀ l, Holds x l → ∃ l', Holds x' l' ∧ Keeps (Own x) l l'

variable {x x' x'' : Wrappers × Vk}

/-- No call. -/
theorem Effect.refl (x : Wrappers × Vk) : Effect x x :=
  ⟨le_rfl, Or.inr (Or.inl rfl), fun l h => ⟨l, h, .refl _ l⟩⟩

/-- The calls of two steps, one after the other. -/
theorem Effect.trans (h : Effect x x') (h' : Effect x' x'') : Effect x x'' := by
  have hown : ∀ p, Own x' p → Own x p := by
    rintro p (rfl | rfl | hlt)
    · exact Or.inl rfl
    · exact h.pool
    · exact Or.inr (Or.inr (h.handles_le.trans_lt hlt))
  refine ⟨h.handles_le.trans h'.handles_le, hown _ h'.pool, fun l hl => ?_⟩
  obtain ⟨l', hl', hkeeps⟩ := h.holds l hl
  obtain ⟨l'', hl'', hkeeps'⟩ := h'.holds l' hl'
  exact ⟨l'', hl'', (hkeeps.trans hkeeps').mono fun p hp => hp.elim id (hown p)⟩

/-- One more call that goes through. -/
theorem live_call {vk : Vk} {l l' : Live ℕ} {c : Call ℕ} (h : PoolCalls.live vk.calls = some l)
    (hexec : l.exec c = some l') : PoolCalls.live (vk.call c).calls = some l' := by
  rw [Vk.call, live_concat, h]
  exact hexec

/-- A call on a pool that may be changed. -/
theorem keeps_of_own {l l' : Live ℕ} {c : Call ℕ} (hown : Own x c.pool)
    (hexec : l.exec c = some l') : Keeps (Own x) l l' :=
  (Live.keeps_of_exec hexec).mono fun _ hp => hp ▸ hown

/-- A set is freed into its own pool. -/
theorem effect_freeSet (x : Wrappers × Vk) : Effect x (freeSet x) := by
  unfold freeSet DescriptorSet.free
  by_cases hnull : x.1.descriptorSet.handle = 0
  · simp only [if_pos hnull]
    exact .refl x
  simp only [if_neg hnull]
  refine ⟨le_rfl, Or.inr (Or.inl rfl), fun l h => ?_⟩
  obtain ⟨hpool, hpoolHandle, hitem⟩ := h.descriptorSet hnull
  have hexec : l.exec (.free x.1.descriptorSet.poolHandle x.1.descriptorSet.handle) =
      some { l with items := l.items.erase (x.1.pool.handle, x.1.descriptorSet.handle) } := by
    rw [hpoolHandle, Live.exec, if_pos ⟨h.pool hpool, hitem⟩]
  exact ⟨_, ⟨live_call h.live hexec, h.pool, h.pool_le, fun hset => absurd rfl hset⟩,
    keeps_of_own (c := .free _ _) (Or.inr (Or.inl hpoolHandle)) hexec⟩

/-- The pool of the place can be destroyed, safely for itself. -/
theorem Holds.exec_destroy {l : Live ℕ} (h : Holds x l) (hpool : x.1.pool.handle ≠ 0) :
    l.exec (.destroy x.1.pool.handle) =
      some { pools := l.pools.erase x.1.pool.handle
             items := l.items.filter fun y => y.1 ≠ x.1.pool.handle } := by
  rw [Live.exec, if_pos (h.pool hpool)]

/-- A pool is destroyed once its set is freed. -/
theorem effect_destroyPool (hset : x.1.descriptorSet.handle = 0) : Effect x (destroyPool x) := by
  unfold destroyPool DescriptorPool.destroy
  by_cases hnull : x.1.pool.handle = 0
  · simp only [if_pos hnull]
    exact .refl x
  simp only [if_neg hnull]
  refine ⟨le_rfl, Or.inl rfl, fun l h => ?_⟩
  have hexec := h.exec_destroy hnull
  exact ⟨_, ⟨live_call h.live hexec, fun hpool => absurd rfl hpool, Nat.zero_le _,
    fun hne => absurd hset hne⟩, keeps_of_own (Or.inr (Or.inl rfl)) hexec⟩

/-- A pool is made where there is none. -/
theorem effect_newPool (hset : x.1.descriptorSet.handle = 0) :
    Effect x ({ x.1 with pool := { handle := x.2.handles + 1 } },
      { x.2 with handles := x.2.handles + 1 }.call (.create (x.2.handles + 1))) := by
  refine ⟨Nat.le_succ _, Or.inr (Or.inr (Nat.lt_succ_self _)), fun l h => ?_⟩
  have hexec : l.exec (.create (x.2.handles + 1)) =
      some { l with pools := insert (x.2.handles + 1) l.pools } := rfl
  exact ⟨_, ⟨live_call h.live hexec, fun _ => Finset.mem_insert_self _ _, le_rfl,
    fun hne => absurd hset hne⟩, keeps_of_own (Or.inr (Or.inr (Nat.lt_succ_self _))) hexec⟩

/-- A pool may be replaced while its set is not there. -/
theorem effect_createPool (hset : x.1.descriptorSet.handle = 0) : Effect x (createPool x) :=
  (effect_destroyPool hset).trans (effect_newPool (x := destroyPool x) hset)

/-- What changes neither the pool nor the set. -/
theorem effect_of_eq (hpool : x'.1.pool = x.1.pool)
    (hset : x'.1.descriptorSet = x.1.descriptorSet) (hcalls : x'.2.calls = x.2.calls)
    (hhandles : x.2.handles ≤ x'.2.handles) : Effect x x' := by
  refine ⟨hhandles, Or.inr (Or.inl (congrArg DescriptorPool.handle hpool)), fun l h => ?_⟩
  refine ⟨l, ⟨?_, ?_, ?_, ?_⟩, .refl _ l⟩
  · rw [hcalls]
    exact h.live
  · rw [hpool]
    exact h.pool
  · rw [hpool]
    exact h.pool_le.trans hhandles
  · rw [hset, hpool]
    exact h.descriptorSet

/-- A layout costs a handle and no call that is recorded. -/
theorem createLayout_snd (x : Wrappers × Vk) :
    (createLayout x).2 = { x.2 with handles := x.2.handles + 1 } := by
  simp only [createLayout, DescriptorSetLayout.create, DescriptorSetLayout.destroy_snd,
    Vk.newHandle]

/-- Destroying a layout costs neither. -/
theorem destroyLayout_snd (x : Wrappers × Vk) : (destroyLayout x).2 = x.2 := by
  simp only [destroyLayout, DescriptorSetLayout.destroy_snd]

/-- Making a layout concerns neither the pool nor the set. -/
theorem effect_createLayout (x : Wrappers × Vk) : Effect x (createLayout x) := by
  refine effect_of_eq rfl rfl ?_ ?_
  · rw [createLayout_snd]
  · rw [createLayout_snd]
    exact Nat.le_succ _

/-- Destroying a layout does not either. -/
theorem effect_destroyLayout (x : Wrappers × Vk) : Effect x (destroyLayout x) := by
  refine effect_of_eq rfl rfl ?_ ?_
  · rw [destroyLayout_snd]
  · rw [destroyLayout_snd]

/-- A set is allocated where there is none, from the pool of the place. -/
theorem effect_newSet (hpool : x.1.pool.handle ≠ 0) :
    Effect x ({ x.1 with descriptorSet :=
        { poolHandle := x.1.pool.handle, handle := x.2.handles + 1 } },
      { x.2 with handles := x.2.handles + 1 }.call
        (.allocate x.1.pool.handle (x.2.handles + 1))) := by
  refine ⟨Nat.le_succ _, Or.inr (Or.inl rfl), fun l h => ?_⟩
  have hexec : l.exec (.allocate x.1.pool.handle (x.2.handles + 1)) =
      some { l with items := insert (x.1.pool.handle, x.2.handles + 1) l.items } := rfl
  exact ⟨_, ⟨live_call h.live hexec, h.pool, h.pool_le.trans (Nat.le_succ _),
    fun _ => ⟨hpool, rfl, Finset.mem_insert_self _ _⟩⟩, keeps_of_own (Or.inr (Or.inl rfl)) hexec⟩

/-- A set may be made while its pool is there: the set before it is freed first. -/
theorem effect_createSet (hpool : x.1.pool.handle ≠ 0) : Effect x (createSet x) :=
  (effect_freeSet x).trans (effect_newSet (x := freeSet x) hpool)

/-! ### The functions of a place -/

/-- After `free` there is no set. -/
theorem freeSet_handle (x : Wrappers × Vk) : (freeSet x).1.descriptorSet.handle = 0 := by
  unfold freeSet DescriptorSet.free
  split_ifs with hnull
  · exact hnull
  · rfl

/-- `DSHelper::destroy` frees the set before it destroys its pool. -/
theorem effect_destroy (x : Wrappers × Vk) : Effect x (destroy x) :=
  (effect_freeSet x).trans (effect_destroyPool (freeSet_handle x))

/-- So do the destructors of the members. -/
theorem effect_destruct (x : Wrappers × Vk) : Effect x (destruct x) :=
  ((effect_freeSet x).trans (effect_destroyLayout _)).trans (effect_destroyPool (freeSet_handle x))

/-- So does `~DSHelper`, whose members then find nothing to do. -/
theorem effect_destructHelper (x : Wrappers × Vk) : Effect x (destructHelper x) :=
  (effect_destroy x).trans (effect_destruct _)

/-- **`DSHelper::createDS` is safe**, because it destroys the old set before the pool. -/
theorem effect_createDS (size : ℕ) (x : Wrappers × Vk) : Effect x (createDS size x) := by
  unfold createDS
  split_ifs
  · have hset : (destroy x).1.descriptorSet.handle = 0 := freeSet_handle x
    exact ((effect_destroy x).trans (effect_createPool hset)).trans
      (effect_createSet (Nat.succ_ne_zero _))
  · exact .refl x

/-- **The calls of `rebuildDescriptors` are safe** where there is no set yet. -/
theorem effect_create (hset : x.1.descriptorSet.handle = 0) : Effect x (create x) :=
  ((effect_createPool hset).trans (effect_createLayout _)).trans
    (effect_createSet (Nat.succ_ne_zero _))

/-! ### Calls are only ever added -/

/-- The calls so far stay. -/
def Appends (f : Wrappers × Vk → Wrappers × Vk) : Prop := ∀ x, x.2.calls <+: (f x).2.calls

/-- Functions that append calls, one after the other. -/
theorem Appends.comp {f g : Wrappers × Vk → Wrappers × Vk} (hg : Appends g) (hf : Appends f) :
    Appends fun x => g (f x) := fun x => (hf x).trans (hg (f x))

/-- The call to free the set, if there is one. -/
theorem appends_freeSet : Appends freeSet := by
  intro x
  unfold freeSet DescriptorSet.free
  split_ifs
  · exact List.prefix_rfl
  · exact List.prefix_append _ _

/-- The call to destroy the pool, if there is one. -/
theorem appends_destroyPool : Appends destroyPool := by
  intro x
  unfold destroyPool DescriptorPool.destroy
  split_ifs
  · exact List.prefix_rfl
  · exact List.prefix_append _ _

/-- A pool is made after the one before is destroyed. -/
theorem appends_createPool : Appends createPool := fun x =>
  (appends_destroyPool x).trans (List.prefix_append _ _)

/-- A set is made after the one before is freed. -/
theorem appends_createSet : Appends createSet := fun x =>
  (appends_freeSet x).trans (List.prefix_append _ _)

theorem appends_createLayout : Appends createLayout := fun x => by
  rw [createLayout_snd]

theorem appends_destroyLayout : Appends destroyLayout := fun x => by
  rw [destroyLayout_snd]

theorem appends_create : Appends create :=
  appends_createSet.comp (appends_createLayout.comp appends_createPool)

theorem appends_destruct : Appends destruct :=
  appends_destroyPool.comp (appends_destroyLayout.comp appends_freeSet)

theorem appends_destructHelper : Appends destructHelper :=
  appends_destruct.comp (appends_destroyPool.comp appends_freeSet)

theorem appends_createDS (size : ℕ) : Appends (createDS size) := by
  intro x
  unfold createDS
  split_ifs
  · exact (appends_createSet.comp
      (appends_createPool.comp (appends_destroyPool.comp appends_freeSet))) x
  · exact List.prefix_rfl

/-- **They are not safe** where there is one: its pool is destroyed before it is freed. -/
theorem live_create_eq_none {l : Live ℕ} (h : Holds x l) (hset : x.1.descriptorSet.handle ≠ 0) :
    PoolCalls.live (create x).2.calls = none := by
  obtain ⟨hpool, hpoolHandle, -⟩ := h.descriptorSet hset
  let y := createLayout (createPool x)
  -- the old pool is dead by then, and the new one is another
  have hcreate : ∃ l', PoolCalls.live y.2.calls = some l' ∧ x.1.pool.handle ∉ l'.pools := by
    have hcalls : y.2.calls = ((x.2.call (.destroy x.1.pool.handle)).call
        (.create (x.2.handles + 1))).calls := by
      simp only [y, createLayout_snd, createPool, DescriptorPool.create, DescriptorPool.destroy,
        if_neg hpool, Vk.newHandle, Vk.call]
    refine ⟨_, hcalls ▸ live_call (live_call h.live (h.exec_destroy hpool)) rfl, ?_⟩
    have hne : x.1.pool.handle ≠ x.2.handles + 1 := by
      have hle := h.pool_le
      omega
    simp [hne]
  have hset' : y.1.descriptorSet = x.1.descriptorSet := rfl
  obtain ⟨l', hl', hdead⟩ := hcreate
  have hfree : PoolCalls.live (freeSet y).2.calls = none := by
    have hexec : l'.exec (.free x.1.pool.handle x.1.descriptorSet.handle) = none := by
      rw [Live.exec, if_neg fun hlive => hdead hlive.1]
    unfold freeSet DescriptorSet.free
    simp only [hset', if_neg hset, hpoolHandle, Vk.call, live_concat, hl', Option.bind_some, hexec]
  have hpre : (freeSet y).2.calls <+: (create x).2.calls := List.prefix_append _ _
  by_contra hsafe
  exact Safe.mono hsafe hpre hfree

end Wrappers

/-! ## All places -/

namespace Process

open Wrappers

/-- What holds as long as all calls were safe: each place has its own pool. -/
structure Invariant (s : Process) (l : Live ℕ) : Prop where
  holds : ∀ place, Holds (s.wrappers place, s.vk) l
  distinct : ∀ place place', place ≠ place' → (s.wrappers place).pool.handle ≠ 0 →
    (s.wrappers place).pool.handle ≠ (s.wrappers place').pool.handle

variable {s : Process} {l : Live ℕ} {f : Wrappers × Vk → Wrappers × Vk}

/-- The wrappers at the place are what the function leaves. -/
theorem wrappers_atPlace_self (s : Process) (place : Place) :
    (s.atPlace place f).wrappers place = (f (s.wrappers place, s.vk)).1 :=
  Function.update_self _ _ _

/-- The wrappers at other places stay. -/
theorem wrappers_atPlace_of_ne (s : Process) {place place' : Place} (hne : place' ≠ place) :
    (s.atPlace place f).wrappers place' = s.wrappers place' :=
  Function.update_of_ne hne _ _

/-- **What is safe at a place** is safe for all of them. -/
theorem Invariant.atPlace (h : s.Invariant l) {place : Place}
    (heffect : Effect (s.wrappers place, s.vk) (f (s.wrappers place, s.vk))) :
    ∃ l', (s.atPlace place f).Invariant l' := by
  obtain ⟨l', hl', hkeeps⟩ := heffect.holds l (h.holds place)
  -- the pools of the other places are no pools of this one
  have hother : ∀ place', place' ≠ place → (s.wrappers place').pool.handle ≠ 0 →
      ¬ Own (s.wrappers place, s.vk) (s.wrappers place').pool.handle := by
    rintro place' hne hpool (hzero | heq | hlt)
    · exact hpool hzero
    · exact h.distinct place' place hne hpool heq
    · exact absurd hlt (h.holds place').pool_le.not_gt
  refine ⟨l', fun place' => ?_, fun place₁ place₂ hne hpool heq => ?_⟩
  · by_cases hne : place' = place
    · subst hne
      rw [wrappers_atPlace_self]
      exact hl'
    · rw [wrappers_atPlace_of_ne s hne]
      have hold := h.holds place'
      refine ⟨hl'.live, fun hpool => ?_, hold.pool_le.trans heffect.handles_le, fun hset => ?_⟩
      · exact hkeeps.pools _ (hother place' hne hpool) (hold.pool hpool)
      · obtain ⟨hpool, hpoolHandle, hitem⟩ := hold.descriptorSet hset
        exact ⟨hpool, hpoolHandle, hkeeps.items _ _ (hother place' hne hpool) hitem⟩
  · by_cases h₁ : place₁ = place
    · subst h₁
      rw [wrappers_atPlace_self, wrappers_atPlace_of_ne s hne.symm] at heq
      rw [wrappers_atPlace_self, heq] at hpool
      exact hother place₂ hne.symm hpool (heq ▸ heffect.pool)
    · rw [wrappers_atPlace_of_ne s h₁] at heq hpool
      by_cases h₂ : place₂ = place
      · subst h₂
        rw [wrappers_atPlace_self] at heq
        exact hother place₁ h₁ hpool (heq ▸ heffect.pool)
      · rw [wrappers_atPlace_of_ne s h₂] at heq
        exact h.distinct place₁ place₂ hne hpool heq

/-- All calls were safe so far, and the places are in order. -/
def Good (s : Process) : Prop := ∃ l, s.Invariant l

/-- What is safe at a place keeps the state good. -/
theorem Good.atPlace (h : s.Good) {place : Place}
    (heffect : Effect (s.wrappers place, s.vk) (f (s.wrappers place, s.vk))) :
    (s.atPlace place f).Good := by
  obtain ⟨l, hl⟩ := h
  exact hl.atPlace heffect

/-- Neither the contexts nor the static variable matter. -/
theorem Good.congr (h : s.Good) {s' : Process} (hwrappers : s'.wrappers = s.wrappers)
    (hvk : s'.vk = s.vk) : s'.Good := by
  obtain ⟨l, hl⟩ := h
  refine ⟨l, ?_, ?_⟩
  · rw [hwrappers, hvk]
    exact hl.holds
  · rw [hwrappers]
    exact hl.distinct

/-- The calls of a good state are safe. -/
theorem Good.safe (h : s.Good) : Safe s.vk.calls := by
  obtain ⟨l, hl⟩ := h
  rw [Safe, (hl.holds .compute).live]
  exact Option.some_ne_none l

/-- No wrapper has a handle yet. -/
theorem good_init : Good {} := by
  refine ⟨{}, fun place => ⟨rfl, ?_, le_rfl, ?_⟩, ?_⟩
  · exact fun hpool => absurd rfl hpool
  · exact fun hset => absurd rfl hset
  · exact fun _ _ _ hpool => absurd rfl hpool

/-! ### The operations -/

/-- New wrappers forget the handles that were at the place. -/
theorem effect_construct (x : Wrappers × Vk) : Effect x ({}, x.2) := by
  refine ⟨le_rfl, Or.inl rfl, fun l h => ⟨l, ⟨h.live, ?_, Nat.zero_le _, ?_⟩, .refl _ l⟩⟩
  · exact fun hpool => absurd rfl hpool
  · exact fun hset => absurd rfl hset

/-- The three places of a context are new. -/
theorem Good.newContext (h : s.Good) (id : ℕ) : (s.newContext id).Good := by
  have hconstruct : ∀ {s : Process} (place : Place), s.Good → (s.construct place).Good :=
    fun place h => h.atPlace (effect_construct _)
  exact (hconstruct (.uniformBuffers id) (hconstruct (.image2Ds id)
    (hconstruct (.samplers id) h))).congr rfl rfl

/-- A launch makes the set for the uniform buffer at most. -/
theorem Good.launch (h : s.Good) (id : ℕ) : (s.launch id).Good := by
  unfold Process.launch rebuildDescriptors
  split_ifs with hset
  · exact h
  · exact (h.atPlace (effect_create hset)).congr rfl rfl
  · exact h

/-- Both helpers make their layouts and sets. -/
theorem Good.build (h : s.Good) (id samplers image2Ds : ℕ) :
    (s.build id samplers image2Ds).Good :=
  (((h.atPlace (effect_createLayout _)).atPlace (effect_createDS samplers _)).atPlace
    (effect_createLayout _)).atPlace (effect_createDS image2Ds _)

/-- The helpers and the set for the uniform buffer go. -/
theorem Good.deleteContext (h : s.Good) (id : ℕ) : (s.deleteContext id).Good :=
  (((h.atPlace (effect_destruct _)).atPlace (effect_destructHelper _)).atPlace
    (effect_destructHelper _)).congr rfl rfl

/-- The static variables are destructed at the end of the process. -/
theorem Good.exit (h : s.Good) : s.exit.Good := h.atPlace (effect_destruct _)

/-- **The first kernel** finds no set. -/
theorem Good.buildPipeline (h : s.Good)
    (hset : (s.wrappers .compute).descriptorSet.handle = 0) : s.buildPipeline.Good :=
  h.atPlace (effect_create hset)

/-- **The next kernel** finds one, destroys its pool, and then frees it. -/
theorem Good.not_safe_buildPipeline (h : s.Good)
    (hset : (s.wrappers .compute).descriptorSet.handle ≠ 0) : ¬ Safe s.buildPipeline.vk.calls := by
  obtain ⟨l, hl⟩ := h
  exact fun hsafe => hsafe (live_create_eq_none (hl.holds .compute) hset)

/-- After a kernel there is a set. -/
theorem buildPipeline_handle (s : Process) :
    (s.buildPipeline.wrappers .compute).descriptorSet.handle ≠ 0 := by
  rw [Process.buildPipeline, wrappers_atPlace_self]
  exact Nat.succ_ne_zero _

/-- Only kernels use the static wrappers. -/
theorem wrappers_compute {op : Op} {s s' : Process} (hstep : Step op s s')
    (hop : op ≠ .newCompute) : s'.wrappers .compute = s.wrappers .compute := by
  cases hstep with
  | newContext => rfl
  | launch _ id _ =>
    unfold Process.launch rebuildDescriptors
    split_ifs
    · rfl
    · rfl
    · rfl
  | build => rfl
  | newCompute => exact absurd rfl hop
  | deleteContext => rfl

/-- A function that appends calls only adds to those of the process. -/
theorem calls_atPlace (hf : Appends f) (s : Process) (place : Place) :
    s.vk.calls <+: (s.atPlace place f).vk.calls := hf (s.wrappers place, s.vk)

/-- The calls so far stay. -/
theorem calls_stay {op : Op} {s s' : Process} (hstep : Step op s s') :
    s.vk.calls <+: s'.vk.calls := by
  cases hstep with
  | newContext => exact List.prefix_rfl
  | launch _ id _ =>
    unfold Process.launch rebuildDescriptors
    split_ifs
    · exact List.prefix_rfl
    · exact calls_atPlace appends_create s (.uniformBuffers id)
    · exact List.prefix_rfl
  | build _ id samplers image2Ds _ =>
    refine (calls_atPlace appends_createLayout s (.samplers id)).trans ?_
    refine (calls_atPlace (appends_createDS samplers) _ (.samplers id)).trans ?_
    refine (calls_atPlace appends_createLayout _ (.image2Ds id)).trans ?_
    exact calls_atPlace (appends_createDS image2Ds) _ (.image2Ds id)
  | newCompute => exact calls_atPlace appends_create s .compute
  | deleteContext _ id _ =>
    refine (calls_atPlace appends_destruct s (.uniformBuffers id)).trans ?_
    refine (calls_atPlace appends_destructHelper _ (.image2Ds id)).trans ?_
    exact calls_atPlace appends_destructHelper _ (.samplers id)

/-- An operation that makes no kernel. -/
theorem Good.step {op : Op} {s s' : Process} (h : s.Good) (hstep : Step op s s')
    (hop : op ≠ .newCompute) : s'.Good := by
  cases hstep with
  | newContext _ id _ => exact h.newContext id
  | launch _ id _ => exact h.launch id
  | build _ id samplers image2Ds _ => exact h.build id samplers image2Ds
  | newCompute => exact absurd rfl hop
  | deleteContext _ id _ => exact h.deleteContext id

/-! ## Every run -/

/-- What holds when `n` kernels were made. -/
structure AfterKernels (s : Process) (n : ℕ) : Prop where
  good : n ≤ 1 → s.Good
  handle : n ≤ 1 → ((s.wrappers .compute).descriptorSet.handle = 0 ↔ n = 0)
  not_safe : 2 ≤ n → ¬ Safe s.vk.calls

/-- **Step lemma**. -/
theorem AfterKernels.step {op : Op} {s s' : Process} {n : ℕ} (h : s.AfterKernels n)
    (hstep : Step op s s') : s'.AfterKernels (n + if op = .newCompute then 1 else 0) := by
  by_cases hop : op = .newCompute
  · rw [if_pos hop]
    subst hop
    have hpre := calls_stay hstep
    cases hstep
    refine ⟨fun hn => ?_, fun hn => ?_, fun hn hsafe => ?_⟩
    · exact (h.good (by omega)).buildPipeline ((h.handle (by omega)).mpr (by omega))
    · exact ⟨fun hzero => absurd hzero (buildPipeline_handle s), fun hzero => by omega⟩
    · by_cases htwo : 2 ≤ n
      · exact h.not_safe htwo (hsafe.mono hpre)
      · have hset := (h.handle (by omega)).not.mpr (show ¬ n = 0 by omega)
        exact (h.good (by omega)).not_safe_buildPipeline hset hsafe
  · rw [if_neg hop, Nat.add_zero]
    refine ⟨fun hn => (h.good hn).step hstep hop, fun hn => ?_, fun hn hsafe => ?_⟩
    · rw [wrappers_compute hstep hop]
      exact h.handle hn
    · exact h.not_safe hn (hsafe.mono (calls_stay hstep))

/-- **Run lemma**. -/
theorem afterKernels_of_trace {ops : List Op} {s : Process} (htrace : Trace Step {} ops s) :
    s.AfterKernels (ops.count .newCompute) := by
  induction htrace with
  | nil =>
    refine ⟨fun _ => good_init, fun _ => ⟨fun _ => rfl, fun _ => rfl⟩, fun hn => ?_⟩
    exact absurd hn (by decide)
  | snoc _ hstep ih =>
    simpa only [List.count_append, List.count_singleton, beq_iff_eq] using ih.step hstep

/-- **No set is freed into a dead pool, and no pool is destroyed twice, exactly if** at
most one compute kernel is made. -/
theorem safe_iff_count_newCompute {ops : List Op} {s : Process} (htrace : Trace Step {} ops s) :
    (Safe s.vk.calls ↔ ops.count .newCompute ≤ 1) ∧
      (Safe s.exit.vk.calls ↔ ops.count .newCompute ≤ 1) := by
  have h := afterKernels_of_trace htrace
  have hexit : s.vk.calls <+: s.exit.vk.calls := calls_atPlace appends_destruct s _
  have hle : Safe s.vk.calls → ops.count .newCompute ≤ 1 := fun hsafe => by
    by_contra hlt
    exact h.not_safe (by omega) hsafe
  constructor
  · exact ⟨hle, fun hn => (h.good hn).safe⟩
  · exact ⟨fun hsafe => hle (hsafe.mono hexit), fun hn => (h.good hn).exit.safe⟩

/-! ## Two runs -/

/-- A context with a kernel. -/
def sampleKernel : Process := (({} : Process).newContext 0).buildPipeline

/-- A context and one kernel. -/
theorem sampleKernel_trace : Trace Step {} [.newContext, .newCompute] sampleKernel :=
  (Trace.single (.newContext {} 0 (Finset.notMem_empty 0))).snoc
    (.newCompute _ 0 (Finset.mem_insert_self 0 ∅))

/-- The second kernel frees the set of the first one into the pool it has just destroyed. -/
theorem secondKernel_not_safe :
    ¬ ∀ (ops : List Op) (s : Process), Trace Step {} ops s → Safe s.vk.calls := by
  intro hall
  exact hall _ _ (sampleKernel_trace.snoc (.newCompute _ 0 (Finset.mem_insert_self 0 ∅))) rfl

/-- One kernel, two pipelines, a launch, and the end of the context and of the process. -/
theorem safe_iff_count_newCompute_oneKernel :
    Safe (((((sampleKernel.build 0 1 1).build 0 2 1).launch 0).deleteContext 0).exit).vk.calls := by
  have hcontext : 0 ∈ sampleKernel.contexts := Finset.mem_insert_self 0 ∅
  have htrace := (((sampleKernel_trace.snoc (.build _ 0 1 1 hcontext)).snoc
    (.build _ 0 2 1 hcontext)).snoc (.launch _ 0 hcontext)).snoc (.deleteContext _ 0 hcontext)
  exact (safe_iff_count_newCompute htrace).2.mpr (by decide)

end Process

end Descriptors

end Vulkanite
