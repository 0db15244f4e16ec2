/-
# What a built pipeline knows about later states

`build` copies the handles of all groups to the host.  The handles fit the types
until a type is created or the groups are numbered again: every live type holds
the index of one of them (`HandlesCurrent`), whatever else happens.

The frame lemmas say which objects an operation leaves alone, and `Run.heap_frame`
says so for a run.
-/
import Vulkanite.ShaderGroups

namespace Vulkanite

open TypedHeap

/-! ## Frames -/

/-- The classes whose objects an operation may create, change or destroy. -/
def Op.touches : Op → List ObjectKind
  | .newShaderModule | .deleteShaderModule => [.shaderModule]
  | .newCompute => [.shaderProgram]
  | .deleteShaderProgram => [.shaderModule, .shaderProgram]
  | .newProgType =>
    [.shaderModule, .shaderProgram, .progType .rayGen, .progType .missProg]
  | .deleteProgType => [.progType .rayGen, .progType .missProg]
  | .newProg | .deleteProg | .setProgData => [.prog .rayGen, .prog .missProg]
  | .newGeomType | .deleteGeomType => [.geomType]
  | .setHitProg | .setBoundsProg => [.shaderModule, .shaderProgram, .geomType]
  | .newGeom | .deleteGeom | .setGeomData => [.geom]
  | .newGeomAccel | .deleteGeomAccel => [.geomAccel]
  | .newInstanceAccel | .deleteInstanceAccel => [.instanceAccel]
  | .gatherPrograms | .build =>
    [.shaderProgram, .progType .rayGen, .progType .missProg, .geomType]

namespace Context

theorem expireWeak_of_kind_ne (h : Heap) (q : Ptr) {k : ObjectKind} (hk : k ≠ .shaderModule) :
    expireWeak h q k = h k :=
  Function.update_of_ne hk _ _

/-- **An operation leaves the classes alone that it does not touch.** -/
theorem Step.heap_frame {op : Op} {c c' : Context} (hstep : Step op c c') {k : ObjectKind}
    (hk : k ∉ op.touches) : c'.heap k = c.heap k := by
  have hne : ∀ k', k' ∈ op.touches → k ≠ k' := fun k' hmem heq => hk (heq ▸ hmem)
  -- `gatherPrograms` changes the indices of programs and types
  have hgather : ∀ c : Context, (∀ k', k' ∈ Op.gatherPrograms.touches → k ≠ k') →
      c.gatherPrograms.2.heap k = c.heap k := by
    intro c hne
    have hs := gatherPrograms_frame c.rtPipeline c.heap
    refine hs.eq_of_erase_id k fun o => ?_
    cases k with
    | shaderProgram => exact absurd rfl (hne .shaderProgram (by decide))
    | progType k => cases k <;> exact absurd rfl (hne _ (by decide))
    | geomType => exact absurd rfl (hne .geomType (by decide))
    | _ => rfl
  cases hstep with
  | newShaderModule | deleteShaderModule => exact set_of_kind_ne _ _ _ (hne _ (by decide))
  | newCompute => exact set_of_kind_ne _ _ _ (hne _ (by decide))
  | deleteShaderProgram =>
    exact (expireWeak_of_kind_ne _ _ (hne _ (by decide))).trans
      (set_of_kind_ne _ _ _ (hne _ (by decide)))
  | newProgType _ k' =>
    exact (set_of_kind_ne _ _ _ (hne _ (by cases k' <;> decide))).trans
      (get_heap_of_ne _ _ _ _ _ _ (hne _ (by decide)) (hne _ (by decide)))
  | deleteProgType _ k' => exact set_of_kind_ne _ _ _ (hne _ (by cases k' <;> decide))
  | newProg _ k' | deleteProg _ k' | setProgData _ k' =>
    exact set_of_kind_ne _ _ _ (hne _ (by cases k' <;> decide))
  | newGeomType | deleteGeomType => exact set_of_kind_ne _ _ _ (hne _ (by decide))
  | setHitProg =>
    exact (set_of_kind_ne _ _ _ (hne _ (by decide))).trans
      (get_heap_of_ne _ _ _ _ _ _ (hne _ (by decide)) (hne _ (by decide)))
  | setBoundsProg =>
    exact (set_of_kind_ne _ _ _ (hne _ (by decide))).trans
      (set_of_kind_ne _ _ _ (hne _ (by decide)))
  | newGeom | deleteGeom | setGeomData => exact set_of_kind_ne _ _ _ (hne _ (by decide))
  | newGeomAccel | deleteGeomAccel => exact set_of_kind_ne _ _ _ (hne _ (by decide))
  | newInstanceAccel | deleteInstanceAccel => exact set_of_kind_ne _ _ _ (hne _ (by decide))
  | gatherPrograms => exact hgather c hne
  | build _ c' stages groups handles hrun =>
    have hheap := hgather c hne
    rw [hrun] at hheap
    exact hheap

/-- A run leaves the classes alone that none of its operations touches. -/
theorem Run.heap_frame {allowed : Op → Prop} {c c' : Context} (hrun : Run allowed c c')
    {k : ObjectKind} (hk : ∀ op, allowed op → k ∉ op.touches) : c'.heap k = c.heap k :=
  hrun.induction (P := fun c₁ => c₁.heap k = c.heap k) rfl fun op _ _ hop hstep ih =>
    (hstep.heap_frame (hk op hop)).trans ih

/-- What `build` hands to Vulkan and gets back is the same. -/
def SamePipeline (p p' : RTPipeline) : Prop :=
  p'.pipeline = p.pipeline ∧ p'.shaderHandleStorage = p.shaderHandleStorage ∧
    p'.properties = p.properties

theorem samePipeline_get (c : Context) (m : Ptr) (mod : ShaderModule) (entryPoint : String)
    (stage : ShaderStage) (q : Ptr) :
    SamePipeline c.rtPipeline (c.get m mod entryPoint stage q).2.rtPipeline := by
  unfold Context.get
  split
  · exact ⟨rfl, rfl, rfl⟩
  · exact ⟨rfl, rfl, rfl⟩

/-- Only `build`, whether it comes to its end or not, changes the pipeline on the Vulkan side. -/
theorem Step.pipeline_frame {op : Op} {c c' : Context} (hstep : Step op c c')
    (hop : op ∉ [.gatherPrograms, .build]) : SamePipeline c.rtPipeline c'.rtPipeline := by
  cases hstep with
  | newProgType _ k m mod entryPoint dataSize q t =>
    exact samePipeline_get c m mod entryPoint k.stage q
  | setHitProg _ t gt role m mod entryPoint q =>
    exact samePipeline_get c m mod entryPoint role.stage q
  | gatherPrograms | build => exact absurd (by decide) hop
  | _ => exact ⟨rfl, rfl, rfl⟩

/-! ## The handles of the live types -/

/-- The tracked types are the live ones. -/
theorem Invariant.mem_types {c : Context} (h : c.Invariant) {r : ObjectKind × Ptr} :
    r ∈ c.rtPipeline.types ↔ (groupIndex c.heap r).isSome := by
  obtain ⟨k, p⟩ := r
  have hmiss := h.progTypes .missProg p
  have hray := h.progTypes .rayGen p
  have hgeom := h.geomTypes p
  simp only [RTPipeline.types, List.mem_append, List.mem_map, Prod.mk.injEq]
  cases k with
  | progType k => cases k <;> simp [groupIndex, ← hmiss, ← hray] <;> rfl
  | geomType => simp [groupIndex, ← hgeom]; rfl
  | _ => simp [groupIndex]

/-- The pipeline `pl` is built, its handles are on the host, and every live type
holds the index of one of them. -/
structure HandlesCurrent (c : Context) (pl : VkPipeline) : Prop where
  pipeline : c.rtPipeline.pipeline = some pl
  storage : c.rtPipeline.shaderHandleStorage = pl.handles.flatten
  size_eq : ∀ h ∈ pl.handles, h.length = c.rtPipeline.properties.shaderGroupHandleSize.toNat
  index : ∀ r x, groupIndex c.heap r = some x → ∃ i : ℕ, x = i ∧ i < pl.handles.length

/-- **What `build` leaves behind**: tables that fit the objects, and current handles. -/
theorem Step.build_spec {c c' : Context} (hc : c.Invariant) (hstep : Step .build c c') :
    ∃ pl, c'.HandlesCurrent pl ∧ c'.ShaderTables pl.stages pl.groups ∧
      pl.handles.length = pl.groups.length := by
  have hinv := hstep.invariant hc
  cases hstep with
  | build _ c₁ stages groups handles hrun hhandles =>
    have htables := hc.shaderTables hrun
    have hprops : c₁.rtPipeline.properties = c.rtPipeline.properties := by
      obtain ⟨h', -, rfl⟩ := gatherPrograms_eq_ok hrun
      rfl
    refine ⟨⟨stages, groups, handles⟩, ⟨rfl, rfl, fun h hh => ?_, fun r x hx => ?_⟩,
      { htables with }, hhandles.length_eq⟩
    · exact (hhandles.size_eq h hh).trans (by rw [← hprops]; rfl)
    · obtain ⟨i, hi, hidx⟩ := htables.index r (hinv.mem_types.mpr (Option.isSome_of_eq_some hx))
      obtain rfl := Option.some.inj (hidx.symm.trans hx)
      exact ⟨i, rfl, hhandles.length_eq ▸ hi⟩

/-- Operations that neither create a type nor number the groups. -/
def KeepsHandles (op : Op) : Prop :=
  op ∉ [.newProgType, .newGeomType, .gatherPrograms, .build]

instance : DecidablePred KeepsHandles := fun op => inferInstanceAs (Decidable (op ∉ _))

/-- The indices depend on the types only. -/
theorem groupIndex_congr {h h' : Heap} (hp : ∀ k, h' (.progType k) = h (.progType k))
    (hg : h' .geomType = h .geomType) : groupIndex h' = groupIndex h := by
  funext r
  unfold groupIndex
  split
  · rw [hp]
  · rw [hg]
  · rfl

theorem groupIndex_set_progType {h : Heap} {k : ProgKind} {t : Ptr} {r : ObjectKind × Ptr} {x : ℤ}
    (hx : groupIndex (set h (.progType k) t none) r = some x) : groupIndex h r = some x := by
  unfold groupIndex at hx ⊢
  split at hx
  · rename_i k' p
    by_cases hk : k' = k
    · subst hk
      rw [set_apply] at hx
      split_ifs at hx
      · cases hx
      · exact hx
    · rwa [set_of_kind_ne _ _ _ (by simpa using hk)] at hx
  · exact hx
  · exact hx

/-- Destroying a geometry type, or changing it without touching its index. -/
theorem groupIndex_set_geomType {h : Heap} {t : Ptr} {o : Option GeomType}
    (ho : ∀ gt', o = some gt' →
      ∃ gt, h .geomType t = some gt ∧ gt.shaderGroupIndex = gt'.shaderGroupIndex)
    {r : ObjectKind × Ptr} {x : ℤ} (hx : groupIndex (set h .geomType t o) r = some x) :
    groupIndex h r = some x := by
  unfold groupIndex at hx ⊢
  split at hx
  · exact hx
  · rename_i p
    rw [set_apply] at hx
    split_ifs at hx with hp
    · obtain ⟨gt', rfl, rfl⟩ := Option.map_eq_some_iff.mp hx
      obtain ⟨gt, hgt, hidx⟩ := ho gt' rfl
      simp only [hp, hgt, Option.map_some, hidx]
    · exact hx
  · exact hx

/-- Without a new type and without renumbering, indices do not change. -/
theorem Step.groupIndex_frame {op : Op} {c c' : Context} (hstep : Step op c c')
    (hop : KeepsHandles op) {r : ObjectKind × Ptr} {x : ℤ}
    (hx : groupIndex c'.heap r = some x) : groupIndex c.heap r = some x := by
  have hframe : (∀ k, .progType k ∉ op.touches) → .geomType ∉ op.touches →
      groupIndex c.heap r = some x := fun hp hg => by
    rwa [groupIndex_congr (fun k => hstep.heap_frame (hp k)) (hstep.heap_frame hg)] at hx
  cases hstep with
  | newProgType | newGeomType | gatherPrograms | build => exact absurd (by decide) hop
  | deleteProgType _ k t => exact groupIndex_set_progType hx
  | deleteGeomType _ t => exact groupIndex_set_geomType (by simp) hx
  | setHitProg _ t gt role m mod entryPoint q ht =>
    have hheap := fun k hk hk' => get_heap_of_ne c m mod entryPoint role.stage q (k := k) hk hk'
    rw [← groupIndex_congr (fun k => hheap (.progType k) (by simp) (by simp))
      (hheap .geomType (by simp) (by simp))]
    refine groupIndex_set_geomType (fun gt' hgt' => ?_) hx
    obtain rfl := Option.some.inj hgt'
    refine ⟨gt, ?_, by cases role <;> rfl⟩
    rw [hheap .geomType (by simp) (by simp)]
    exact ht
  | setBoundsProg _ t gt m mod entryPoint q ht =>
    have hheap := fun k hk => newShaderProgram_heap_of_ne c m entryPoint .COMPUTE q (k := k) hk
    rw [← groupIndex_congr (fun k => hheap (.progType k) (by simp)) (hheap .geomType (by simp))]
    refine groupIndex_set_geomType (fun gt' hgt' => ?_) hx
    obtain rfl := Option.some.inj hgt'
    refine ⟨gt, ?_, rfl⟩
    rw [hheap .geomType (by simp)]
    exact ht
  | _ => exact hframe (fun k => by cases k <;> decide) (by decide)

/-- **The handles stay current** until a type is created or the groups are numbered
again. -/
theorem HandlesCurrent.run {c c' : Context} {pl : VkPipeline} (h : c.HandlesCurrent pl)
    (hrun : Run KeepsHandles c c') : c'.HandlesCurrent pl := by
  refine hrun.induction (P := fun c₁ => c₁.HandlesCurrent pl) h fun op c₁ c₂ hop hstep h₁ => ?_
  have hbuild : op ∉ [.gatherPrograms, .build] := by
    intro hmem
    simp only [List.mem_cons, List.not_mem_nil, or_false] at hmem
    rcases hmem with rfl | rfl
    · exact hop (by decide)
    · exact hop (by decide)
  obtain ⟨hpipeline, hstorage, hprops⟩ := hstep.pipeline_frame hbuild
  exact ⟨hpipeline.trans h₁.pipeline, hstorage.trans h₁.storage, hprops ▸ h₁.size_eq,
    fun r x hx => h₁.index r x (hstep.groupIndex_frame hop hx)⟩

end Context

end Vulkanite
