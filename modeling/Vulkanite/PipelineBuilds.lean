/-
# When a pipeline can be built

`RTPipeline::gatherPrograms` has two errors of its own, both about geometry types: a kind
that it does not know, and a user geometry type without an intersection program.  It stops
in the middle when it meets such a type, with some of the indices stored.

In every reachable state these types decide alone whether `gatherPrograms` comes to its end
(`exists_build_iff`): programs, miss programs and ray generation programs never stop it, and
neither does what an earlier build, complete or not, has stored in the objects.

What it gathers goes to Vulkan, which asks more of it: a ray generation stage, and for each
group stages of the right kinds.  `validPipeline_iff` says what that means for the programs.
-/
import Vulkanite.BuiltPipeline

namespace Vulkanite

open TypedHeap

/-! ## Loops that complete -/

/-- Started in a heap with the objects of `h₀`, the computation completes and leaves such
a heap behind. -/
def Gather.Completes {β : Type} (h₀ : Heap) (x : Gather β) : Prop :=
  ∀ h, SameButIndices h₀ h → SameButIndices h₀ (x h).2 ∧ ∃ b, (x h).1 = .ok b

theorem Gather.Completes.bind {α β : Type} {h₀ : Heap} {x : Gather α} {f : α → Gather β}
    (hx : Completes h₀ x) (hf : ∀ a, Completes h₀ (f a)) : Completes h₀ (x >>= f) := by
  intro h hs
  obtain ⟨hs', a, ha⟩ := hx h hs
  rw [Gather.bind_run, ha]
  exact hf a _ hs'

/-- A loop completes if its body does, whatever indices there are. -/
theorem numberAll_completes {k : ObjectKind} {β : Type} {setIndex : ℕ → Obj k → Obj k}
    {emit : Heap → Obj k → Except GatherError β} {h₀ : Heap}
    (hset : ∀ i o, eraseIndex k (setIndex i o) = eraseIndex k o)
    (hemit : ∀ h p o, SameButIndices h₀ h → h k p = some o → ∃ b, emit h o = .ok b)
    {ps : List Ptr} (hlive : ∀ p ∈ ps, (h₀ k p).isSome) (n : ℕ) :
    Gather.Completes h₀ (fun h => numberAll setIndex emit .dangling ps n h) := by
  induction ps generalizing n with
  | nil => exact fun h hs => ⟨hs, [], rfl⟩
  | cons p ps ih =>
    intro h hs
    obtain ⟨o, ho⟩ := Option.isSome_iff_exists.mp
      ((hs.isSome_iff k p).mpr (hlive p List.mem_cons_self))
    obtain ⟨b, hb⟩ := hemit h p o hs ho
    have hs' : SameButIndices h₀ (set h k p (some (setIndex n o))) :=
      hs.trans (sameButIndices_of_sameButIndex hset (sameButIndex_set ho n))
    obtain ⟨hs'', bs, hbs⟩ := ih (fun q hq => hlive q (List.mem_cons_of_mem p hq)) (n + 1) _ hs'
    simp only [numberAll, ho, hb]
    exact ⟨hs'', b :: bs, by rw [hbs]; rfl⟩

/-! ## Geometry types -/

/-- `gatherPrograms` has a group for the type. -/
def GeomType.HasGroup (gt : GeomType) : Prop :=
  gt.kind = .TRIANGLES ∨ gt.kind = .USER ∧ gt.is ≠ none

instance (gt : GeomType) : Decidable gt.HasGroup := inferInstanceAs (Decidable (_ ∨ _))

/-- Indices do not matter. -/
theorem GeomType.hasGroup_congr {gt gt' : GeomType}
    (h : eraseIndex .geomType gt = eraseIndex .geomType gt') : gt.HasGroup ↔ gt'.HasGroup := by
  simp only [eraseIndex, GeomType.mk.injEq] at h
  obtain ⟨hkind, -, -, -, -, his, -⟩ := h
  rw [GeomType.HasGroup, GeomType.HasGroup, hkind, his]

/-- The group of a type whose programs are live. -/
theorem geomTypeGroup_isOk {h : Heap} {gt : GeomType} (hgroup : gt.HasGroup)
    (hprogs : ∀ role q, gt.prog role = some q → (h .shaderProgram q).isSome) :
    ∃ g, geomTypeGroup h gt = .ok g := by
  obtain ⟨x, hx⟩ := stageIndexOrUnused_isOk (hprogs .ch)
  obtain ⟨y, hy⟩ := stageIndexOrUnused_isOk (hprogs .ah)
  obtain ⟨z, hz⟩ := stageIndexOrUnused_isOk (hprogs .is)
  simp only [GeomType.prog] at hx hy hz
  unfold geomTypeGroup geomIntersectionShader
  rw [hx, hy]
  rcases hgroup with hkind | ⟨hkind, his⟩
  · rw [hkind]
    exact ⟨_, rfl⟩
  · obtain ⟨q, hq⟩ := Option.ne_none_iff_exists'.mp his
    rw [hq, stageIndexOrUnused] at hz
    simp only [hkind, hq, hz]
    exact ⟨_, rfl⟩

/-- A type with a group is one that `gatherPrograms` knows. -/
theorem hasGroup_of_geomTypeGroup {h : Heap} {gt : GeomType} {g : ShaderGroupInfo}
    (hg : geomTypeGroup h gt = .ok g) : gt.HasGroup := by
  obtain ⟨type, x, y, z, hkind, -, -, hz, -⟩ := geomTypeGroup_eq_ok hg
  cases hgt : gt.kind with
  | TRIANGLES => exact Or.inl hgt
  | other =>
    rw [hgt] at hkind
    cases hkind
  | USER =>
    refine Or.inr ⟨hgt, fun his => ?_⟩
    rw [geomIntersectionShader, hgt, his] at hz
    cases hz

namespace Context

variable {c : Context}

/-- Every live geometry type has a group. -/
def HasGroups (c : Context) : Prop := ∀ t gt, c.heap .geomType t = some gt → gt.HasGroup

/-- With groups for all types the four loops complete. -/
theorem Invariant.gatherPrograms_completes (h : c.Invariant) (hgroups : c.HasGroups) :
    Gather.Completes c.heap c.rtPipeline.gatherPrograms := by
  have hprogTypes : ∀ k n, Gather.Completes c.heap
      (gatherProgTypes k (c.rtPipeline.progTypes k).toList n) := by
    intro k n
    refine numberAll_completes (by intro i o; rfl) (fun h' t o hs ho => ?_)
      (fun t ht => (h.progTypes k t).mp ht) n
    obtain ⟨q, hq, -⟩ := (h.sameButIndices hs).progTypePrograms k t o ho
    rw [progTypeGroup, stageIndex_eq_ok hq]
    exact ⟨_, rfl⟩
  refine Gather.Completes.bind ?_ fun stages => ?_
  · intro h' hs
    refine numberAll_completes (k := .shaderProgram) (by intro i o; rfl) (fun h' q o hs ho => ?_)
      (fun q hq => (h.programs q).mp (List.mem_of_mem_filter hq)) 0 h' hs
    obtain ⟨m, hm⟩ := (h.sameButIndices hs).closed.get ho (List.mem_singleton.mpr rfl)
    exact ⟨_, getShaderStage_eq_ok hm⟩
  refine Gather.Completes.bind (hprogTypes .missProg 0) fun missGroups => ?_
  refine Gather.Completes.bind (hprogTypes .rayGen _) fun rayGenGroups => ?_
  refine Gather.Completes.bind ?_ fun geomGroups => fun h' hs => ⟨hs, _, rfl⟩
  refine numberAll_completes (by intro i o; rfl) (fun h' t gt hs hgt => ?_)
    (fun t ht => (h.geomTypes t).mp ht) _
  obtain ⟨gt₀, hgt₀, herase⟩ := hs.get hgt
  refine geomTypeGroup_isOk ((GeomType.hasGroup_congr herase).mp (hgroups t gt₀ hgt₀))
    fun role q hq => ?_
  obtain ⟨o, ho, -⟩ := (h.sameButIndices hs).hitPrograms t gt role q hgt hq
  exact Option.isSome_iff_exists.mpr ⟨o, ho⟩

/-- Tables are only made if all types have groups. -/
theorem Invariant.hasGroups (h : c.Invariant) {c' : Context} {stages : List ShaderStageInfo}
    {groups : List ShaderGroupInfo} (hrun : c.gatherPrograms = (.ok (stages, groups), c')) :
    c.HasGroups := by
  intro t gt hgt
  obtain ⟨h', hpipeline, -⟩ := gatherPrograms_eq_ok hrun
  have hg := gatherPrograms_spec hpipeline
  have hmem : (.geomType, t) ∈ c.rtPipeline.types :=
    h.mem_types.mpr (by simp [groupIndex, hgt])
  obtain ⟨i, hi⟩ := List.mem_iff_getElem?.mp hmem
  obtain ⟨-, g, -, hgroup⟩ := hg.groups_labels.label i _ hi
  obtain ⟨gt', hgt', herase⟩ := hg.same.symm.get hgt
  rw [typeGroup, hgt'] at hgroup
  exact (GeomType.hasGroup_congr herase).mp (hasGroup_of_geomTypeGroup hgroup)

/-- A context goes from one state to another by a build that comes to its end exactly if all
live geometry types have groups, whatever earlier builds have left in the objects. -/
theorem exists_build_iff (hc : c.Reachable) :
    (∃ c', Step .build c c') ↔ c.HasGroups := by
  have h := hc.invariant
  constructor
  · rintro ⟨c', hstep⟩
    cases hstep with
    | build _ c₁ stages groups handles hrun _ => exact h.hasGroups hrun
  · intro hgroups
    obtain ⟨-, ⟨stages, groups⟩, hok⟩ :=
      h.gatherPrograms_completes hgroups c.heap (SameButIndices.refl c.heap)
    refine ⟨_, .build c c.gatherPrograms.2 stages groups (List.replicate groups.length
      (List.replicate c.rtPipeline.properties.shaderGroupHandleSize.toNat 0)) ?_
      ⟨List.length_replicate, fun handle hh => ?_⟩⟩
    · exact Prod.ext hok rfl
    · rw [List.eq_of_mem_replicate hh, List.length_replicate]

end Context

/-! ## What Vulkan asks of stages and groups -/

/-- The kind of the stage that a group refers to. -/
def stageAt (stages : List ShaderStageInfo) (x : ℤ) : Option ShaderStage :=
  if 0 ≤ x then (stages[x.toNat]?).map (·.stage) else none

/-- A stage that a general group may have. -/
def IsGeneralStage (stage : Option ShaderStage) : Prop := stage = some .RAYGEN ∨ stage = some .MISS

instance : DecidablePred IsGeneralStage := fun _ => inferInstanceAs (Decidable (_ ∨ _))

/-- A shader of a hit group is not used, or a stage of its kind. -/
def IsUnusedOr (stages : List ShaderStageInfo) (stage : ShaderStage) (x : ℤ) : Prop :=
  x = VK_SHADER_UNUSED ∨ stageAt stages x = some stage

instance (stages : List ShaderStageInfo) (stage : ShaderStage) :
    DecidablePred (IsUnusedOr stages stage) := fun _ => inferInstanceAs (Decidable (_ ∨ _))

/-- What Vulkan asks of `VkRayTracingShaderGroupCreateInfoKHR`. -/
def ShaderGroupInfo.Valid (stages : List ShaderStageInfo) (g : ShaderGroupInfo) : Prop :=
  match g.type with
  | .GENERAL => IsGeneralStage (stageAt stages g.generalShader) ∧
      g.closestHitShader = VK_SHADER_UNUSED ∧ g.anyHitShader = VK_SHADER_UNUSED ∧
      g.intersectionShader = VK_SHADER_UNUSED
  | .TRIANGLES_HIT_GROUP => IsUnusedOr stages .CLOSEST_HIT g.closestHitShader ∧
      IsUnusedOr stages .ANY_HIT g.anyHitShader ∧ g.intersectionShader = VK_SHADER_UNUSED
  | .PROCEDURAL_HIT_GROUP => IsUnusedOr stages .CLOSEST_HIT g.closestHitShader ∧
      IsUnusedOr stages .ANY_HIT g.anyHitShader ∧
      stageAt stages g.intersectionShader = some .INTERSECTION

instance (stages : List ShaderStageInfo) : DecidablePred (ShaderGroupInfo.Valid stages)
  | ⟨.GENERAL, _, _, _, _⟩ => inferInstanceAs (Decidable (_ ∧ _))
  | ⟨.TRIANGLES_HIT_GROUP, _, _, _, _⟩ => inferInstanceAs (Decidable (_ ∧ _))
  | ⟨.PROCEDURAL_HIT_GROUP, _, _, _, _⟩ => inferInstanceAs (Decidable (_ ∧ _))

/-- What Vulkan asks of the stages and groups in `VkRayTracingPipelineCreateInfoKHR`. -/
structure ValidPipeline (stages : List ShaderStageInfo) (groups : List ShaderGroupInfo) :
    Prop where
  rayGen : ∃ stage ∈ stages, stage.stage = .RAYGEN
  nonempty : groups ≠ []
  valid : ∀ g ∈ groups, g.Valid stages

instance (stages : List ShaderStageInfo) (groups : List ShaderGroupInfo) :
    Decidable (ValidPipeline stages groups) :=
  decidable_of_iff ((∃ stage ∈ stages, stage.stage = .RAYGEN) ∧ groups ≠ [] ∧
    ∀ g ∈ groups, g.Valid stages) ⟨fun h => ⟨h.1, h.2.1, h.2.2⟩, fun h => ⟨h.1, h.2, h.3⟩⟩

/-! ## Which tables are valid -/

/-- The stage of a program. -/
def programStage (h : Heap) (q : Ptr) : Option ShaderStage := (h .shaderProgram q).map (·.stage)

/-- The programs of a type are of the kinds that its group needs.  A program of a miss type
may be one for ray generation: `ShaderModule::get` looks only at the entry point. -/
def TypeFits (h : Heap) : ObjectKind × Ptr → Prop
  | (.progType k, t) => ∀ o, h (.progType k) t = some o → IsGeneralStage (programStage h o.program)
  | (.geomType, t) => ∀ gt role q, h .geomType t = some gt → gt.prog role = some q →
      (role = .is → gt.kind = .USER) → programStage h q = some role.stage
  | _ => True

/-- Indices do not matter. -/
theorem programStage_congr {h h' : Heap} (hs : SameButIndices h h') :
    programStage h' = programStage h := by
  funext q
  cases hq : h' .shaderProgram q with
  | none =>
    have hnone : h .shaderProgram q = none := by
      rw [← Option.not_isSome_iff_eq_none, ← hs.isSome_iff, hq]
      rintro ⟨⟩
    simp only [programStage, hq, hnone]
  | some o' =>
    obtain ⟨o, ho, herase⟩ := hs.get hq
    simp only [programStage, hq, ho, Option.map_some, (eraseIndex_shaderProgram herase).2.2]

/-- Indices do not matter. -/
theorem TypeFits.congr {h h' : Heap} (hs : SameButIndices h h') {r : ObjectKind × Ptr}
    (hfits : TypeFits h r) : TypeFits h' r := by
  obtain ⟨k, t⟩ := r
  cases k with
  | progType k =>
    intro o' ho'
    obtain ⟨o, ho, herase⟩ := hs.get ho'
    rw [programStage_congr hs, ← (eraseIndex_progType herase).2]
    exact hfits o ho
  | geomType =>
    intro gt' role q hgt' hq his
    obtain ⟨gt, hgt, herase⟩ := hs.get hgt'
    have hkind : gt.kind = gt'.kind := by
      simp only [eraseIndex, GeomType.mk.injEq] at herase
      exact herase.1
    rw [programStage_congr hs]
    exact hfits gt role q hgt ((eraseIndex_geomType herase).2.1 role ▸ hq)
      fun hrole => hkind.trans (his hrole)
  | _ => trivial

namespace Context

/-- A program for ray generation is alive, and a type, and all types have programs of the
kinds that their groups need. -/
structure StagesFit (c : Context) : Prop where
  rayGen : ∃ q, programStage c.heap q = some .RAYGEN
  types : c.rtPipeline.types ≠ []
  fits : ∀ r, TypeFits c.heap r

variable {c : Context} {stages : List ShaderStageInfo}

/-- A stage is that of its program. -/
theorem StageOf.programStage_eq {q : Ptr} {i : ℕ} (h : c.StageOf stages q i) :
    ∃ stage, stages[i]? = some stage ∧ programStage c.heap q = some stage.stage := by
  obtain ⟨o, stage, ho, -, hstage, hget⟩ := h
  refine ⟨stage, hstage, ?_⟩
  unfold getShaderStage at hget
  split at hget
  · cases hget
  · rw [← Except.ok.inj hget, programStage, ho, Option.map_some]

/-- The shader index of a program refers to its stage. -/
theorem stageAt_of_shaderIndexOf {q : Ptr} {x : ℤ} (h : c.ShaderIndexOf stages (some q) x) :
    stageAt stages x = programStage c.heap q := by
  obtain ⟨i, rfl, -, -, hstageOf⟩ := h
  obtain ⟨stage, hstage, hprogram⟩ := hstageOf.programStage_eq
  rw [stageAt, if_pos (Int.natCast_nonneg i), Int.toNat_natCast, hstage, Option.map_some, hprogram]

/-- No index of a program is that of an unused shader. -/
theorem shaderIndexOf_ne_unused {q : Ptr} {x : ℤ} (h : c.ShaderIndexOf stages (some q) x) :
    x ≠ VK_SHADER_UNUSED := by
  obtain ⟨i, rfl, -⟩ := h
  unfold VK_SHADER_UNUSED
  omega

/-- A shader of a hit group is valid if the program is of its kind. -/
theorem isUnusedOr_iff {q : Option Ptr} {stage : ShaderStage} {x : ℤ}
    (h : c.ShaderIndexOf stages q x) :
    IsUnusedOr stages stage x ↔ ∀ p, q = some p → programStage c.heap p = some stage := by
  cases q with
  | none => exact iff_of_true (Or.inl h) fun p hp => by cases hp
  | some q =>
    rw [IsUnusedOr, stageAt_of_shaderIndexOf h, or_iff_right (shaderIndexOf_ne_unused h)]
    exact ⟨fun hstage p hp => Option.some.inj hp ▸ hstage, fun hall => hall q rfl⟩

/-- A hit group is one of the kind of its type. -/
theorem geomGroupType_eq_ok {kind : GeomKind} {type : ShaderGroupType}
    (h : geomGroupType kind = .ok type) :
    (kind = .TRIANGLES ∧ type = .TRIANGLES_HIT_GROUP) ∨
      (kind = .USER ∧ type = .PROCEDURAL_HIT_GROUP) := by
  cases kind with
  | TRIANGLES => exact Or.inl ⟨rfl, (Except.ok.inj h).symm⟩
  | USER => exact Or.inr ⟨rfl, (Except.ok.inj h).symm⟩
  | other => cases h

/-- **A group is valid exactly if** the programs of its type are of the right kinds. -/
theorem GroupOf.valid_iff {g : ShaderGroupInfo} {r : ObjectKind × Ptr}
    (h : c.GroupOf stages g r) (hgroups : c.HasGroups) : g.Valid stages ↔ TypeFits c.heap r := by
  obtain ⟨k, t⟩ := r
  cases k with
  | progType k =>
    obtain ⟨o, ho, htype, hgeneral, hunused⟩ := h
    simp only [ShaderGroupInfo.Valid, htype, stageAt_of_shaderIndexOf hgeneral, TypeFits, ho,
      Option.some.injEq, forall_eq']
    exact and_iff_left hunused
  | geomType =>
    obtain ⟨gt, hgt, htype, -, hch, hah, his⟩ := h
    have hroles : TypeFits c.heap (.geomType, t) ↔
        (∀ q, gt.ch = some q → programStage c.heap q = some .CLOSEST_HIT) ∧
          (∀ q, gt.ah = some q → programStage c.heap q = some .ANY_HIT) ∧
          (gt.kind = .USER → ∀ q, gt.is = some q → programStage c.heap q = some .INTERSECTION) := by
      constructor
      · intro hfits
        exact ⟨fun q hq => hfits gt .ch q hgt hq (by rintro ⟨⟩),
          fun q hq => hfits gt .ah q hgt hq (by rintro ⟨⟩),
          fun hkind q hq => hfits gt .is q hgt hq fun _ => hkind⟩
      · rintro ⟨hfitsCh, hfitsAh, hfitsIs⟩ gt' role q hgt' hq hrole
        obtain rfl := Option.some.inj (hgt.symm.trans hgt')
        cases role with
        | ch => exact hfitsCh q hq
        | ah => exact hfitsAh q hq
        | is => exact hfitsIs (hrole rfl) q hq
    rw [hroles, ← isUnusedOr_iff hch, ← isUnusedOr_iff hah]
    rcases geomGroupType_eq_ok htype with ⟨hkind, htype⟩ | ⟨hkind, htype⟩
    · rw [hkind] at his ⊢
      have hunused : g.intersectionShader = VK_SHADER_UNUSED := his
      simp only [ShaderGroupInfo.Valid, htype, hunused, reduceCtorEq, false_implies, and_true]
    · -- a user geometry type with a group has an intersection program
      obtain ⟨q, hq⟩ := Option.ne_none_iff_exists'.mp
        ((hgroups t gt hgt).resolve_left (by rw [hkind]; decide)).2
      rw [if_pos hkind, hq] at his
      simp only [ShaderGroupInfo.Valid, htype, stageAt_of_shaderIndexOf his, hkind, hq,
        forall_const, Option.some.injEq, forall_eq']
  | _ => exact h.elim

/-- There is a stage for ray generation if there is such a program. -/
theorem Invariant.exists_rayGen_iff (h : c.Invariant) {groups : List ShaderGroupInfo}
    (htables : c.ShaderTables stages groups) :
    (∃ stage ∈ stages, stage.stage = .RAYGEN) ↔ ∃ q, programStage c.heap q = some .RAYGEN := by
  constructor
  · rintro ⟨stage, hstage, hrayGen⟩
    obtain ⟨i, hi, rfl⟩ := List.mem_iff_getElem.mp hstage
    obtain ⟨q, ⟨-, hstageOf⟩, -⟩ := htables.stage_unique i hi
    obtain ⟨stage', hstage', hprogram⟩ := hstageOf.programStage_eq
    obtain rfl := Option.some.inj ((List.getElem?_eq_getElem hi).symm.trans hstage')
    exact ⟨q, hprogram.trans (congrArg some hrayGen)⟩
  · rintro ⟨q, hq⟩
    obtain ⟨o, ho, hstage⟩ := Option.map_eq_some_iff.mp hq
    obtain ⟨i, -, hstageOf⟩ := htables.stageOf q (h.hasStage ⟨o, ho, by rw [hstage]; decide⟩)
    obtain ⟨stage, hget, hprogram⟩ := hstageOf.programStage_eq
    exact ⟨stage, List.mem_of_getElem? hget, Option.some.inj (hprogram.symm.trans hq)⟩

/-- There is a group if there is a type. -/
theorem ShaderTables.groups_ne_nil_iff {groups : List ShaderGroupInfo}
    (htables : c.ShaderTables stages groups) : groups ≠ [] ↔ c.rtPipeline.types ≠ [] := by
  constructor
  · intro hgroups hnil
    obtain ⟨r, ⟨hr, -⟩, -⟩ := htables.index_unique 0 (List.length_pos_iff.mpr hgroups)
    rw [hnil] at hr
    cases hr
  · intro htypes hnil
    obtain ⟨r, hr⟩ := List.exists_mem_of_ne_nil _ htypes
    obtain ⟨i, hi, -⟩ := htables.index r hr
    rw [hnil] at hi
    exact absurd hi (Nat.not_lt_zero i)

/-- A type that is not tracked is not alive. -/
theorem Invariant.typeFits_of_notMem (h : c.Invariant) {r : ObjectKind × Ptr}
    (hr : r ∉ c.rtPipeline.types) : TypeFits c.heap r := by
  have hdead := h.mem_types.not.mp hr
  obtain ⟨k, t⟩ := r
  cases k with
  | progType k =>
    intro o ho
    exact absurd (by simp [groupIndex, ho]) hdead
  | geomType =>
    intro gt role q hgt
    exact absurd (by simp [groupIndex, hgt]) hdead
  | _ => trivial

/-- The groups are valid if the programs of all types are of the right kinds. -/
theorem Invariant.forall_valid_iff (h : c.Invariant) {groups : List ShaderGroupInfo}
    (htables : c.ShaderTables stages groups) (hgroups : c.HasGroups) :
    (∀ g ∈ groups, g.Valid stages) ↔ ∀ r, TypeFits c.heap r := by
  constructor
  · intro hvalid r
    by_cases hr : r ∈ c.rtPipeline.types
    · obtain ⟨i, -, hi⟩ := htables.index r hr
      obtain ⟨g, hg, hgroupOf⟩ := htables.group r hr i hi
      exact (hgroupOf.valid_iff hgroups).mp (hvalid g (List.mem_of_getElem? hg))
    · exact h.typeFits_of_notMem hr
  · intro hfits g hg
    obtain ⟨i, hi, rfl⟩ := List.mem_iff_getElem.mp hg
    obtain ⟨r, ⟨hr, hindex⟩, -⟩ := htables.index_unique i hi
    obtain ⟨g', hg', hgroupOf⟩ := htables.group r hr i hindex
    obtain rfl := Option.some.inj ((List.getElem?_eq_getElem hi).symm.trans hg')
    exact (hgroupOf.valid_iff hgroups).mpr (hfits r)

/-- **Vulkan accepts the tables exactly if** the programs are of the right kinds, one of them
for ray generation. -/
theorem Invariant.validPipeline_iff (h : c.Invariant) {c' : Context}
    {groups : List ShaderGroupInfo} (hrun : c.gatherPrograms = (.ok (stages, groups), c')) :
    ValidPipeline stages groups ↔ c.StagesFit := by
  have htables := h.shaderTables hrun
  have hhasGroups := h.hasGroups hrun
  have hinv := h.gatherPrograms
  rw [hrun] at hinv
  obtain ⟨h', hpipeline, rfl⟩ := gatherPrograms_eq_ok hrun
  have hsame := (gatherPrograms_spec hpipeline).same
  have hgroups : HasGroups { c with heap := h' } := fun t gt' hgt' => by
    obtain ⟨gt, hgt, herase⟩ := hsame.get hgt'
    exact (GeomType.hasGroup_congr herase).mp (hhasGroups t gt hgt)
  -- the indices are all that `gatherPrograms` changes
  have hrayGen : (∃ stage ∈ stages, stage.stage = .RAYGEN) ↔
      ∃ q, programStage h' q = some .RAYGEN := hinv.exists_rayGen_iff htables
  rw [programStage_congr hsame] at hrayGen
  have hvalid := hinv.forall_valid_iff htables hgroups
  constructor
  · rintro ⟨hstage, hnonempty, hall⟩
    exact ⟨hrayGen.mp hstage, htables.groups_ne_nil_iff.mp hnonempty,
      fun r => (hvalid.mp hall r).congr hsame.symm⟩
  · rintro ⟨hq, htypes, hfits⟩
    exact ⟨hrayGen.mpr hq, htables.groups_ne_nil_iff.mpr htypes,
      hvalid.mpr fun r => (hfits r).congr hsame⟩

end Context

end Vulkanite
