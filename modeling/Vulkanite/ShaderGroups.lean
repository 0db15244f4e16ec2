/-
# The numbering of shader stages and groups

In every reachable state `gatherPrograms` either throws one of its own errors or
leaves tables behind that fit the tracked objects: the stages are numbered by the
tracked programs other than compute kernels, the groups by the tracked types, and
each shader index in a group is that of the program which the type holds now.

The indices are members of the objects, and an earlier call may have stored others
there.  What excludes a stale one is that every program a live type refers to is
live, hence tracked, hence renumbered (`Invariant`).
-/
import Vulkanite.ContextRuns

namespace Vulkanite

open TypedHeap

/-! ## No dangling pointer -/

/-- Started in a heap with the objects of `h₀`, the computation follows no dangling
pointer and leaves such a heap behind. -/
def Gather.Sound {β : Type} (h₀ : Heap) (x : Gather β) : Prop :=
  ∀ h, SameButIndices h₀ h → SameButIndices h₀ (x h).2 ∧ (x h).1 ≠ .error .dangling

theorem Gather.Sound.bind {α β : Type} {h₀ : Heap} {x : Gather α} {f : α → Gather β}
    (hx : Sound h₀ x) (hf : ∀ a, Sound h₀ (f a)) : Sound h₀ (x >>= f) := by
  intro h hs
  obtain ⟨hs', hne⟩ := hx h hs
  rw [Gather.bind_run]
  rcases hr : (x h).1 with e | a
  · rw [hr] at hne
    exact ⟨hs', fun he => hne (by rw [Except.error.inj he])⟩
  · exact hf a _ hs'

/-- A loop over live objects is sound if its body is. -/
theorem numberAll_sound {k : ObjectKind} {β : Type} {setIndex : ℕ → Obj k → Obj k}
    {emit : Heap → Obj k → Except GatherError β} {h₀ : Heap}
    (hset : ∀ i o, eraseIndex k (setIndex i o) = eraseIndex k o)
    (hemit : ∀ h p o, SameButIndices h₀ h → h k p = some o → emit h o ≠ .error .dangling)
    {ps : List Ptr} (hlive : ∀ p ∈ ps, (h₀ k p).isSome) (n : ℕ) :
    Gather.Sound h₀ (fun h => numberAll setIndex emit .dangling ps n h) := by
  induction ps generalizing n with
  | nil => exact fun h hs => ⟨hs, by rintro ⟨⟩⟩
  | cons p ps ih =>
    intro h hs
    obtain ⟨o, ho⟩ := Option.isSome_iff_exists.mp
      ((hs.isSome_iff k p).mpr (hlive p List.mem_cons_self))
    simp only [numberAll, ho]
    cases hb : emit h o with
    | error e =>
      refine ⟨hs, fun he => hemit h p o hs ho ?_⟩
      rw [hb, Except.error.inj he]
    | ok b =>
      -- numbering changes indices only, which no later iteration follows
      have hs' : SameButIndices h₀ (set h k p (some (setIndex n o))) :=
        hs.trans (sameButIndices_of_sameButIndex hset (sameButIndex_set ho n))
      obtain ⟨hs'', hne⟩ := ih (fun q hq => hlive q (List.mem_cons_of_mem p hq)) (n + 1) _ hs'
      refine ⟨hs'', fun he => hne ?_⟩
      cases hr : (numberAll setIndex emit .dangling ps (n + 1)
          (set h k p (some (setIndex n o)))).1 with
      | error e => rw [hr] at he; exact congrArg _ (Except.error.inj he)
      | ok _ => rw [hr] at he; cases he

/-- The stage of a program with a live module. -/
theorem getShaderStage_eq_ok {h : Heap} {p : ShaderProgram} {m : ShaderModule}
    (hm : h .shaderModule p.shaderModule = some m) : getShaderStage h p =
      .ok { stage := p.stage, module := m.handle, pName := p.entryPoint } := by
  simp only [getShaderStage, hm]

/-- The index of a live program can be read. -/
theorem stageIndex_eq_ok {h : Heap} {q : Ptr} {o : ShaderProgram}
    (ho : h .shaderProgram q = some o) : stageIndex h q = .ok o.shaderStageIndex := by
  simp only [stageIndex, ho]

theorem stageIndexOrUnused_isOk {h : Heap} {q : Option Ptr}
    (hq : ∀ p, q = some p → (h .shaderProgram p).isSome) : ∃ x, stageIndexOrUnused h q = .ok x := by
  cases q with
  | none => exact ⟨VK_SHADER_UNUSED, rfl⟩
  | some p =>
    obtain ⟨o, ho⟩ := Option.isSome_iff_exists.mp (hq p rfl)
    exact ⟨o.shaderStageIndex, stageIndex_eq_ok ho⟩

/-- The group of a type whose programs are live. -/
theorem geomTypeGroup_ne_dangling {h : Heap} {gt : GeomType}
    (hprogs : ∀ role q, gt.prog role = some q → (h .shaderProgram q).isSome) :
    geomTypeGroup h gt ≠ .error .dangling := by
  obtain ⟨x, hx⟩ := stageIndexOrUnused_isOk (hprogs .ch)
  obtain ⟨y, hy⟩ := stageIndexOrUnused_isOk (hprogs .ah)
  obtain ⟨z, hz⟩ := stageIndexOrUnused_isOk (hprogs .is)
  simp only [GeomType.prog] at hx hy hz
  unfold geomTypeGroup geomIntersectionShader
  rw [hx, hy]
  cases hkind : gt.kind with
  | other => rintro ⟨⟩
  | TRIANGLES => rintro ⟨⟩
  | USER =>
    cases his : gt.is with
    | none => rintro ⟨⟩
    | some q =>
      rw [his] at hz
      simp only [stageIndexOrUnused] at hz
      simp only [hz]
      rintro ⟨⟩

namespace Context

variable {c : Context}

/-- **`gatherPrograms` follows no dangling pointer.** -/
theorem Invariant.gatherPrograms_sound (h : c.Invariant) :
    Gather.Sound c.heap c.rtPipeline.gatherPrograms := by
  have hprogTypes : ∀ k n, Gather.Sound c.heap
      (gatherProgTypes k (c.rtPipeline.progTypes k).toList n) := by
    intro k n
    refine numberAll_sound (by intro i o; rfl) (fun h' t o hs ho => ?_)
      (fun t ht => (h.progTypes k t).mp ht) n
    obtain ⟨q, hq, -⟩ := (h.sameButIndices hs).progTypePrograms k t o ho
    simp only [progTypeGroup, stageIndex_eq_ok hq]
    rintro ⟨⟩
  refine Gather.Sound.bind ?_ fun stages => ?_
  · intro h' hs
    refine numberAll_sound (k := .shaderProgram) (by intro i o; rfl) (fun h' q o hs ho => ?_)
      (fun q hq => (h.programs q).mp (List.mem_of_mem_filter hq)) 0 h' hs
    obtain ⟨m, hm⟩ := (h.sameButIndices hs).closed.get ho (List.mem_singleton.mpr rfl)
    have hstage := getShaderStage_eq_ok hm
    rw [hstage]
    rintro ⟨⟩
  -- then one loop for each kind of group
  refine Gather.Sound.bind (hprogTypes .missProg 0) fun missGroups => ?_
  refine Gather.Sound.bind (hprogTypes .rayGen _) fun rayGenGroups => ?_
  refine Gather.Sound.bind ?_ fun geomGroups => fun h' hs => ⟨hs, by rintro ⟨⟩⟩
  refine numberAll_sound (by intro i o; rfl) (fun h' t gt hs hgt => ?_)
    (fun t ht => (h.geomTypes t).mp ht) _
  refine geomTypeGroup_ne_dangling fun role q hq => ?_
  obtain ⟨o, ho, -⟩ := (h.sameButIndices hs).hitPrograms t gt role q hgt hq
  exact Option.isSome_iff_exists.mpr ⟨o, ho⟩

/-! ## The tables -/

/-- The tracked programs other than compute kernels. -/
def HasStage (c : Context) (q : Ptr) : Prop :=
  q ∈ c.rtPipeline.programs ∧ isCompute c.heap q = false

/-- The program at `q` holds the index `i`, and the entry there is its stage. -/
def StageOf (c : Context) (stages : List ShaderStageInfo) (q : Ptr) (i : ℕ) : Prop :=
  ∃ o s, c.heap .shaderProgram q = some o ∧ o.shaderStageIndex = i ∧ stages[i]? = some s ∧
    getShaderStage c.heap o = .ok s

/-- The shader index that stands for a program, or for none. -/
def ShaderIndexOf (c : Context) (stages : List ShaderStageInfo) : Option Ptr → ℤ → Prop
  | none, x => x = VK_SHADER_UNUSED
  | some q, x => ∃ i : ℕ, x = i ∧ i < stages.length ∧ HasStage c q ∧ StageOf c stages q i

/-- The group of a type: its shader indices stand for the programs that the type
holds.  Triangles have no intersection shader, whatever the type holds. -/
def GroupOf (c : Context) (stages : List ShaderStageInfo) (g : ShaderGroupInfo) :
    ObjectKind × Ptr → Prop
  | (.progType k, t) => ∃ o, c.heap (.progType k) t = some o ∧ g.type = .GENERAL ∧
      c.ShaderIndexOf stages (some o.program) g.generalShader ∧
      c.ShaderIndexOf stages none g.closestHitShader ∧
      c.ShaderIndexOf stages none g.anyHitShader ∧
      c.ShaderIndexOf stages none g.intersectionShader
  | (.geomType, t) => ∃ gt, c.heap .geomType t = some gt ∧ geomGroupType gt.kind = .ok g.type ∧
      c.ShaderIndexOf stages none g.generalShader ∧
      c.ShaderIndexOf stages gt.ch g.closestHitShader ∧
      c.ShaderIndexOf stages gt.ah g.anyHitShader ∧
      c.ShaderIndexOf stages (if gt.kind = .USER then gt.is else none) g.intersectionShader
  | _ => False

/-- The tables fit the tracked objects. -/
structure ShaderTables (c : Context) (stages : List ShaderStageInfo)
    (groups : List ShaderGroupInfo) : Prop where
  stageOf : ∀ q, c.HasStage q → ∃ i < stages.length, c.StageOf stages q i
  stage_unique : ∀ i < stages.length, ∃! q, c.HasStage q ∧ c.StageOf stages q i
  index : ∀ r ∈ c.rtPipeline.types, ∃ i < groups.length, groupIndex c.heap r = some (i : ℤ)
  index_unique : ∀ i < groups.length,
    ∃! r, r ∈ c.rtPipeline.types ∧ groupIndex c.heap r = some (i : ℤ)
  group : ∀ r ∈ c.rtPipeline.types, ∀ i : ℕ, groupIndex c.heap r = some (i : ℤ) →
    ∃ g, groups[i]? = some g ∧ c.GroupOf stages g r

/-- A complete run, as a run of the pipeline. -/
theorem gatherPrograms_eq_ok {c' : Context} {stages : List ShaderStageInfo}
    {groups : List ShaderGroupInfo} (hrun : c.gatherPrograms = (.ok (stages, groups), c')) :
    ∃ h', c.rtPipeline.gatherPrograms c.heap = (.ok (stages, groups), h') ∧
      c' = { c with heap := h' } := by
  obtain ⟨hres, hctx⟩ := Prod.mk.inj hrun
  exact ⟨_, Prod.ext hres rfl, hctx.symm⟩

theorem isCompute_eq_false {h : Heap} {q : Ptr} {o : ShaderProgram}
    (ho : h .shaderProgram q = some o) : isCompute h q = false ↔ o.stage ≠ .COMPUTE := by
  simp [isCompute, ho]

/-- Which programs are compute kernels does not depend on indices. -/
theorem isCompute_congr {h h' : Heap} (hs : SameButIndices h h') : isCompute h' = isCompute h := by
  funext q
  cases hq : h' .shaderProgram q with
  | none =>
    have hnone : h .shaderProgram q = none := by
      rw [← Option.not_isSome_iff_eq_none, ← hs.isSome_iff, hq]
      rintro ⟨⟩
    simp only [isCompute, hq, hnone]
  | some o' =>
    obtain ⟨o, ho, herase⟩ := hs.get hq
    simp only [isCompute, hq, ho, (eraseIndex_shaderProgram herase).2.2]

/-- A live program is tracked. -/
theorem Invariant.hasStage (h : c.Invariant) {q : Ptr} (hq : NonCompute c.heap q) :
    c.HasStage q := by
  obtain ⟨o, ho, hstage⟩ := hq
  exact ⟨(h.programs q).mpr (Option.isSome_iff_exists.mpr ⟨o, ho⟩),
    (isCompute_eq_false ho).mpr hstage⟩

/-- What `stageIndex` reads stands for the program. -/
theorem shaderIndexOf_some (h : c.Invariant) {stages : List ShaderStageInfo}
    (hstages : ∀ q, c.HasStage q → ∃ i < stages.length, c.StageOf stages q i) {q : Ptr}
    (hq : NonCompute c.heap q) {x : ℤ} (hx : stageIndex c.heap q = .ok x) :
    c.ShaderIndexOf stages (some q) x := by
  obtain ⟨i, hi, o, s, ho, hidx, hs, hstage⟩ := hstages q (h.hasStage hq)
  rw [stageIndex_eq_ok ho] at hx
  exact ⟨i, by rw [← hidx, Except.ok.inj hx], hi, h.hasStage hq, o, s, ho, hidx, hs, hstage⟩

theorem shaderIndexOf_stageIndexOrUnused (h : c.Invariant) {stages : List ShaderStageInfo}
    (hstages : ∀ q, c.HasStage q → ∃ i < stages.length, c.StageOf stages q i) {q : Option Ptr}
    (hq : ∀ p, q = some p → NonCompute c.heap p) {x : ℤ}
    (hx : stageIndexOrUnused c.heap q = .ok x) : c.ShaderIndexOf stages q x := by
  cases q with
  | none => exact (Except.ok.inj hx).symm
  | some p => exact shaderIndexOf_some h hstages (hq p rfl) hx

/-- The intersection shader of a type, if its kind has one. -/
theorem stageIndexOrUnused_intersection {h : Heap} {gt : GeomType} {z : ℤ}
    (hz : geomIntersectionShader h gt = .ok z) :
    stageIndexOrUnused h (if gt.kind = .USER then gt.is else none) = .ok z := by
  unfold geomIntersectionShader at hz
  split at hz
  · cases hz
  · rename_i q hkind his
    rw [if_pos hkind, his]
    exact hz
  · rename_i hnone hsome
    -- the first two branches have taken all user geometry
    have hkind : gt.kind ≠ .USER := by
      intro hkind
      cases his : gt.is with
      | none => exact hnone hkind his
      | some q => exact hsome q hkind his
    rw [if_neg hkind]
    exact hz

/-- **The group of a type stands for the programs it holds.** -/
theorem Invariant.groupOf (h : c.Invariant) {stages : List ShaderStageInfo}
    (hstages : ∀ q, c.HasStage q → ∃ i < stages.length, c.StageOf stages q i)
    {r : ObjectKind × Ptr} {g : ShaderGroupInfo} (hg : typeGroup c.heap r = .ok g) :
    c.GroupOf stages g r := by
  unfold typeGroup at hg
  split at hg
  · rename_i k t
    split at hg
    · cases hg
    rename_i o ho
    obtain ⟨x, hx, rfl⟩ := progTypeGroup_eq_ok hg
    exact ⟨o, ho, rfl, shaderIndexOf_some h hstages (h.progTypePrograms k t o ho) hx, rfl, rfl, rfl⟩
  · rename_i t
    split at hg
    · cases hg
    rename_i gt hgt
    obtain ⟨type, x, y, z, htype, hx, hy, hz, rfl⟩ := geomTypeGroup_eq_ok hg
    have hrole := fun role q => h.hitPrograms t gt role q hgt
    refine ⟨gt, hgt, htype, rfl, shaderIndexOf_stageIndexOrUnused h hstages (hrole .ch) hx,
      shaderIndexOf_stageIndexOrUnused h hstages (hrole .ah) hy, ?_⟩
    refine shaderIndexOf_stageIndexOrUnused h hstages (fun q hq => hrole .is q ?_)
      (stageIndexOrUnused_intersection hz)
    split_ifs at hq
    exact hq
  · cases hg

/-- Objects that hold their positions in a list are found by them. -/
theorem getElem?_of_index {α : Type} {xs : List α} {index : α → Option ℤ}
    (h : ∀ (i : ℕ) x, xs[i]? = some x → index x = some (i : ℤ)) {x : α} (hx : x ∈ xs) {i : ℕ}
    (hi : index x = some (i : ℤ)) : xs[i]? = some x := by
  obtain ⟨j, hj⟩ := List.mem_iff_getElem?.mp hx
  obtain rfl : j = i := by
    have hindex := Option.some.inj ((h j x hj).symm.trans hi)
    omega
  exact hj

/-- There is one object with each index. -/
theorem existsUnique_index {α : Type} {xs : List α} {index : α → Option ℤ}
    (h : ∀ (i : ℕ) x, xs[i]? = some x → index x = some (i : ℤ)) {i : ℕ} (hi : i < xs.length) :
    ∃! x, x ∈ xs ∧ index x = some (i : ℤ) := by
  have hget := List.getElem?_eq_getElem hi
  refine ⟨xs[i], ⟨List.getElem_mem hi, h i _ hget⟩, ?_⟩
  rintro x ⟨hx, hindex⟩
  exact Option.some.inj ((getElem?_of_index h hx hindex).symm.trans hget)

/-- The tables that a complete run leaves behind. -/
theorem Invariant.shaderTables (h : c.Invariant) {c' : Context} {stages : List ShaderStageInfo}
    {groups : List ShaderGroupInfo} (hrun : c.gatherPrograms = (.ok (stages, groups), c')) :
    c'.ShaderTables stages groups := by
  obtain ⟨h', hpipeline, rfl⟩ := gatherPrograms_eq_ok hrun
  have hg := gatherPrograms_spec hpipeline
  have hinv := h.sameButIndices hg.same
  have hmem : ∀ q, HasStage { c with heap := h' } q ↔
      q ∈ c.rtPipeline.programs.toList.filter fun q => !isCompute c.heap q := by
    intro q
    rw [List.mem_filter, HasStage, isCompute_congr hg.same, Bool.not_eq_true']
    rfl
  have hstage := hg.stage
  have hlength := hg.stages_length
  generalize c.rtPipeline.programs.toList.filter (fun q => !isCompute c.heap q) = qs
    at hmem hstage hlength
  have hstages : ∀ q, HasStage { c with heap := h' } q →
      ∃ i < stages.length, StageOf { c with heap := h' } stages q i := by
    intro q hq
    obtain ⟨i, hi, hq⟩ := List.mem_iff_getElem.mp ((hmem q).mp hq)
    exact ⟨i, hlength ▸ hi, hstage i q (List.getElem?_eq_some_iff.mpr ⟨hi, hq⟩)⟩
  have hstageIndex : ∀ q i, StageOf { c with heap := h' } stages q i →
      (h' .shaderProgram q).map (·.shaderStageIndex) = some (i : ℤ) := by
    rintro q i ⟨o, s, ho, hindex, -⟩
    rw [show h' .shaderProgram q = some o from ho, Option.map_some, hindex]
  have hlabel := hg.groups_labels.label
  have htypes := hg.groups_labels.length_eq
  have hindex : ∀ (i : ℕ) r, c.rtPipeline.types[i]? = some r → groupIndex h' r = some (i : ℤ) := by
    intro i r hr
    rw [(hlabel i r hr).1, Nat.zero_add]
  refine ⟨hstages, fun i hi => ?_, fun r hr => ?_, fun i hi => ?_, fun r hr i hi => ?_⟩
  · obtain ⟨q, ⟨hq, hqi⟩, hunique⟩ := existsUnique_index
      (fun i q hq => hstageIndex q i (hstage i q hq)) (show i < qs.length from hlength ▸ hi)
    have hget := getElem?_of_index (fun i q hq => hstageIndex q i (hstage i q hq)) hq hqi
    refine ⟨q, ⟨(hmem q).mpr hq, hstage i q hget⟩, ?_⟩
    rintro q' ⟨hq', hstageOf⟩
    exact hunique q' ⟨(hmem q').mp hq', hstageIndex q' i hstageOf⟩
  · obtain ⟨i, hi⟩ := List.mem_iff_getElem?.mp hr
    exact ⟨i, htypes ▸ (List.getElem?_eq_some_iff.mp hi).1, hindex i r hi⟩
  · exact existsUnique_index hindex (show i < c.rtPipeline.types.length from htypes ▸ hi)
  · obtain ⟨-, g, hget, hgroup⟩ := hlabel i r (getElem?_of_index hindex hr hi)
    exact ⟨g, hget, hinv.groupOf hstages hgroup⟩

/-- **In every reachable state `gatherPrograms` numbers stages and groups
consistently**, unless it throws. -/
theorem gatherPrograms_numbers (hc : c.Reachable) :
    (∃ what, c.gatherPrograms.1 = .error (.runtimeError what)) ∨
      ∃ stages groups c', c.gatherPrograms = (.ok (stages, groups), c') ∧
        c'.rtPipeline = c.rtPipeline ∧ c'.ShaderTables stages groups := by
  have h := hc.invariant
  obtain ⟨-, hne⟩ := h.gatherPrograms_sound c.heap (SameButIndices.refl c.heap)
  rcases hres : c.gatherPrograms with ⟨res, c'⟩
  cases res with
  | ok tables =>
    obtain ⟨stages, groups⟩ := tables
    obtain ⟨h', -, hc'⟩ := gatherPrograms_eq_ok hres
    exact Or.inr ⟨stages, groups, c', rfl, by rw [hc'], h.shaderTables hres⟩
  | error e =>
    cases e with
    | runtimeError what => exact Or.inl ⟨what, rfl⟩
    | dangling => exact absurd (congrArg Prod.fst hres) hne

/-- The sample scene has everything its groups need. -/
theorem gatherPrograms_numbers_sampleScene :
    ∃ stages groups c', sampleScene.gatherPrograms = (.ok (stages, groups), c') ∧
        c'.rtPipeline = sampleScene.rtPipeline ∧ c'.ShaderTables stages groups := by
  rcases gatherPrograms_numbers sampleScene_reachable with ⟨what, hthrow⟩ | htables
  · cases hthrow
  · exact htables

end Context

end Vulkanite
