/-
# `RTPipeline::gatherPrograms` and `RTPipeline::build`

`gatherPrograms` numbers the tracked programs and types: each program other than
a compute kernel gets the index of its stage, each type the index of its shader
group.  Its loops are `TypedHeap.numberAll`.  The function can throw halfway, so
it is a state transformer that keeps the indices already stored
(`gatherPrograms_frame`); what a complete run leaves behind is
`gatherPrograms_spec`.

`build` hands the stages and groups to Vulkan, whose answer (the handle of each
group) is an argument, and copies the handles to `shaderHandleStorage`.
-/
import Vulkanite.Context

namespace Vulkanite

open TypedHeap

/-- Why `gatherPrograms` stops: it throws, or it follows a pointer that leads
nowhere. -/
inductive GatherError where
  | runtimeError (what : String)
  | dangling
  deriving DecidableEq, Repr

/-- Computations that change objects and may throw. -/
abbrev Gather (β : Type) := ExceptT GatherError (StateM Heap) β

/-- What a sequence of two computations does. -/
theorem Gather.bind_run {α β : Type} (x : Gather α) (f : α → Gather β) (h : Heap) :
    (x >>= f) h = match (x h).1 with
      | .ok a => f a (x h).2
      | .error e => (.error e, (x h).2) := by
  rcases hx : x h with ⟨r, h₁⟩
  cases r with
  | ok a => simp [bind, ExceptT.bind, ExceptT.mk, ExceptT.bindCont, StateT.bind, hx]
  | error e =>
    simp only [bind, ExceptT.bind, ExceptT.mk, ExceptT.bindCont, StateT.bind, hx]
    rfl

/-- A sequence that completes is two parts that complete. -/
theorem Gather.bind_eq_ok {α β : Type} {x : Gather α} {f : α → Gather β} {h h₂ : Heap} {b : β}
    (hrun : (x >>= f) h = (.ok b, h₂)) :
    ∃ a h₁, x h = (.ok a, h₁) ∧ f a h₁ = (.ok b, h₂) := by
  rw [Gather.bind_run] at hrun
  rcases hx : x h with ⟨r, h₁⟩
  rw [hx] at hrun
  cases r with
  | ok a => exact ⟨a, h₁, rfl, hrun⟩
  | error e => cases (congrArg Prod.fst hrun)

/-- A property of the heaps before and after holds of a sequence if it holds of
its parts. -/
theorem Gather.bind_frame {α β : Type} {R : Heap → Heap → Prop}
    (htrans : ∀ h₁ h₂ h₃, R h₁ h₂ → R h₂ h₃ → R h₁ h₃) {x : Gather α} {f : α → Gather β}
    (hx : ∀ h, R h (x h).2) (hf : ∀ a h, R h (f a h).2) (h : Heap) : R h ((x >>= f) h).2 := by
  rw [Gather.bind_run]
  cases (x h).1 with
  | ok a => exact htrans _ _ _ (hx h) (hf a _)
  | error e => exact hx h

/-! ## Stages and groups -/

/-- `ShaderProgram::getShaderStage`. -/
def getShaderStage (h : Heap) (p : ShaderProgram) : Except GatherError ShaderStageInfo :=
  match h .shaderModule p.shaderModule with
  | none => .error .dangling
  | some m => .ok { stage := p.stage, module := m.handle, pName := p.entryPoint }

/-- The stage index stored in the program at `q`. -/
def stageIndex (h : Heap) (q : Ptr) : Except GatherError ℤ :=
  match h .shaderProgram q with
  | none => .error .dangling
  | some p => .ok p.shaderStageIndex

/-- The stage index stored in a program, if there is one. -/
def stageIndexOrUnused (h : Heap) : Option Ptr → Except GatherError ℤ
  | none => .ok VK_SHADER_UNUSED
  | some q => stageIndex h q

/-- `emptySG` of `gatherPrograms`. -/
def emptySG : ShaderGroupInfo where
  type := .GENERAL
  generalShader := VK_SHADER_UNUSED
  closestHitShader := VK_SHADER_UNUSED
  anyHitShader := VK_SHADER_UNUSED
  intersectionShader := VK_SHADER_UNUSED

/-- The group of a `RayGenType` or a `MissProgType`. -/
def progTypeGroup (h : Heap) (t : ProgType) : Except GatherError ShaderGroupInfo := do
  let generalShader ← stageIndex h t.program
  return { emptySG with type := .GENERAL, generalShader }

/-- The type of the group of a `GeomType`. -/
def geomGroupType : GeomKind → Except GatherError ShaderGroupType
  | .TRIANGLES => .ok .TRIANGLES_HIT_GROUP
  | .USER => .ok .PROCEDURAL_HIT_GROUP
  | .other => .error (.runtimeError "not implemented")

/-- The intersection shader of the group of a `GeomType`. -/
def geomIntersectionShader (h : Heap) (gt : GeomType) : Except GatherError ℤ :=
  match gt.kind, gt.is with
  | .USER, none => .error (.runtimeError
      "trying to create user geometry type without an intersection shader...")
  | .USER, some q => stageIndex h q
  | _, _ => .ok VK_SHADER_UNUSED

/-- The group of a `GeomType`. -/
def geomTypeGroup (h : Heap) (gt : GeomType) : Except GatherError ShaderGroupInfo := do
  let type ← geomGroupType gt.kind
  let closestHitShader ← stageIndexOrUnused h gt.ch
  let anyHitShader ← stageIndexOrUnused h gt.ah
  let intersectionShader ← geomIntersectionShader h gt
  return { emptySG with type, closestHitShader, anyHitShader, intersectionShader }

/-- The group of a type of programs, read back. -/
theorem progTypeGroup_eq_ok {h : Heap} {t : ProgType} {g : ShaderGroupInfo}
    (hg : progTypeGroup h t = .ok g) :
    ∃ x, stageIndex h t.program = .ok x ∧ g = { emptySG with generalShader := x } := by
  unfold progTypeGroup at hg
  cases hx : stageIndex h t.program with
  | error e => rw [hx] at hg; cases hg
  | ok x =>
    rw [hx] at hg
    exact ⟨x, rfl, (Except.ok.inj hg).symm⟩

/-- The group of a geometry type, read back. -/
theorem geomTypeGroup_eq_ok {h : Heap} {gt : GeomType} {g : ShaderGroupInfo}
    (hg : geomTypeGroup h gt = .ok g) :
    ∃ type x y z, geomGroupType gt.kind = .ok type ∧ stageIndexOrUnused h gt.ch = .ok x ∧
      stageIndexOrUnused h gt.ah = .ok y ∧ geomIntersectionShader h gt = .ok z ∧
      g = ⟨type, VK_SHADER_UNUSED, x, y, z⟩ := by
  unfold geomTypeGroup at hg
  cases hkind : geomGroupType gt.kind with
  | error e => rw [hkind] at hg; cases hg
  | ok type =>
  cases hx : stageIndexOrUnused h gt.ch with
  | error e => rw [hkind, hx] at hg; cases hg
  | ok x =>
  cases hy : stageIndexOrUnused h gt.ah with
  | error e => rw [hkind, hx, hy] at hg; cases hg
  | ok y =>
  cases hz : geomIntersectionShader h gt with
  | error e => rw [hkind, hx, hy, hz] at hg; cases hg
  | ok z =>
  rw [hkind, hx, hy, hz] at hg
  exact ⟨type, x, y, z, rfl, rfl, rfl, rfl, (Except.ok.inj hg).symm⟩

/-! ## The loops -/

/-- The program at `p` is a compute kernel. -/
def isCompute (h : Heap) (p : Ptr) : Bool :=
  match h .shaderProgram p with
  | some o => o.stage == .COMPUTE
  | none => false

/-- The loop over `programs`, which skips compute kernels. -/
def gatherStages (programs : List Ptr) : Gather (List ShaderStageInfo) := fun h =>
  numberAll (k := .shaderProgram) ShaderProgram.setStageIndex getShaderStage .dangling
    (programs.filter fun p => !isCompute h p) 0 h

/-- The loops over `missProgTypes` and `rayGenTypes`, with `n` groups made before. -/
def gatherProgTypes (k : ProgKind) (types : List Ptr) (n : ℕ) : Gather (List ShaderGroupInfo) :=
  fun h => numberAll (k := .progType k) ProgType.setGroupIndex progTypeGroup .dangling types n h

/-- The loop over `geomTypes`, with `n` groups made before. -/
def gatherGeomTypes (types : List Ptr) (n : ℕ) : Gather (List ShaderGroupInfo) := fun h =>
  numberAll (k := .geomType) GeomType.setGroupIndex geomTypeGroup .dangling types n h

/-- `RTPipeline::gatherPrograms`. -/
def RTPipeline.gatherPrograms (p : RTPipeline) :
    Gather (List ShaderStageInfo × List ShaderGroupInfo) := do
  let shaderStages ← gatherStages p.programs.toList
  let missGroups ← gatherProgTypes .missProg (p.progTypes .missProg).toList 0
  let rayGenGroups ←
    gatherProgTypes .rayGen (p.progTypes .rayGen).toList missGroups.length
  let geomGroups ←
    gatherGeomTypes p.geomTypes.toList (missGroups.length + rayGenGroups.length)
  return (shaderStages, missGroups ++ rayGenGroups ++ geomGroups)

/-- `gatherPrograms` on a context. -/
def Context.gatherPrograms (c : Context) :
    Except GatherError (List ShaderStageInfo × List ShaderGroupInfo) × Context :=
  let r := c.rtPipeline.gatherPrograms c.heap
  (r.1, { c with heap := r.2 })

/-- The handles Vulkan gives to a pipeline: one for each group, of the handle size. -/
structure IsGroupHandles (properties : PipelineProperties) (groups : List ShaderGroupInfo)
    (handles : List (List UInt8)) : Prop where
  length_eq : handles.length = groups.length
  size_eq : ∀ h ∈ handles, h.length = properties.shaderGroupHandleSize.toNat

/-- `RTPipeline::build` destroys the pipeline before it makes another. -/
def Context.destroyPipeline (c : Context) : Context :=
  { c with rtPipeline := { c.rtPipeline with pipeline := none } }

/-- `RTPipeline::build`, once `gatherPrograms` returned `stages` and `groups` and
left the context `c`. -/
def Context.finishBuild (c : Context) (stages : List ShaderStageInfo)
    (groups : List ShaderGroupInfo) (handles : List (List UInt8)) : Context :=
  { c with rtPipeline := { c.rtPipeline with
      pipeline := some { stages, groups, handles }
      shaderHandleStorage := handles.flatten } }

/-! ## `gatherPrograms` changes indices only -/

/-- The object without the index that `gatherPrograms` stores in it. -/
def eraseIndex : (k : ObjectKind) → Obj k → Obj k
  | .shaderModule, m => m
  | .shaderProgram, p => { p with shaderStageIndex := 0 }
  | .progType _, t => { t with shaderGroupIndex := 0 }
  | .prog _, p => p
  | .geomType, gt => { gt with shaderGroupIndex := 0 }
  | .geom, g => g
  | .geomAccel, a => a
  | .instanceAccel, a => a

/-- Programs with the same members but for the index. -/
theorem eraseIndex_shaderProgram {o o' : ShaderProgram}
    (h : eraseIndex .shaderProgram o = eraseIndex .shaderProgram o') :
    o.entryPoint = o'.entryPoint ∧ o.shaderModule = o'.shaderModule ∧ o.stage = o'.stage := by
  simpa [eraseIndex] using h

/-- Types of programs with the same members but for the index. -/
theorem eraseIndex_progType {k : ProgKind} {o o' : ProgType}
    (h : eraseIndex (.progType k) o = eraseIndex (.progType k) o') :
    o.dataSize = o'.dataSize ∧ o.program = o'.program := by
  simpa [eraseIndex] using h

/-- Geometry types with the same members but for the index. -/
theorem eraseIndex_geomType {o o' : GeomType}
    (h : eraseIndex .geomType o = eraseIndex .geomType o') :
    o.dataSize = o'.dataSize ∧ (∀ role, o.prog role = o'.prog role) ∧
      o.boundsKernel = o'.boundsKernel := by
  simp only [eraseIndex, GeomType.mk.injEq] at h
  obtain ⟨-, hsize, -, hch, hah, his, hbounds⟩ := h
  refine ⟨hsize, fun role => ?_, hbounds⟩
  cases role
  · exact hch
  · exact hah
  · exact his

/-- From `h` to `h'` only indices have changed. -/
def SameButIndices (h h' : Heap) : Prop :=
  ∀ k p, (h' k p).map (eraseIndex k) = (h k p).map (eraseIndex k)

namespace SameButIndices

variable {h h' h'' : Heap}

theorem refl (h : Heap) : SameButIndices h h := fun _ _ => rfl

theorem symm (hs : SameButIndices h h') : SameButIndices h' h := fun k p => (hs k p).symm

theorem trans (hs : SameButIndices h h') (hs' : SameButIndices h' h'') : SameButIndices h h'' :=
  fun k p => (hs' k p).trans (hs k p)

/-- The same objects are live. -/
theorem isSome_iff (hs : SameButIndices h h') (k : ObjectKind) (p : Ptr) :
    (h' k p).isSome ↔ (h k p).isSome := by
  rw [← Option.isSome_map (f := eraseIndex k), hs k p, Option.isSome_map]

/-- An object after corresponds to one before. -/
theorem get (hs : SameButIndices h h') {k : ObjectKind} {p : Ptr} {o' : Obj k}
    (ho' : h' k p = some o') : ∃ o, h k p = some o ∧ eraseIndex k o = eraseIndex k o' := by
  have hmap := hs k p
  rw [ho', Option.map_some] at hmap
  exact Option.map_eq_some_iff.mp hmap.symm

/-- Objects of a class without an index are the same. -/
theorem eq_of_erase_id (hs : SameButIndices h h') (k : ObjectKind)
    (hid : ∀ o, eraseIndex k o = o) : h' k = h k := by
  funext p
  have hmap := hs k p
  rwa [show eraseIndex k = id from funext hid, Option.map_id, id, id] at hmap

end SameButIndices

/-- The loop that numbers objects of one kind changes indices only. -/
theorem sameButIndices_of_sameButIndex {k : ObjectKind} {setIndex : ℕ → Obj k → Obj k}
    {h h' : Heap} (hset : ∀ i o, eraseIndex k (setIndex i o) = eraseIndex k o)
    (hs : SameButIndex setIndex h h') : SameButIndices h h' := by
  intro k' p
  by_cases hk : k' = k
  · subst hk
    rcases hs.objects p with heq | ⟨i, o, ho, ho'⟩
    · rw [heq]
    · rw [ho, ho', Option.map_some, Option.map_some, hset]
  · rw [hs.kinds k' hk]

/-- **`gatherPrograms` changes indices only**, whether it throws or not. -/
theorem gatherPrograms_frame (p : RTPipeline) (h : Heap) :
    SameButIndices h (p.gatherPrograms h).2 := by
  have hstages : ∀ ps h, SameButIndices h (gatherStages ps h).2 := by
    intro ps h
    have hframe : SameButIndex (k := .shaderProgram) ShaderProgram.setStageIndex h
        (gatherStages ps h).2 :=
      numberAll_frame (by intro i j o; rfl) _ _ _
    exact sameButIndices_of_sameButIndex (by intro i o; rfl) hframe
  have hprogTypes : ∀ k ts n h, SameButIndices h (gatherProgTypes k ts n h).2 := by
    intro k ts n h
    have hframe : SameButIndex (k := .progType k) ProgType.setGroupIndex h
        (gatherProgTypes k ts n h).2 := numberAll_frame (by intro i j o; rfl) _ _ _
    exact sameButIndices_of_sameButIndex (by intro i o; rfl) hframe
  have hgeomTypes : ∀ ts n h, SameButIndices h (gatherGeomTypes ts n h).2 := by
    intro ts n h
    have hframe : SameButIndex (k := .geomType) GeomType.setGroupIndex h
        (gatherGeomTypes ts n h).2 := numberAll_frame (by intro i j o; rfl) _ _ _
    exact sameButIndices_of_sameButIndex (by intro i o; rfl) hframe
  have htrans : ∀ h₁ h₂ h₃, SameButIndices h₁ h₂ → SameButIndices h₂ h₃ →
      SameButIndices h₁ h₃ := fun _ _ _ => SameButIndices.trans
  refine Gather.bind_frame htrans (hstages _) (fun stages => ?_) h
  refine Gather.bind_frame htrans (hprogTypes _ _ _) fun missGroups => ?_
  refine Gather.bind_frame htrans (hprogTypes _ _ _) fun rayGenGroups => ?_
  exact Gather.bind_frame htrans (hgeomTypes _ _) fun _ => SameButIndices.refl

/-! ## A complete run -/

/-- The tracked types, in the order in which they get their groups. -/
def RTPipeline.types (p : RTPipeline) : List (ObjectKind × Ptr) :=
  (p.progTypes .missProg).toList.map (.progType .missProg, ·) ++
    (p.progTypes .rayGen).toList.map (.progType .rayGen, ·) ++
    p.geomTypes.toList.map (.geomType, ·)

/-- The group index stored in a type. -/
def groupIndex (h : Heap) : ObjectKind × Ptr → Option ℤ
  | (.progType k, t) => (h (.progType k) t).map (·.shaderGroupIndex)
  | (.geomType, t) => (h .geomType t).map (·.shaderGroupIndex)
  | _ => none

/-- The group made from a type. -/
def typeGroup (h : Heap) : ObjectKind × Ptr → Except GatherError ShaderGroupInfo
  | (.progType k, t) => match h (.progType k) t with
    | none => .error .dangling
    | some o => progTypeGroup h o
  | (.geomType, t) => match h .geomType t with
    | none => .error .dangling
    | some o => geomTypeGroup h o
  | _ => .error .dangling

/-- In the heap `h` the types of a list have the group indices from `n` on, and
`groups` are their groups. -/
structure Labels (h : Heap) (types : List (ObjectKind × Ptr)) (n : ℕ)
    (groups : List ShaderGroupInfo) : Prop where
  length_eq : groups.length = types.length
  label : ∀ i r, types[i]? = some r → groupIndex h r = some ((n + i : ℕ) : ℤ) ∧
    ∃ g, groups[i]? = some g ∧ typeGroup h r = .ok g

theorem Labels.append {h : Heap} {ts ts' : List (ObjectKind × Ptr)} {n : ℕ}
    {gs gs' : List ShaderGroupInfo} (hl : Labels h ts n gs)
    (hl' : Labels h ts' (n + gs.length) gs') : Labels h (ts ++ ts') n (gs ++ gs') := by
  refine ⟨by simp [hl.length_eq, hl'.length_eq], fun i r hr => ?_⟩
  have hlen := hl.length_eq
  by_cases hi : i < ts.length
  · rw [List.getElem?_append_left hi] at hr
    rw [List.getElem?_append_left (by omega)]
    exact hl.label i r hr
  · rw [List.getElem?_append_right (by omega)] at hr
    rw [List.getElem?_append_right (by omega)]
    obtain ⟨hidx, g, hg, hgroup⟩ := hl'.label _ r hr
    refine ⟨?_, g, by rw [hlen]; exact hg, hgroup⟩
    rw [hidx, show n + gs.length + (i - ts.length) = n + i by omega]

/-- What a complete run of `gatherPrograms` leaves behind: the stages are those of
the tracked programs other than compute kernels, each stored at the index its
program holds, and the groups those of the tracked types. -/
structure Gathered (p : RTPipeline) (h h' : Heap) (stages : List ShaderStageInfo)
    (groups : List ShaderGroupInfo) : Prop where
  same : SameButIndices h h'
  stages_length : stages.length = (p.programs.toList.filter fun q => !isCompute h q).length
  stage : ∀ (i : ℕ) q, (p.programs.toList.filter fun q => !isCompute h q)[i]? = some q →
    ∃ o s, h' .shaderProgram q = some o ∧ o.shaderStageIndex = (i : ℤ) ∧
      stages[i]? = some s ∧ getShaderStage h' o = .ok s
  groups_labels : Labels h' p.types 0 groups

/-- The group of a type depends on the programs only. -/
theorem progTypeGroup_congr {h h' : Heap} (hp : h' .shaderProgram = h .shaderProgram)
    (t : ProgType) : progTypeGroup h' t = progTypeGroup h t := by
  simp only [progTypeGroup, stageIndex, hp]

theorem geomTypeGroup_congr {h h' : Heap} (hp : h' .shaderProgram = h .shaderProgram)
    (gt : GeomType) : geomTypeGroup h' gt = geomTypeGroup h gt := by
  have hidx : stageIndex h' = stageIndex h := by
    funext q
    simp only [stageIndex, hp]
  have hopt : stageIndexOrUnused h' = stageIndexOrUnused h := by
    funext q
    cases q
    · rfl
    · simp only [stageIndexOrUnused, hidx]
  simp only [geomTypeGroup, geomIntersectionShader, hidx, hopt]

/-- Objects that a loop has numbered are labelled, if their index and their group are
what the loop stored and collected. -/
theorem labels_of_numbered {k : ObjectKind} {setIndex : ℕ → Obj k → Obj k}
    {emit : Heap → Obj k → Except GatherError ShaderGroupInfo} {ts : List Ptr} {n : ℕ}
    {h₁ h₂ h : Heap} {gs : List ShaderGroupInfo} (hn : Numbered setIndex emit ts n h₁ h₂ gs)
    (hlabel : ∀ i t o g, h₂ k t = some (setIndex i o) → emit h₁ o = .ok g →
      groupIndex h (k, t) = some (i : ℤ) ∧ typeGroup h (k, t) = .ok g) :
    Labels h (ts.map (k, ·)) n gs := by
  refine ⟨by rw [hn.length_eq, List.length_map], fun i r hr => ?_⟩
  rw [List.getElem?_map, Option.map_eq_some_iff] at hr
  obtain ⟨t, ht, rfl⟩ := hr
  obtain ⟨hi, rfl⟩ := List.getElem?_eq_some_iff.mp ht
  obtain ⟨o, g, -, hg, hemit, hnew⟩ := hn.numbered i hi
  obtain ⟨hindex, hgroup⟩ := hlabel _ _ o g hnew hemit
  exact ⟨hindex, g, hg, hgroup⟩

/-- The loop over one kind of types of programs labels them. -/
theorem labels_progTypes {k : ProgKind} {ts : List Ptr} {n : ℕ} {h₁ h₂ h : Heap}
    {gs : List ShaderGroupInfo} (hts : ts.Nodup)
    (hrun : gatherProgTypes k ts n h₁ = (.ok gs, h₂))
    (htypes : h (.progType k) = h₂ (.progType k))
    (hprograms : h .shaderProgram = h₁ .shaderProgram) :
    Labels h (ts.map (.progType k, ·)) n gs := by
  have hn : Numbered (k := .progType k) ProgType.setGroupIndex progTypeGroup ts n h₁ h₂ gs :=
    numberAll_ok (fun h h' o hk => progTypeGroup_congr (hk .shaderProgram (by simp)) o) hts hrun
  refine labels_of_numbered hn fun i t o g hnew hemit => ⟨?_, ?_⟩
  · simp only [groupIndex, htypes, hnew]
    rfl
  · simp only [typeGroup, htypes, hnew]
    rw [progTypeGroup_congr hprograms]
    exact hemit

/-- The loop over the geometry types labels them. -/
theorem labels_geomTypes {ts : List Ptr} {n : ℕ} {h₁ h₂ : Heap} {gs : List ShaderGroupInfo}
    (hts : ts.Nodup) (hrun : gatherGeomTypes ts n h₁ = (.ok gs, h₂)) :
    Labels h₂ (ts.map (.geomType, ·)) n gs := by
  have hn : Numbered (k := .geomType) GeomType.setGroupIndex geomTypeGroup ts n h₁ h₂ gs :=
    numberAll_ok (fun h h' o hk => geomTypeGroup_congr (hk .shaderProgram (by simp)) o) hts hrun
  refine labels_of_numbered hn fun i t o g hnew hemit => ⟨?_, ?_⟩
  · simp only [groupIndex, hnew]
    rfl
  · simp only [typeGroup, hnew]
    rw [geomTypeGroup_congr (hn.kinds .shaderProgram (by simp))]
    exact hemit

/-- A loop over one kind of objects leaves the other kinds alone. -/
theorem gatherProgTypes_kinds {k : ProgKind} {ts : List Ptr} {n : ℕ} {h₁ h₂ : Heap}
    {gs : List ShaderGroupInfo} (hrun : gatherProgTypes k ts n h₁ = (.ok gs, h₂))
    {k' : ObjectKind} (hk : k' ≠ .progType k) : h₂ k' = h₁ k' := by
  have hframe : SameButIndex (k := .progType k) ProgType.setGroupIndex h₁
      (gatherProgTypes k ts n h₁).2 := numberAll_frame (by intro i j o; rfl) _ _ _
  rw [hrun] at hframe
  exact hframe.kinds k' hk

theorem gatherGeomTypes_kinds {ts : List Ptr} {n : ℕ} {h₁ h₂ : Heap}
    {gs : List ShaderGroupInfo} (hrun : gatherGeomTypes ts n h₁ = (.ok gs, h₂))
    {k' : ObjectKind} (hk : k' ≠ .geomType) : h₂ k' = h₁ k' := by
  have hframe : SameButIndex (k := .geomType) GeomType.setGroupIndex h₁
      (gatherGeomTypes ts n h₁).2 := numberAll_frame (by intro i j o; rfl) _ _ _
  rw [hrun] at hframe
  exact hframe.kinds k' hk

/-- **What a complete run of `gatherPrograms` leaves behind.** -/
theorem gatherPrograms_spec {p : RTPipeline} {h h' : Heap} {stages : List ShaderStageInfo}
    {groups : List ShaderGroupInfo} (hrun : p.gatherPrograms h = (.ok (stages, groups), h')) :
    Gathered p h h' stages groups := by
  have hsame := gatherPrograms_frame p h
  rw [hrun] at hsame
  obtain ⟨st, h₁, hst, hrun⟩ := Gather.bind_eq_ok hrun
  obtain ⟨mg, h₂, hmg, hrun⟩ := Gather.bind_eq_ok hrun
  obtain ⟨rg, h₃, hrg, hrun⟩ := Gather.bind_eq_ok hrun
  obtain ⟨gg, h₄, hgg, hrun⟩ := Gather.bind_eq_ok hrun
  obtain ⟨hout, hheap⟩ := Prod.mk.inj hrun
  obtain ⟨rfl, rfl⟩ := Prod.mk.inj (Except.ok.inj hout)
  obtain rfl : h₄ = h' := hheap
  -- the four loops run one after the other; each changes one kind of objects
  have h₂k : ∀ k, k ≠ .progType .missProg → h₂ k = h₁ k := fun _ => gatherProgTypes_kinds hmg
  have h₃k : ∀ k, k ≠ .progType .rayGen → h₃ k = h₂ k := fun _ => gatherProgTypes_kinds hrg
  have h₄k : ∀ k, k ≠ .geomType → h₄ k = h₃ k := fun _ => gatherGeomTypes_kinds hgg
  have hprograms : h₄ .shaderProgram = h₁ .shaderProgram := by
    rw [h₄k .shaderProgram (by decide), h₃k .shaderProgram (by decide),
      h₂k .shaderProgram (by decide)]
  have hn : Numbered (k := .shaderProgram) ShaderProgram.setStageIndex getShaderStage
      (p.programs.toList.filter fun q => !isCompute h q) 0 h h₁ st :=
    numberAll_ok (fun h h' o hk => by simp only [getShaderStage, hk .shaderModule (by simp)])
      (p.programs.nodup.filter _) hst
  have hmodules : h₄ .shaderModule = h .shaderModule := by
    rw [h₄k .shaderModule (by decide), h₃k .shaderModule (by decide),
      h₂k .shaderModule (by decide), hn.kinds .shaderModule (by decide)]
  refine ⟨hsame, hn.length_eq, fun i q hq => ?_, ?_⟩
  · obtain ⟨hi, rfl⟩ := List.getElem?_eq_some_iff.mp hq
    obtain ⟨o, s, -, hs, hemit, hnew⟩ := hn.numbered i hi
    refine ⟨_, s, by rw [hprograms]; exact hnew, ?_, hs, ?_⟩
    · simp [ShaderProgram.setStageIndex]
    · simpa only [getShaderStage, ShaderProgram.setStageIndex, hmodules] using hemit
  · have hmiss := labels_progTypes (h := h₄) (p.progTypes .missProg).nodup hmg
      (by rw [h₄k (.progType .missProg) (by decide), h₃k (.progType .missProg) (by decide)])
      hprograms
    have hrayGen := labels_progTypes (h := h₄) (p.progTypes .rayGen).nodup hrg
      (h₄k (.progType .rayGen) (by decide)) (by rw [hprograms, h₂k .shaderProgram (by decide)])
    have hgeom := labels_geomTypes p.geomTypes.nodup hgg
    rw [← Nat.zero_add mg.length] at hrayGen
    rw [← List.length_append, ← Nat.zero_add (mg ++ rg).length] at hgeom
    exact (hmiss.append hrayGen).append hgeom

end Vulkanite
