/-
# Several contexts in one process

Each context has textures and descriptor sets of its own, but the flag `created` of
`Context::rebuildDescriptors` is a static variable: one for the process.  The first
launch of the process makes the set for the uniform buffer of its context and sets the
flag, and no other context gets such a set.  So a launch binds three sets made for its
context exactly if the first launch of the process was one of the same context
(`descriptorSets_own_iff`).
-/
import Vulkanite.TextureRuns

namespace Vulkanite

/-- The state of a process: the static variable, and the contexts that are alive, by
the number of contexts made before them. -/
structure Process where
  created : Bool := false
  contexts : ℕ → Option Textures := fun _ => none
  made : ℕ := 0

/-- `Context::launch` and `Compute::launch`. -/
inductive LaunchKind where
  | context
  | compute
  deriving DecidableEq, Repr

/-- Either launch, up to the binding of the descriptor sets. -/
def LaunchKind.launch : LaunchKind → Bool → Textures → Bool × Textures
  | .context => Textures.launch
  | .compute => Textures.computeLaunch

/-- A call of the application, with the number of its context. -/
inductive Call where
  | createContext (id : ℕ)
  | terminate (id : ℕ)
  | texture (id : ℕ) (op : TextureOp)
  | launch (id : ℕ) (kind : LaunchKind)
  deriving DecidableEq, Repr

namespace Process

/-- The process with another state, or none, for one context. -/
def setContext (p : Process) (id : ℕ) (s : Option Textures) : Process :=
  { p with contexts := Function.update p.contexts id s }

/-- `vknContextCreate`. -/
def createContext (p : Process) (device : ℕ) (defaultImage defaultSampler : Ptr) : Process :=
  { p.setContext p.made (some (.create p.made device defaultImage defaultSampler)) with
    made := p.made + 1 }

/-- A launch on the context `id`, whose state is `s`. -/
def launch (p : Process) (kind : LaunchKind) (id : ℕ) (s : Textures) : Process :=
  { p.setContext id (some (kind.launch p.created s).2) with
    created := (kind.launch p.created s).1 }

/-- One call. -/
inductive Step : Call → Process → Process → Prop
  | createContext (p : Process) (device : ℕ) (defaultImage defaultSampler : Ptr) :
      Step (.createContext p.made) p (p.createContext device defaultImage defaultSampler)
  | terminate (p : Process) (id : ℕ) (hs : (p.contexts id).isSome) :
      Step (.terminate id) p (p.setContext id none)
  | texture (p : Process) (id : ℕ) (op : TextureOp) (s s' : Textures)
      (hs : p.contexts id = some s) (hop : op ∉ [TextureOp.launch, .computeLaunch])
      (hstep : TextureStep op s s') : Step (.texture id op) p (p.setContext id (some s'))
  | launch (p : Process) (id : ℕ) (kind : LaunchKind) (s : Textures)
      (hs : p.contexts id = some s) : Step (.launch id kind) p (p.launch kind id s)

end Process

/-! ## The first launch -/

/-- The context that a call launches on. -/
def Call.launches : Call → Option ℕ
  | .launch id _ => some id
  | _ => none

/-- The context of the first launch. -/
def firstLaunch (calls : List Call) : Option ℕ := (calls.filterMap Call.launches).head?

theorem firstLaunch_snoc (calls : List Call) (call : Call) :
    firstLaunch (calls ++ [call]) = (firstLaunch calls).or call.launches := by
  rw [firstLaunch, List.filterMap_append, List.head?_append]
  cases h : call.launches <;> simp [firstLaunch, h]

/-! ## Descriptor sets and their contexts -/

/-- The descriptor set was made for the context, on its device. -/
def DescriptorSet.MadeFor (ds : DescriptorSet) (s : Textures) : Prop :=
  ds.context = s.context ∧ ds.device = s.device

/-- All sets that are bound are there and were made for the context. -/
def BindDescriptorSets.Own (call : BindDescriptorSets) (s : Textures) : Prop :=
  ∀ x ∈ call.descriptorSets, ∃ ds : DescriptorSet, x = some ds ∧ ds.MadeFor s

/-- What holds of a live context: which of its sets there are, and whose they are.
`first` is the context of the first launch, and `built` says whether there was a build. -/
structure OwnSets (id : ℕ) (s : Textures) (first : Option ℕ) (built : Prop) : Prop where
  invariant : s.Invariant
  context : s.context = id
  helper : ∀ k ds, (s.helpers k).descriptorSet = some ds → ds.MadeFor s
  uniform : ∀ ds, s.uniformBuffersDS = some ds → ds.MadeFor s
  first : s.uniformBuffersDS.isSome ↔ first = some id
  built : built → ∀ k, (s.helpers k).descriptorSet.isSome

namespace OwnSets

variable {id : ℕ} {s s' : Textures} {first : Option ℕ} {built : Prop}

/-- A new context. -/
theorem create (id device : ℕ) (defaultImage defaultSampler : Ptr) (hfirst : first ≠ some id)
    (hbuilt : ¬ built) :
    OwnSets id (.create id device defaultImage defaultSampler) first built where
  invariant := Textures.invariant_create id device defaultImage defaultSampler
  context := rfl
  helper := by
    intro k ds hds
    cases k <;> cases hds
  uniform := fun ds hds => by cases hds
  first := ⟨by rintro ⟨⟩, fun h => absurd h hfirst⟩
  built := fun h => absurd h hbuilt

/-- An operation on the textures of the context. -/
theorem texture (h : OwnSets id s first built) {op : TextureOp}
    (hop : op ∉ [TextureOp.launch, .computeLaunch]) (hstep : TextureStep op s s') :
    OwnSets id s' first (built ∨ op = .build) := by
  obtain ⟨hcontext, hdevice, huniform⟩ := hstep.frame h.invariant hop
  have hmade : ∀ ds : DescriptorSet, ds.MadeFor s → ds.MadeFor s' := fun ds hds =>
    ⟨hds.1.trans hcontext.symm, hds.2.trans hdevice.symm⟩
  have hsets : (∀ k ds, (s'.helpers k).descriptorSet = some ds → ds.MadeFor s') ∧
      (built ∨ op = .build → ∀ k, (s'.helpers k).descriptorSet.isSome) := by
    by_cases hb : op = .build
    · subst hb
      cases hstep with
      | build _ _ hbuild =>
        obtain ⟨infos, -, rfl⟩ := Textures.build_eq_some h.invariant hbuild
        refine ⟨fun k ds hds => ?_, fun _ k => rfl⟩
        rw [← Option.some.inj hds]
        exact ⟨rfl, rfl⟩
    -- only `build` makes sets
    · have hsame := ((Textures.SinceBuild.refl s).step hb hstep).descriptorSet
      refine ⟨fun k ds hds => hmade ds (h.helper k ds ((hsame k).symm.trans hds)), fun hor k => ?_⟩
      rw [hsame k]
      exact h.built (hor.resolve_right hb) k
  exact
    { invariant := hstep.invariant h.invariant
      context := hcontext.trans h.context
      helper := hsets.1
      uniform := fun ds hds => hmade ds (h.uniform ds (huniform.symm.trans hds))
      first := by rw [huniform, h.first]
      built := hsets.2 }

/-- A launch on another context. -/
theorem other (h : OwnSets id s first built) {id' : ℕ} (hne : id' ≠ id) :
    OwnSets id s (first.or (some id')) built :=
  { h with
    first := by
      rw [h.first]
      cases first with
      | none => simpa using hne
      | some x => rfl }

/-- Either launch, with the static variable as the launches before have left it. -/
theorem launch_eq (kind : LaunchKind) (created : Bool) (s : Textures) :
    kind.launch created s = s.requireUniformBuffers created := by
  cases kind with
  | context => exact Textures.launch_eq created s
  | compute => exact Textures.computeLaunch_eq created s

/-- A launch on the context. -/
theorem launch (h : OwnSets id s first built) (kind : LaunchKind) :
    OwnSets id (kind.launch first.isSome s).2 (first.or (some id)) built ∧
      (kind.launch first.isSome s).1 = true := by
  rw [launch_eq, Textures.requireUniformBuffers_eq]
  cases first with
  | none =>
    have hnone : s.uniformBuffersDS = none := by
      rw [← Option.not_isSome_iff_eq_none, h.first]
      rintro ⟨⟩
    rw [if_pos ⟨hnone, rfl⟩]
    refine ⟨{ h with invariant := ?_, uniform := ?_, first := ?_ }, rfl⟩
    · exact ⟨h.invariant.numbered, h.invariant.nonempty⟩
    · rintro ds ⟨⟩
      exact ⟨rfl, rfl⟩
    · simp
  | some x =>
    rw [if_neg (by simp)]
    exact ⟨h, rfl⟩

/-- What the launches find bound: all sets, or all but the one for the uniform buffer. -/
theorem bind_own_iff (h : OwnSets id s first built) (hbuilt : built) :
    s.bind.Own s ↔ s.uniformBuffersDS.isSome := by
  constructor
  · intro hown
    obtain ⟨ds, hds, -⟩ := hown s.uniformBuffersDS List.mem_cons_self
    rw [hds, Option.isSome_some]
  · intro hsome x hx
    have hhelper : ∀ k, ∃ ds : DescriptorSet,
        (s.helpers k).descriptorSet = some ds ∧ ds.MadeFor s := fun k => by
      obtain ⟨ds, hds⟩ := Option.isSome_iff_exists.mp (h.built hbuilt k)
      exact ⟨ds, hds, h.helper k ds hds⟩
    simp only [Textures.bind, List.mem_cons, List.not_mem_nil, or_false] at hx
    rcases hx with rfl | rfl | rfl
    · obtain ⟨ds, hds⟩ := Option.isSome_iff_exists.mp hsome
      exact ⟨ds, hds, h.uniform ds hds⟩
    · exact hhelper .samplers
    · exact hhelper .image2Ds

/-- What a launch binds. -/
theorem launch_own_iff (h : OwnSets id s first built) (hbuilt : built) (kind : LaunchKind) :
    (kind.launch first.isSome s).2.bind.Own s ↔ ∀ other, first = some other → other = id := by
  obtain ⟨ds, hds⟩ := Textures.requireUniformBuffers_snd first.isSome s
  have hlaunch := (h.launch kind).1
  have hown := hlaunch.bind_own_iff hbuilt
  rw [hlaunch.first] at hown
  rw [launch_eq, hds] at hown ⊢
  -- a launch does not change for whom a set is made
  refine Iff.trans hown ?_
  cases first with
  | none => simp
  | some x => simp

end OwnSets

/-! ## Every run -/

namespace Process

/-- What holds after the calls of a run. -/
structure Invariant (calls : List Call) (p : Process) : Prop where
  sets : ∀ id s, p.contexts id = some s →
    OwnSets id s (firstLaunch calls) (.texture id .build ∈ calls)
  created : p.created = (firstLaunch calls).isSome
  fresh : ∀ id, p.made ≤ id → p.contexts id = none
  named : ∀ id op, .texture id op ∈ calls → id < p.made
  first : ∀ id, firstLaunch calls = some id → id < p.made

/-- The numbers of live contexts have been given out. -/
theorem Invariant.lt_made {calls : List Call} {p : Process} (h : p.Invariant calls) {id : ℕ}
    {s : Textures} (hs : p.contexts id = some s) : id < p.made := by
  by_contra hge
  rw [h.fresh id (by omega)] at hs
  cases hs

theorem invariant_init : Invariant [] {} where
  sets := by rintro _ _ ⟨⟩
  created := rfl
  fresh := fun _ _ => rfl
  named := fun _ _ h => absurd h List.not_mem_nil
  first := fun _ h => by cases h

/-- A call that launches nothing and changes one context at most. -/
theorem Invariant.update {calls : List Call} {p p' : Process} (h : p.Invariant calls) {call : Call}
    (hlaunches : call.launches = none) (hcreated : p'.created = p.created)
    (hmade : p.made ≤ p'.made) (hnamed : ∀ id op, call = .texture id op → id < p.made)
    (hfresh : ∀ id, p'.made ≤ id → p'.contexts id = none)
    (hsets : ∀ id s, p'.contexts id = some s →
      OwnSets id s (firstLaunch calls) (.texture id .build ∈ calls ∨ call = .texture id .build)) :
    p'.Invariant (calls ++ [call]) := by
  have hfirst : firstLaunch (calls ++ [call]) = firstLaunch calls := by
    rw [firstLaunch_snoc, hlaunches, Option.or_none]
  -- the history grows by this call
  have hmem : ∀ c, c ∈ calls ++ [call] ↔ c ∈ calls ∨ call = c := fun c => by
    rw [List.mem_append, List.mem_singleton, eq_comm (a := c)]
  refine ⟨fun id s hs => ?_, ?_, hfresh, fun id op hop => ?_, fun id hid => ?_⟩
  · rw [hfirst, hmem]
    exact hsets id s hs
  · rw [hfirst, hcreated, h.created]
  · rcases (hmem _).mp hop with hop | hop
    · exact (h.named id op hop).trans_le hmade
    · exact (hnamed id op hop).trans_le hmade
  · rw [hfirst] at hid
    exact (h.first id hid).trans_le hmade

theorem contexts_setContext (p : Process) (id : ℕ) (s : Option Textures) (id' : ℕ) :
    (p.setContext id s).contexts id' = if id' = id then s else p.contexts id' :=
  Function.update_apply _ _ _ _

/-- Changing a context whose number has been given out. -/
theorem Invariant.fresh_setContext {calls : List Call} {p : Process} (h : p.Invariant calls)
    {id : ℕ} (hid : id < p.made) (s : Option Textures) {id' : ℕ} (hid' : p.made ≤ id') :
    (p.setContext id s).contexts id' = none := by
  rw [contexts_setContext, if_neg (by omega)]
  exact h.fresh id' hid'

theorem Invariant.createContext {calls : List Call} {p : Process} (h : p.Invariant calls)
    (device : ℕ) (image sampler : Ptr) :
    (p.createContext device image sampler).Invariant (calls ++ [.createContext p.made]) := by
  refine h.update rfl rfl (Nat.le_succ _) (by rintro _ _ ⟨⟩) (fun id hid => ?_) fun id s hs => ?_
  · have hlt : p.made < id := hid
    rw [Process.createContext, contexts_setContext, if_neg (by omega)]
    exact h.fresh id (Nat.le_of_succ_le hid)
  · rw [Process.createContext, contexts_setContext] at hs
    split_ifs at hs with heq
    · rw [← Option.some.inj hs, heq]
      -- no call so far was about the new number
      refine .create p.made device image sampler (fun hf => ?_) fun hb => ?_
      · exact absurd (h.first _ hf) (lt_irrefl _)
      · rcases hb with hb | hb
        · exact absurd (h.named _ _ hb) (lt_irrefl _)
        · cases hb
    · simpa using h.sets id s hs

theorem Invariant.terminate {calls : List Call} {p : Process} (h : p.Invariant calls) {id : ℕ}
    (hid : (p.contexts id).isSome) :
    (p.setContext id none).Invariant (calls ++ [.terminate id]) := by
  obtain ⟨s₀, hs₀⟩ := Option.isSome_iff_exists.mp hid
  refine h.update rfl rfl le_rfl (by rintro _ _ ⟨⟩)
    (fun _ hid' => h.fresh_setContext (h.lt_made hs₀) none hid') fun id' s hs => ?_
  rw [contexts_setContext] at hs
  split_ifs at hs
  simpa using h.sets id' s hs

theorem Invariant.texture {calls : List Call} {p : Process} (h : p.Invariant calls) {id : ℕ}
    {op : TextureOp} {s s' : Textures} (hs : p.contexts id = some s)
    (hop : op ∉ [TextureOp.launch, .computeLaunch]) (hstep : TextureStep op s s') :
    (p.setContext id (some s')).Invariant (calls ++ [.texture id op]) := by
  have hlt := h.lt_made hs
  refine h.update rfl rfl le_rfl (fun id' op' heq => ?_)
    (fun _ hid' => h.fresh_setContext hlt _ hid') fun id' s'' hs' => ?_
  · obtain ⟨rfl, -⟩ := Call.texture.inj heq
    exact hlt
  · rw [contexts_setContext] at hs'
    split_ifs at hs' with heq
    · rw [← Option.some.inj hs', heq]
      simpa using (h.sets id s hs).texture hop hstep
    · simpa [Ne.symm heq] using h.sets id' s'' hs'

theorem Invariant.launch {calls : List Call} {p : Process} (h : p.Invariant calls) {id : ℕ}
    {s : Textures} (hs : p.contexts id = some s) (kind : LaunchKind) :
    (p.launch kind id s).Invariant (calls ++ [.launch id kind]) := by
  have hlt := h.lt_made hs
  -- the static variable says whether there was a launch before
  have hlaunch := (h.sets id s hs).launch kind
  rw [← h.created] at hlaunch
  have hfirst : firstLaunch (calls ++ [.launch id kind]) = (firstLaunch calls).or (some id) :=
    firstLaunch_snoc _ _
  have hmem : ∀ id' op, .texture id' op ∈ calls ++ [.launch id kind] ↔
      .texture id' op ∈ calls := fun id' op => by simp
  refine ⟨fun id' s' hs' => ?_, ?_, fun _ hid' => h.fresh_setContext hlt _ hid',
    fun id' op hop => h.named id' op ((hmem id' op).mp hop), fun id' hid => ?_⟩
  · rw [hfirst, hmem]
    rw [Process.launch, contexts_setContext] at hs'
    split_ifs at hs' with heq
    · rw [← Option.some.inj hs', heq]
      exact hlaunch.1
    · exact (h.sets id' s' hs').other (Ne.symm heq)
  · rw [hfirst, Process.launch, hlaunch.2, Option.isSome_or]
    simp
  · rw [hfirst] at hid
    rcases hf : firstLaunch calls with - | x
    · rw [hf, Option.none_or, Option.some.injEq] at hid
      exact hid ▸ hlt
    · rw [hf, Option.some_or] at hid
      exact h.first id' (hf.trans hid)

/-- **Step lemma**: every call keeps the invariant. -/
theorem Step.invariant {calls : List Call} {call : Call} {p p' : Process}
    (hstep : Step call p p') (h : p.Invariant calls) : p'.Invariant (calls ++ [call]) := by
  cases hstep with
  | createContext _ device image sampler => exact h.createContext device image sampler
  | terminate _ id hid => exact h.terminate hid
  | texture _ id op s s' hs hop hstep => exact h.texture hs hop hstep
  | launch _ id kind s hs => exact h.launch hs kind

/-- **Run lemma**: the invariant holds after every run. -/
theorem invariant_of_trace {calls : List Call} {p : Process} (htrace : Trace Step {} calls p) :
    p.Invariant calls := by
  induction htrace with
  | nil => exact invariant_init
  | snoc _ hstep ih => exact hstep.invariant ih

/-- **A launch binds three sets made for its context exactly if** the first launch of the
process, if any, was on the same context. -/
theorem descriptorSets_own_iff {calls : List Call} {p : Process} (htrace : Trace Step {} calls p)
    {id : ℕ} {s : Textures} (hs : p.contexts id = some s) (hbuild : .texture id .build ∈ calls)
    (kind : LaunchKind) : (kind.launch p.created s).2.bind.Own s ↔
      ∀ other, firstLaunch calls = some other → other = id := by
  have h := invariant_of_trace htrace
  rw [h.created]
  exact (h.sets id s hs).launch_own_iff hbuild kind

/-! ## Two contexts on one device -/

/-- A second context on the device of the first, once its pipeline is built. -/
def sampleTexturesBuilt' : Textures :=
  ((Textures.create 1 0 3 4).build).getD Textures.sampleTextures

/-- A process with two contexts whose pipelines are built. -/
def sampleProcess : Process :=
  let p := (({} : Process).createContext 0 1 2).createContext 0 3 4
  (p.setContext 0 (some Textures.sampleTexturesBuilt)).setContext 1 (some sampleTexturesBuilt')

/-- The calls of the process. -/
def sampleCalls : List Call :=
  [.createContext 0, .createContext 1, .texture 0 .build, .texture 1 .build]

theorem sampleProcess_trace : Trace Step {} sampleCalls sampleProcess := by
  have h₁ : Trace Step {} [.createContext 0] _ := .single (.createContext {} 0 1 2)
  have h₂ := h₁.snoc (.createContext _ 0 3 4)
  have h₃ := h₂.snoc (.texture _ 0 .build _ _ rfl (by decide)
    (.build _ _ Textures.sampleTextures_build))
  exact h₃.snoc (.texture _ 1 .build (.create 1 0 3 4) sampleTexturesBuilt' rfl (by decide)
    (.build _ _ rfl))

/-- The first launch of the process is in order. -/
theorem descriptorSets_own_iff_sampleProcess : ∃ s, sampleProcess.contexts 0 = some s ∧
    (LaunchKind.context.launch sampleProcess.created s).2.bind.Own s := by
  have hs : sampleProcess.contexts 0 = some Textures.sampleTexturesBuilt := rfl
  exact ⟨_, hs, (descriptorSets_own_iff sampleProcess_trace hs (by decide) .context).mpr
    fun _ h => by cases h⟩

/-- The first launch of the second context, after one of the first context, binds no set
for the uniform buffer. -/
theorem launch_second_context : ∃ p s, Trace Step {} (sampleCalls ++ [.launch 0 .context]) p ∧
    p.contexts 1 = some s ∧ .texture 1 .build ∈ sampleCalls ++ [.launch 0 .context] ∧
    ¬ (LaunchKind.context.launch p.created s).2.bind.Own s := by
  refine ⟨_, sampleTexturesBuilt', sampleProcess_trace.snoc (.launch _ 0 .context _ rfl), rfl,
    by decide, fun h => ?_⟩
  obtain ⟨ds, hds, -⟩ := h none List.mem_cons_self
  cases hds

end Process

end Vulkanite
