/-
# Objects and the lifetime of their context

The destructors of most objects use the context that the object was made in, by a raw
pointer: they give back their index, their range of records or their place in a list.  So
no object may outlive its context.

`vknTerminate` terminates one context after the other.  After any of them, an object is
still alive exactly if a path of pointers leads to it from a context that is
(`live_foldl_contextTerminate_iff`).  Therefore nothing outlives its context, in whatever
order they are terminated, exactly if no pointer leads from one context to an object of
another (`nothing_outlives_iff`).
-/
import Vulkanite.Liveness

namespace Vulkanite.Ownership

variable {s t : Ownership}

/-! ## Terminating contexts -/

/-- What is true of `t` when these contexts of `s` were terminated. -/
structure Terminated (s : Ownership) (ids : List ℕ) (t : Ownership) : Prop where
  invariant : t.Invariant
  settled : t.graph.Settled
  objects : t.objects = s.objects
  contexts : ∀ id, id ∉ ids → t.contexts id = s.contexts id
  live : ∀ id, .context id ∈ t.live ↔ .context id ∈ s.live ∧ id ∉ ids

/-- No context is terminated yet. -/
theorem terminated_nil (h : s.Invariant) (hsettled : s.graph.Settled) : Terminated s [] s where
  invariant := h
  settled := hsettled
  objects := rfl
  contexts := fun _ _ => rfl
  live := fun _ => by simp

theorem contexts_collect (s : Ownership) : s.collect.contexts = s.contexts := rfl

/-- **Step lemma**: one more context. -/
theorem Terminated.contextTerminate {ids : List ℕ} (h : Terminated s ids t)
    (hself : ∀ id, .context id ∈ s.live → (s.contexts id).selfReference = true) (id : ℕ) :
    Terminated s (ids ++ [id]) (t.contextTerminate id) := by
  obtain ⟨hshrinks, hdead⟩ := shrinks_contextTerminate t id h.invariant
  have hcontexts : ∀ id', id' ≠ id → (t.contextTerminate id).contexts id' = t.contexts id' := by
    intro id' hne
    simp only [Ownership.contextTerminate, Ownership.collect, Ownership.updateContext,
      Function.update_of_ne hne]
  refine ⟨hshrinks.invariant, ?_, h.objects, fun id' hid' => ?_, fun id' => ?_⟩
  · unfold Ownership.contextTerminate
    rw [graph_collect]
    exact RefGraph.settled_collect _
  · simp only [List.mem_append, List.mem_singleton, not_or] at hid'
    rw [hcontexts id' hid'.2, h.contexts id' hid'.1]
  · simp only [List.mem_append, List.mem_singleton, not_or]
    constructor
    · intro hlive
      obtain ⟨hs, hids⟩ := (h.live id').mp (hshrinks.live hlive)
      exact ⟨hs, hids, fun heq => hdead (heq ▸ hlive)⟩
    · rintro ⟨hs, hids, hne⟩
      have ht : .context id' ∈ t.live := (h.live id').mpr ⟨hs, hids⟩
      have hself' : (t.contexts id').selfReference = true := h.contexts id' hids ▸ hself id' hs
      have hsame : ∀ (u : Ownership) f, ((u.updateContext id f).contexts id') = u.contexts id' :=
        fun u f => Function.update_of_ne hne _ _
      refine context_live_collect (context_live_collect ht ?_) ?_
      · rw [hsame, hself']
      · rw [hsame, contexts_collect, hsame, hself']

/-- **Run lemma**: any contexts, in any order. -/
theorem Terminated.foldl {ids : List ℕ} (h : Terminated s ids t)
    (hself : ∀ id, .context id ∈ s.live → (s.contexts id).selfReference = true) (ids' : List ℕ) :
    Terminated s (ids ++ ids') (ids'.foldl Ownership.contextTerminate t) := by
  induction ids' generalizing ids t with
  | nil => simpa using h
  | cons id ids' ih =>
    have hrest := ih (h.contextTerminate hself id)
    rwa [List.append_assoc, List.singleton_append] at hrest

/-- Run lemma: any contexts may be terminated, in any order. -/
theorem terminated_of_trace {numDevices : ℕ} {calls : List ApiCall}
    (htrace : Trace OwnershipStep (vknInitialize numDevices) calls s) (ids : List ℕ) :
    Terminated s ids (ids.foldl Ownership.contextTerminate s) := by
  obtain ⟨hs, hsettled⟩ := sound_of_trace htrace
  exact (terminated_nil hs.invariant hsettled).foldl (fun id hid => hs.lasting _ hid) ids

/-! ## What is left of their objects -/

/-- What objects point to stays. -/
theorem Terminated.pointsTo {ids : List ℕ} (h : Terminated s ids t) : t.PointsTo = s.PointsTo := by
  funext r r'
  rw [PointsTo, PointsTo, h.objects]

/-- An object is alive if a context that was not terminated leads to it. -/
theorem Terminated.object_live_iff {ids : List ℕ} (h : Terminated s ids t) (r : ObjectRef) :
    .object r ∈ t.live ↔ ∃ id, id ∉ ids ∧ .context id ∈ s.live ∧
      ∃ r' ∈ (s.contexts id).objects, Relation.ReflTransGen s.PointsTo r' r := by
  rw [h.invariant.object_live_iff h.settled, h.pointsTo]
  constructor
  · rintro ⟨r', ⟨id, hid, hr'⟩, hpath⟩
    obtain ⟨hs, hids⟩ := (h.live id).mp hid
    exact ⟨id, hids, hs, r', h.contexts id hids ▸ hr', hpath⟩
  · rintro ⟨id, hids, hs, r', hr', hpath⟩
    exact ⟨r', ⟨id, (h.live id).mpr ⟨hs, hids⟩, h.contexts id hids ▸ hr'⟩, hpath⟩

/-- The context that an object was made in. -/
def contextOf (s : Ownership) (r : ObjectRef) : ℕ := (s.objects r).context

/-- No pointer leads from a context to an object of another one. -/
structure Separate (s : Ownership) : Prop where
  contexts : ∀ id, .context id ∈ s.live → ∀ r ∈ (s.contexts id).objects, s.contextOf r = id
  objects : ∀ r, .object r ∈ s.live → ∀ r', s.PointsTo r r' → s.contextOf r' = s.contextOf r

/-- Whatever contexts are terminated, in whatever order: the context of every object that is
still alive is alive. -/
def NothingOutlives (s : Ownership) : Prop :=
  ∀ (ids : List ℕ) (r : ObjectRef), .object r ∈ (ids.foldl Ownership.contextTerminate s).live →
    .context (s.contextOf r) ∈ (ids.foldl Ownership.contextTerminate s).live

/-- **Nothing outlives its context exactly if the contexts are separate.** -/
theorem nothing_outlives_iff {numDevices : ℕ} {calls : List ApiCall}
    (htrace : Trace OwnershipStep (vknInitialize numDevices) calls s) :
    s.NothingOutlives ↔ s.Separate := by
  obtain ⟨hs, hsettled⟩ := sound_of_trace htrace
  have hterminated := terminated_of_trace htrace
  constructor
  · intro h
    -- a context from which an object of another one can be reached keeps it alive
    have hpath : ∀ id, .context id ∈ s.live → ∀ r' ∈ (s.contexts id).objects,
        ∀ r, Relation.ReflTransGen s.PointsTo r' r → s.contextOf r = id := by
      intro id hid r' hr' r hpath
      by_contra hne
      have hlive := ((hterminated [s.contextOf r]).object_live_iff r).mpr
        ⟨id, fun hmem => hne (List.mem_singleton.mp hmem).symm, hid, r', hr', hpath⟩
      have hdead := ((hterminated [s.contextOf r]).live _).mp (h _ r hlive)
      exact hdead.2 (List.mem_singleton_self _)
    refine ⟨fun id hid r hr => hpath id hid r hr r .refl, fun r hr r' hpoints => ?_⟩
    obtain ⟨r₀, ⟨id, hid, hr₀⟩, hr₀r⟩ := (hs.invariant.object_live_iff hsettled r).mp hr
    rw [hpath id hid r₀ hr₀ r hr₀r, hpath id hid r₀ hr₀ r' (hr₀r.tail hpoints)]
  · intro h ids r hr
    obtain ⟨id, hids, hid, r', hr', hpath⟩ := ((hterminated ids).object_live_iff r).mp hr
    have hsame : s.contextOf r = id := by
      clear hr
      induction hpath with
      | refl => exact h.contexts id hid r' hr'
      | @tail r₁ r₂ hr₁ hpoints ih =>
        have hlive := (hs.invariant.object_live_iff hsettled r₁).mpr ⟨r', ⟨id, hid, hr'⟩, hr₁⟩
        rw [h.objects r₁ hlive r₂ hpoints, ih]
    rw [hsame]
    exact ((hterminated ids).live id).mpr ⟨hid, hids⟩

/-- Two contexts on one device. -/
def twoContexts : Ownership :=
  (((vknInitialize 1).newContext 0 0 0 1 2 3).collect.newContext 0 1 4 5 6 7).collect

/-- An accel of the first that an instance accel of the second has. -/
def sharedAccel : Ownership :=
  ((twoContexts.newGeomAccel 0 8 []).collect.newInstanceAccel 1 9 [some 8]).collect

/-- So the accel outlives its context. -/
theorem nothing_outlives_iff_sharedAccel : ¬ sharedAccel.NothingOutlives := by
  have htrace : Trace OwnershipStep (vknInitialize 1)
      [.contextCreate, .contextCreate, .geomAccelCreate, .instanceAccelCreate] sharedAccel :=
    (((Trace.single (.contextCreate _ 0 0 0 1 2 3 (by decide) (by decide)
      ⟨by decide, by decide⟩)).snoc (.contextCreate _ 0 1 4 5 6 7 (by decide +kernel)
      (by decide +kernel) ⟨by decide, by decide +kernel⟩)).snoc (.geomAccelCreate _ 0 8 []
      (by decide +kernel) (fun _ h => absurd h List.not_mem_nil)
      ⟨by decide, by decide +kernel⟩)).snoc (.instanceAccelCreate _ 1 9 [some 8]
      (by decide +kernel) (fun a h => by
        obtain rfl := Option.some.inj (List.mem_singleton.mp h)
        decide +kernel) ⟨by decide, by decide +kernel⟩)
  intro h
  have hsame := ((nothing_outlives_iff htrace).mp h).objects (.object .instanceAccel, 9)
    (by decide +kernel) (.object .geomAccel, 8) (by show some _ ∈ _; decide +kernel)
  exact absurd hsame (by decide +kernel)

end Vulkanite.Ownership
