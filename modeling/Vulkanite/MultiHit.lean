/-
# Multi-hit iteration

The device code of the prime library (`prime/deviceCode.slang`) finds the hits
along a ray one trace at a time.  The any-hit program `TriangleMesh_AH` keeps
the least hit above a hurdle, in the lexicographic order of
`(t, primID, geomID, instID)`; the ray generation program `traceRays` takes the
hit stored by the trace before it as the next hurdle.

A trace delivers candidate hits to the any-hit program in an order of its own.
`deliver` is one such step, `traceRay` the fold over the order, and `traceRays`
the ray generation program for one ray.  The floats of the rays are a linear
order `T`, and `nextLowerThan` is a parameter.  What a trace reports is the
least candidate above its hurdle (`traceRay_isNextAbove`), whatever the order;
the enumeration theorem is the iteration of that.
-/
import Mathlib.Data.List.Sort
import Mathlib.Data.Prod.Lex
import Mathlib.Order.Lattice
import Vulkanite.Lib.NextEnumeration

namespace Vulkanite.Prime

/-! ## Hits -/

/-- `INT_MAX` of the device code, as an `int`. -/
def INT_MAX : ℤ := 2147483647

/-- `HitRef`. -/
structure HitRef (T : Type*) where
  primID : ℤ
  geomID : ℤ
  instID : ℤ
  t : T
  deriving DecidableEq, Repr

section Model

variable {T : Type*} [LinearOrder T] {UV : Type*}

/-- `less`. -/
def less (a b : HitRef T) : Bool :=
  if a.t < b.t then true
  else if b.t < a.t then false
  else if a.primID < b.primID then true
  else if b.primID < a.primID then false
  else if a.geomID < b.geomID then true
  else if b.geomID < a.geomID then false
  else if a.instID < b.instID then true
  else if b.instID < a.instID then false
  else false

/-- `greater`. -/
def greater (a b : HitRef T) : Bool := less b a

/-- The payload `PRD`: the hurdle and the closest hit so far, with its
barycentrics. -/
structure PRD (T UV : Type*) where
  hurdle : HitRef T
  closestHit : HitRef T
  closestUV : UV

/-- `PrimeRay`, as far as the search depends on it. -/
structure PrimeRay (T : Type*) where
  tMin : T
  tMax : T

/-- `PrimeHit`, the hit record a trace stores. -/
structure PrimeHit (T UV : Type*) where
  primID : ℤ
  geomID : ℤ
  instID : ℤ
  t : T
  uv : UV
  deriving DecidableEq, Repr

/-- The hit in a hit record. -/
def PrimeHit.hit (h : PrimeHit T UV) : HitRef T := ⟨h.primID, h.geomID, h.instID, h.t⟩

/-- `VPTraceMode`. -/
inductive TraceMode where
  | FIRST_HIT
  | NEXT_HIT
  deriving DecidableEq, Repr

/-- A candidate hit of the ray: what `currentHit` reads, and the barycentrics. -/
structure Candidate (T UV : Type*) where
  hit : HitRef T
  bc : UV
  deriving DecidableEq, Repr

/-- How the any-hit program returns: with the hit accepted, or after
`IgnoreHit()`. -/
inductive AnyHitReturn where
  | accept
  | ignoreHit
  deriving DecidableEq, Repr

/-! ## The programs -/

/-- `TriangleMesh_AH`. -/
def TriangleMesh_AH (current : Candidate T UV) (prd : PRD T UV) : PRD T UV × AnyHitReturn :=
  -- accepted although not saved, which shortens the ray
  if prd.closestHit.t < current.hit.t then (prd, .accept)
  else if !greater current.hit prd.hurdle then (prd, .ignoreHit)
  -- saved although ignored, so that hits at the same distance still come
  else if less current.hit prd.closestHit then
    ({ prd with closestHit := current.hit, closestUV := current.bc }, .ignoreHit)
  else (prd, .accept)

/-- A traversal under way: the payload and the current end of the ray. -/
structure Traversal (T UV : Type*) where
  prd : PRD T UV
  tMax : T

/-- One occurrence of a candidate.  It reaches the any-hit program only if its
`t` lies in `(tMin, tMax]`; if the program accepts it, it ends the ray there. -/
def deliver (tMin : T) (s : Traversal T UV) (c : Candidate T UV) : Traversal T UV :=
  if tMin < c.hit.t ∧ c.hit.t ≤ s.tMax then
    match TriangleMesh_AH c s.prd with
    | (prd, .accept) => ⟨prd, c.hit.t⟩
    | (prd, .ignoreHit) => ⟨prd, s.tMax⟩
  else s

/-- `traceRay`: the candidates in the order in which they occur. -/
def traceRay (tMin tMax : T) (prd : PRD T UV) (order : List (Candidate T UV)) : PRD T UV :=
  (order.foldl (deliver tMin) ⟨prd, tMax⟩).prd

/-- The hurdle of a trace, and the `tMin` it traces the ray with. -/
def hurdleOf (nextLowerThan : T → T) (traceMode : TraceMode) (in_ray : PrimeRay T)
    (prev_hit : PrimeHit T UV) : HitRef T × T :=
  match traceMode with
  | .FIRST_HIT => (⟨INT_MAX, INT_MAX, INT_MAX, in_ray.tMin⟩, in_ray.tMin)
  | .NEXT_HIT => (prev_hit.hit, nextLowerThan prev_hit.t)

/-- The hit that `traceRays` starts with, and stores if nothing is found. -/
def noHit (in_ray : PrimeRay T) : HitRef T := ⟨INT_MAX, INT_MAX, INT_MAX, in_ray.tMax⟩

/-- `traceRays` for one ray: from the hit record `prev_hit` to the one it
stores.  `uv₀` is what the barycentrics hold before anything is saved. -/
def traceRays (nextLowerThan : T → T) (traceMode : TraceMode) (in_ray : PrimeRay T)
    (prev_hit : PrimeHit T UV) (uv₀ : UV) (order : List (Candidate T UV)) : PrimeHit T UV :=
  let (hurdle, tMin) := hurdleOf nextLowerThan traceMode in_ray prev_hit
  let prd := traceRay tMin in_ray.tMax ⟨hurdle, noHit in_ray, uv₀⟩ order
  { primID := prd.closestHit.primID
    geomID := prd.closestHit.geomID
    instID := prd.closestHit.instID
    t := prd.closestHit.t
    uv := prd.closestUV }

/-- The hit record after one `FIRST_HIT` trace and `k` `NEXT_HIT` traces, each
with an order and an uninitialised `uv` of its own. -/
def hits (nextLowerThan : T → T) (in_ray : PrimeRay T) (hit₀ : PrimeHit T UV) (uv₀ : ℕ → UV)
    (order : ℕ → List (Candidate T UV)) : ℕ → PrimeHit T UV
  | 0 => traceRays nextLowerThan .FIRST_HIT in_ray hit₀ (uv₀ 0) (order 0)
  | k + 1 => traceRays nextLowerThan .NEXT_HIT in_ray
      (hits nextLowerThan in_ray hit₀ uv₀ order k) (uv₀ (k + 1)) (order (k + 1))

end Model

/-! ## The order on hits -/

section Order

variable {T : Type*} [LinearOrder T]

/-- The key of a hit in the lexicographic order. -/
def HitRef.key (a : HitRef T) : T ×ₗ (ℤ ×ₗ (ℤ ×ₗ ℤ)) :=
  toLex (a.t, toLex (a.primID, toLex (a.geomID, a.instID)))

theorem HitRef.key_lt_iff {a b : HitRef T} :
    a.key < b.key ↔ a.t < b.t ∨ a.t = b.t ∧ (a.primID < b.primID ∨ a.primID = b.primID ∧
      (a.geomID < b.geomID ∨ a.geomID = b.geomID ∧ a.instID < b.instID)) := by
  simp only [HitRef.key, Prod.Lex.toLex_lt_toLex]

/-- `less` is the lexicographic order. -/
theorem less_iff {a b : HitRef T} : less a b = true ↔ a.key < b.key := by
  rw [HitRef.key_lt_iff, less]
  rcases lt_trichotomy a.t b.t with ht | ht | ht
  · simp [ht]
  · simp only [ht, lt_irrefl, if_false, false_or, true_and]
    split_ifs <;> simp only [true_iff, false_iff] <;> omega
  · simp [ht, lt_asymm ht, ht.ne']

theorem greater_iff {a b : HitRef T} : greater a b = true ↔ b.key < a.key := less_iff

omit [LinearOrder T] in
theorem HitRef.key_injective : Function.Injective (HitRef.key (T := T)) := by
  rintro ⟨p, g, i, t⟩ ⟨p', g', i', t'⟩ h
  simp only [HitRef.key, toLex_inj, Prod.mk.injEq] at h
  obtain ⟨rfl, rfl, rfl, rfl⟩ := h
  rfl

/-- A hit that is nearer comes first. -/
theorem HitRef.key_lt_of_t_lt {a b : HitRef T} (h : a.t < b.t) : a.key < b.key :=
  key_lt_iff.mpr (Or.inl h)

/-- A hit that comes first is no farther. -/
theorem HitRef.t_le_of_key_le {a b : HitRef T} (h : a.key ≤ b.key) : a.t ≤ b.t :=
  le_of_not_gt fun hlt => absurd (key_lt_of_t_lt hlt) h.not_gt

end Order

/-! ## One trace -/

section Trace

variable {T : Type*} [LinearOrder T] {UV : Type*}

/-- The traversal after the candidates `seen`, among `cands`, for a hurdle: what
is saved is the starting hit or a candidate above the hurdle, no candidate seen
above the hurdle comes before it, and the ray still reaches it. -/
structure TraversalInv (hurdle noHit : HitRef T) (cands : Finset (Candidate T UV))
    (seen : List (Candidate T UV)) (s : Traversal T UV) : Prop where
  hurdle_eq : s.prd.hurdle = hurdle
  reaches : s.prd.closestHit.t ≤ s.tMax
  saved : s.prd.closestHit = noHit ∨
    ∃ c ∈ cands, s.prd.closestHit = c.hit ∧ s.prd.closestUV = c.bc ∧ hurdle.key < c.hit.key
  least : ∀ c ∈ seen, hurdle.key < c.hit.key → s.prd.closestHit.key ≤ c.hit.key

variable {hurdle noHit : HitRef T} {cands : Finset (Candidate T UV)} {tMin : T}

/-- One occurrence of a candidate keeps the invariant, provided `tMin` lets every
candidate above the hurdle through. -/
theorem TraversalInv.deliver {seen : List (Candidate T UV)} {s : Traversal T UV}
    {c : Candidate T UV} (h : TraversalInv hurdle noHit cands seen s) (hc : c ∈ cands)
    (hmin : hurdle.key < c.hit.key → tMin < c.hit.t) :
    TraversalInv hurdle noHit cands (seen ++ [c]) (Prime.deliver tMin s c) := by
  have hleast : ∀ {hit : HitRef T}, hit.key ≤ s.prd.closestHit.key →
      (hurdle.key < c.hit.key → hit.key ≤ c.hit.key) →
      ∀ c' ∈ seen ++ [c], hurdle.key < c'.hit.key → hit.key ≤ c'.hit.key := by
    intro hit hle hnew c' hc' hhurdle
    rcases List.mem_append.mp hc' with hseen | hlast
    · exact hle.trans (h.least c' hseen hhurdle)
    · obtain rfl := List.mem_singleton.mp hlast
      exact hnew hhurdle
  have hfar : s.prd.closestHit.t < c.hit.t → s.prd.closestHit.key ≤ c.hit.key :=
    fun hlt => (HitRef.key_lt_of_t_lt hlt).le
  unfold Prime.deliver
  split_ifs with hdel
  · unfold TriangleMesh_AH
    split_ifs with hbeyond hhurdle hless
    · -- beyond the saved hit: accepted, not saved
      exact ⟨h.hurdle_eq, hbeyond.le, h.saved, hleast le_rfl fun _ => hfar hbeyond⟩
    · -- not above the hurdle
      rw [Bool.not_eq_true', ← Bool.not_eq_true, greater_iff, h.hurdle_eq] at hhurdle
      exact ⟨h.hurdle_eq, h.reaches, h.saved, hleast le_rfl fun hc' => absurd hc' hhurdle⟩
    · -- before the saved hit: saved, not accepted
      rw [Bool.not_eq_true', ← Bool.not_eq_true, not_not, greater_iff, h.hurdle_eq] at hhurdle
      rw [less_iff] at hless
      exact ⟨h.hurdle_eq, (HitRef.t_le_of_key_le hless.le).trans h.reaches,
        Or.inr ⟨c, hc, rfl, rfl, hhurdle⟩, hleast hless.le fun _ => le_rfl⟩
    · -- at the saved distance, not before the saved hit: accepted, not saved
      rw [less_iff, not_lt] at hless
      exact ⟨h.hurdle_eq, HitRef.t_le_of_key_le hless, h.saved, hleast le_rfl fun _ => hless⟩
  · refine ⟨h.hurdle_eq, h.reaches, h.saved, hleast le_rfl fun hc' => hfar ?_⟩
    have hlt : s.tMax < c.hit.t := lt_of_not_ge fun hle => hdel ⟨hmin hc', hle⟩
    exact h.reaches.trans_lt hlt

/-- The invariant holds after every prefix of the order. -/
theorem TraversalInv.foldl {s : Traversal T UV} {order : List (Candidate T UV)}
    (hstart : TraversalInv hurdle noHit cands [] s) (horder : ∀ c ∈ order, c ∈ cands)
    (hmin : ∀ c ∈ cands, hurdle.key < c.hit.key → tMin < c.hit.t) :
    TraversalInv hurdle noHit cands order (order.foldl (Prime.deliver tMin) s) := by
  induction order using List.reverseRecOn with
  | nil => exact hstart
  | append_singleton order c ih =>
    rw [List.foldl_append]
    have hc : c ∈ cands := horder c (by simp)
    exact (ih fun c' hc' => horder c' (by simp [hc'])).deliver hc (hmin c hc)

/-- The hit record of a candidate. -/
def Candidate.record (c : Candidate T UV) : PrimeHit T UV :=
  ⟨c.hit.primID, c.hit.geomID, c.hit.instID, c.hit.t, c.bc⟩

/-- The candidates of a ray: their keys are distinct, their distances lie in
`(tMin, tMax]` and their IDs in `[0, INT_MAX)`. -/
structure IsCandidateSet (in_ray : PrimeRay T) (cands : Finset (Candidate T UV)) : Prop where
  distinct : Set.InjOn Candidate.hit (cands : Set (Candidate T UV))
  tMin_lt : ∀ c ∈ cands, in_ray.tMin < c.hit.t
  le_tMax : ∀ c ∈ cands, c.hit.t ≤ in_ray.tMax
  primID_mem : ∀ c ∈ cands, 0 ≤ c.hit.primID ∧ c.hit.primID < INT_MAX
  geomID_mem : ∀ c ∈ cands, 0 ≤ c.hit.geomID ∧ c.hit.geomID < INT_MAX
  instID_mem : ∀ c ∈ cands, 0 ≤ c.hit.instID ∧ c.hit.instID < INT_MAX

variable {in_ray : PrimeRay T} {nextLowerThan : T → T}

/-- Every candidate comes before the hit that stands for none. -/
theorem IsCandidateSet.key_lt_noHit (h : IsCandidateSet in_ray cands) {c : Candidate T UV}
    (hc : c ∈ cands) : c.hit.key < (Prime.noHit in_ray).key := by
  rw [HitRef.key_lt_iff]
  rcases (h.le_tMax c hc).lt_or_eq with hlt | heq
  · exact Or.inl hlt
  · exact Or.inr ⟨heq, Or.inl (h.primID_mem c hc).2⟩

/-- The hurdle of a first trace lies before every candidate. -/
theorem IsCandidateSet.first_hurdle_lt (h : IsCandidateSet in_ray cands)
    (nextLowerThan : T → T) (prev_hit : PrimeHit T UV) {c : Candidate T UV} (hc : c ∈ cands) :
    (hurdleOf nextLowerThan .FIRST_HIT in_ray prev_hit).1.key < c.hit.key :=
  HitRef.key_lt_of_t_lt (h.tMin_lt c hc)

/-- The ray starts early enough for every candidate above the hurdle. -/
theorem IsCandidateSet.tMin_hurdleOf_lt (h : IsCandidateSet in_ray cands)
    (hnext : ∀ x y, nextLowerThan x < y ↔ x ≤ y) (traceMode : TraceMode)
    (prev_hit : PrimeHit T UV) {c : Candidate T UV} (hc : c ∈ cands)
    (hlt : (hurdleOf nextLowerThan traceMode in_ray prev_hit).1.key < c.hit.key) :
    (hurdleOf nextLowerThan traceMode in_ray prev_hit).2 < c.hit.t := by
  cases traceMode with
  | FIRST_HIT => exact h.tMin_lt c hc
  | NEXT_HIT => exact (hnext _ _).mpr (HitRef.t_le_of_key_le hlt.le)

/-- **A trace reports the least candidate above its hurdle**, or the no-hit
record if no candidate is above it. -/
theorem traceRays_spec (h : IsCandidateSet in_ray cands)
    (hnext : ∀ x y, nextLowerThan x < y ↔ x ≤ y) (traceMode : TraceMode)
    (prev_hit : PrimeHit T UV) (uv₀ : UV) {order : List (Candidate T UV)}
    (horder : ∀ c, c ∈ order ↔ c ∈ cands) :
    (∃ c ∈ cands, traceRays nextLowerThan traceMode in_ray prev_hit uv₀ order = c.record ∧
        (hurdleOf nextLowerThan traceMode in_ray prev_hit).1.key < c.hit.key ∧
        ∀ c' ∈ cands, (hurdleOf nextLowerThan traceMode in_ray prev_hit).1.key < c'.hit.key →
          c.hit.key ≤ c'.hit.key) ∨
      ((traceRays nextLowerThan traceMode in_ray prev_hit uv₀ order).hit = Prime.noHit in_ray ∧
        ∀ c ∈ cands,
          ¬ (hurdleOf nextLowerThan traceMode in_ray prev_hit).1.key < c.hit.key) := by
  have hfold := TraversalInv.foldl
    (s := ⟨⟨(hurdleOf nextLowerThan traceMode in_ray prev_hit).1, Prime.noHit in_ray, uv₀⟩,
      in_ray.tMax⟩)
    ⟨rfl, le_rfl, Or.inl rfl, by simp⟩ (fun c hc => (horder c).mp hc)
    (fun c hc => h.tMin_hurdleOf_lt hnext traceMode prev_hit hc)
  have hleast := fun c hc => hfold.least c ((horder c).mpr hc)
  rcases hfold.saved with hnone | ⟨c, hc, hhit, huv, hlt⟩
  · refine Or.inr ⟨hnone, fun c hc hlt => ?_⟩
    have hle := hleast c hc hlt
    rw [hnone] at hle
    exact absurd (h.key_lt_noHit hc) hle.not_gt
  · rw [hhit] at hleast
    refine Or.inl ⟨c, hc, ?_, hlt, hleast⟩
    simp only [traceRays, traceRay, Candidate.record, hhit, huv]

end Trace

/-! ## The enumeration -/

section Enumeration

variable {T : Type*} [LinearOrder T] {UV : Type*} {in_ray : PrimeRay T}
  {nextLowerThan : T → T} {cands : Finset (Candidate T UV)}

/-- The candidates in increasing order. -/
theorem IsCandidateSet.exists_sorted (h : IsCandidateSet in_ray cands) :
    ∃ l : List (Candidate T UV), l.Pairwise (fun a b => a.hit.key < b.hit.key) ∧
      ∀ c, c ∈ l ↔ c ∈ cands := by
  refine ⟨cands.toList.mergeSort (fun a b => decide (a.hit.key ≤ b.hit.key)), ?_, by simp⟩
  have hsorted : (cands.toList.mergeSort fun a b => decide (a.hit.key ≤ b.hit.key)).Pairwise
      fun a b => decide (a.hit.key ≤ b.hit.key) = true := by
    apply List.pairwise_mergeSort
    · intro a b c hab hbc
      exact decide_eq_true ((of_decide_eq_true hab).trans (of_decide_eq_true hbc))
    · intro a b
      simpa using le_total a.hit.key b.hit.key
  have hnodup : (cands.toList.mergeSort fun a b => decide (a.hit.key ≤ b.hit.key)).Nodup :=
    (List.mergeSort_perm _ _).nodup_iff.mpr cands.nodup_toList
  refine (hsorted.and hnodup).imp_of_mem fun {a b} ha hb hab => ?_
  have ha' : a ∈ cands := by simpa using ha
  have hb' : b ∈ cands := by simpa using hb
  refine lt_of_le_of_ne (of_decide_eq_true hab.1) fun heq => hab.2 ?_
  exact h.distinct ha' hb' (HitRef.key_injective heq)

/-- The key of a trace's report comes next after its hurdle. -/
theorem traceRays_isNextAbove (h : IsCandidateSet in_ray cands)
    (hnext : ∀ x y, nextLowerThan x < y ↔ x ≤ y) (traceMode : TraceMode)
    (prev_hit : PrimeHit T UV) (uv₀ : UV) {order : List (Candidate T UV)}
    (horder : ∀ c, c ∈ order ↔ c ∈ cands) {l : List (Candidate T UV)}
    (hl : ∀ c, c ∈ l ↔ c ∈ cands) :
    NextEnumeration.IsNextAbove (l.map fun c => c.hit.key) (noHit in_ray).key
      (hurdleOf nextLowerThan traceMode in_ray prev_hit).1.key
      (traceRays nextLowerThan traceMode in_ray prev_hit uv₀ order).hit.key := by
  rcases traceRays_spec h hnext traceMode prev_hit uv₀ horder with
    ⟨c, hc, hrec, hlt, hleast⟩ | ⟨hnone, hno⟩
  · rw [hrec]
    refine Or.inl ⟨List.mem_map_of_mem ((hl c).mpr hc), hlt, fun y hy hlt' => ?_⟩
    obtain ⟨c', hc', rfl⟩ := List.mem_map.mp hy
    exact hleast c' ((hl c').mp hc') hlt'
  · rw [hnone]
    refine Or.inr ⟨rfl, fun y hy => ?_⟩
    obtain ⟨c', hc', rfl⟩ := List.mem_map.mp hy
    exact hno c' ((hl c').mp hc')

variable {hit₀ : PrimeHit T UV} {uv₀ : ℕ → UV} {order : ℕ → List (Candidate T UV)}

/-- A reported candidate is reported with its barycentrics. -/
theorem hits_eq_record (h : IsCandidateSet in_ray cands)
    (hnext : ∀ x y, nextLowerThan x < y ↔ x ≤ y) (horder : ∀ k c, c ∈ order k ↔ c ∈ cands)
    {k : ℕ} {c : Candidate T UV} (hc : c ∈ cands)
    (hkey : (hits nextLowerThan in_ray hit₀ uv₀ order k).hit.key = c.hit.key) :
    hits nextLowerThan in_ray hit₀ uv₀ order k = c.record := by
  have hrec : (∃ c' ∈ cands, hits nextLowerThan in_ray hit₀ uv₀ order k = c'.record) ∨
      (hits nextLowerThan in_ray hit₀ uv₀ order k).hit = noHit in_ray := by
    cases k with
    | zero =>
      exact (traceRays_spec h hnext .FIRST_HIT hit₀ (uv₀ 0) (horder 0)).imp
        (fun ⟨c', hc', hr, _⟩ => ⟨c', hc', hr⟩) And.left
    | succ k =>
      exact (traceRays_spec h hnext .NEXT_HIT _ (uv₀ (k + 1)) (horder (k + 1))).imp
        (fun ⟨c', hc', hr, _⟩ => ⟨c', hc', hr⟩) And.left
  rcases hrec with ⟨c', hc', hr⟩ | hnone
  · rw [hr] at hkey ⊢
    rw [h.distinct hc' hc (HitRef.key_injective hkey)]
  · rw [hnone] at hkey
    exact absurd hkey (h.key_lt_noHit hc).ne'

/-- **Multi-hit iteration enumerates every hit once, in order.**  One
`FIRST_HIT` trace and then `NEXT_HIT` traces, in whatever order each of them
meets the candidates, report the candidates in increasing order of
`(t, primID, geomID, instID)`, each once, and from then on the no-hit record. -/
theorem multiHit_enumerates (in_ray : PrimeRay T) (cands : Finset (Candidate T UV))
    (h : IsCandidateSet in_ray cands) (nextLowerThan : T → T)
    (hnext : ∀ x y, nextLowerThan x < y ↔ x ≤ y) (hit₀ : PrimeHit T UV) (uv₀ : ℕ → UV)
    (order : ℕ → List (Candidate T UV)) (horder : ∀ k c, c ∈ order k ↔ c ∈ cands) :
    ∃ l : List (Candidate T UV), l.Pairwise (fun a b => less a.hit b.hit = true) ∧
      (∀ c, c ∈ l ↔ c ∈ cands) ∧
      (∀ k (hk : k < l.length),
        hits nextLowerThan in_ray hit₀ uv₀ order k = (l[k]).record) ∧
      ∀ k, l.length ≤ k →
        (hits nextLowerThan in_ray hit₀ uv₀ order k).hit
          = ⟨INT_MAX, INT_MAX, INT_MAX, in_ray.tMax⟩ := by
  obtain ⟨l, hsorted, hl⟩ := h.exists_sorted
  have henum : ∀ k, (hits nextLowerThan in_ray hit₀ uv₀ order k).hit.key =
      (l.map fun c => c.hit.key).getD k (noHit in_ray).key := by
    refine NextEnumeration.eq_getD_of_isNextAbove (List.pairwise_map.mpr hsorted)
      (h := (hurdleOf nextLowerThan .FIRST_HIT in_ray hit₀).1.key) ?_ ?_ ?_ ?_
    · intro y hy
      obtain ⟨c, hc, rfl⟩ := List.mem_map.mp hy
      exact h.key_lt_noHit ((hl c).mp hc)
    · intro y hy
      obtain ⟨c, hc, rfl⟩ := List.mem_map.mp hy
      exact h.first_hurdle_lt nextLowerThan hit₀ ((hl c).mp hc)
    · exact traceRays_isNextAbove h hnext .FIRST_HIT hit₀ (uv₀ 0) (horder 0) hl
    · intro k
      exact traceRays_isNextAbove h hnext .NEXT_HIT _ (uv₀ (k + 1)) (horder (k + 1)) hl
  refine ⟨l, hsorted.imp less_iff.mpr, hl, fun k hk => ?_, fun k hk => ?_⟩
  · refine hits_eq_record h hnext horder ((hl _).mp (List.getElem_mem hk)) ?_
    rw [henum k, List.getD_eq_getElem _ _ (by simpa using hk), List.getElem_map]
  · have hkey := henum k
    rw [List.getD_eq_default _ _ (by simpa using hk)] at hkey
    exact HitRef.key_injective hkey

/-- Two triangles hit at the same distance, over the integers. -/
def sampleCandidates : Finset (Candidate ℤ Unit) := {⟨⟨2, 0, 0, 5⟩, ()⟩, ⟨⟨1, 0, 0, 5⟩, ()⟩}

/-- Each trace meets the first triangle twice. -/
def sampleOrder (_ : ℕ) : List (Candidate ℤ Unit) :=
  [⟨⟨2, 0, 0, 5⟩, ()⟩, ⟨⟨1, 0, 0, 5⟩, ()⟩, ⟨⟨2, 0, 0, 5⟩, ()⟩]

theorem multiHit_enumerates_sample :
    ∃ l : List (Candidate ℤ Unit), l.Pairwise (fun a b => less a.hit b.hit = true) ∧
      (∀ c, c ∈ l ↔ c ∈ sampleCandidates) ∧
      (∀ k (hk : k < l.length),
        hits (· - 1) ⟨0, 10⟩ ⟨0, 0, 0, 0, ()⟩ (fun _ => ()) sampleOrder k = (l[k]).record) ∧
      ∀ k, l.length ≤ k →
        (hits (· - 1) ⟨0, 10⟩ ⟨0, 0, 0, 0, ()⟩ (fun _ => ()) sampleOrder k).hit
          = ⟨INT_MAX, INT_MAX, INT_MAX, 10⟩ := by
  refine multiHit_enumerates ⟨0, 10⟩ sampleCandidates ⟨?_, ?_, ?_, ?_, ?_, ?_⟩ (· - 1)
    (fun x y => Int.sub_one_lt_iff) ⟨0, 0, 0, 0, ()⟩ (fun _ => ()) sampleOrder ?_
  · rintro ⟨a, ⟨⟩⟩ - ⟨b, ⟨⟩⟩ - rfl
    rfl
  case refine_7 =>
    intro _ c
    simp only [sampleCandidates, sampleOrder, List.mem_cons, Finset.mem_insert,
      Finset.mem_singleton, List.not_mem_nil, or_false]
    tauto
  all_goals simp [sampleCandidates, INT_MAX]

/-- The nearer triangle in the order comes first, then the other, then none. -/
example : (List.range 3).map (fun k =>
    (hits (· - 1) ⟨0, 10⟩ ⟨0, 0, 0, 0, ()⟩ (fun _ => ()) sampleOrder k).primID)
      = [1, 2, INT_MAX] := by decide

end Enumeration

end Vulkanite.Prime
