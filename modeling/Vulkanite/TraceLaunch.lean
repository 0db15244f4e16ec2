/-
# Launching a trace

`vpTrace` launches one thread of the ray generation program `traceRays` for each ray.
A thread loads its ray, and for `NEXT_HIT` also its hit record; it traces, and then it
stores the members of the record one after the other and copies the record to itself.
The threads run at the same time, and their steps interleave in any way.

`launch_iff` says that a launch has nevertheless the effect of the threads one after
the other.  So a `FIRST_HIT` trace and any number of `NEXT_HIT` traces do to every ray what
they would do to it alone (`exists_hits`).

`numRays` is a `size_t` on the host and an `int` on the device and in the launch; an
array index may be negative.  The arrays of rays and hits do not overlap.
-/
import Vulkanite.Lib.DisjointThreads
import Vulkanite.MultiHit
import Vulkanite.SizeT

namespace Vulkanite.Prime

/-! ## The program of one thread -/

/-- The members of a hit record, in the order in which `traceRays` stores them. -/
inductive HitField where
  | primID
  | instID
  | geomID
  | t
  | u
  | v
  deriving DecidableEq, Repr

/-- The stores of `traceRays`. -/
def HitField.all : List HitField := [.primID, .instID, .geomID, .t, .u, .v]

variable {T U : Type*}

/-- Storing one member. -/
def HitField.store (prd : PRD T (U × U)) (hit : PrimeHit T (U × U)) :
    HitField → PrimeHit T (U × U)
  | .primID => { hit with primID := prd.closestHit.primID }
  | .instID => { hit with instID := prd.closestHit.instID }
  | .geomID => { hit with geomID := prd.closestHit.geomID }
  | .t => { hit with t := prd.closestHit.t }
  | .u => { hit with uv := (prd.closestUV.1, hit.uv.2) }
  | .v => { hit with uv := (hit.uv.1, prd.closestUV.2) }

/-- Where a thread is in `traceRays`, with the local variables it still needs. -/
inductive Thread (T U : Type*) where
  | entry
  | loaded (in_ray : PrimeRay T)
  | ready (in_ray : PrimeRay T) (hurdle : HitRef T) (tMin : T)
  | storing (prd : PRD T (U × U)) (todo : List HitField)
  | copying (hit : PrimeHit T (U × U))
  | returned

/-- The array `hits` of the device. -/
abbrev HitArray (T U : Type*) := ℤ → PrimeHit T (U × U)

/-- The width of the launch: `numRays` goes through the `int` parameter of
`vknRayGenLaunch2D` to the `uint32_t` of `vkCmdTraceRays`. -/
def launchWidth (numRays : UInt64) : ℕ := (uint32OfInt (intOfSize numRays)).toNat

/-- `rayID`, the `int` of `DispatchRaysIndex().x`. -/
def rayID (x : ℕ) : ℤ := Int.bmod x (2 ^ 32)

/-- What `vpTrace` passes, and what there is to hit: the candidate hits of each ray. -/
structure TraceArgs (T U : Type*) where
  nextLowerThan : T → T
  rays : ℤ → PrimeRay T
  cands : ℤ → Finset (Candidate T (U × U))
  numRays : UInt64

variable [LinearOrder T]

/-- One step of the thread `x`.  What the barycentrics hold before the trace, and the
order of the candidates, are left open. -/
inductive ThreadStep (args : TraceArgs T U) (traceMode : TraceMode) (x : ℕ) :
    Thread T U × HitArray T U → Thread T U × HitArray T U → Prop
  | leave (hits : HitArray T U) (hguard : intOfSize args.numRays ≤ rayID x) :
      ThreadStep args traceMode x (.entry, hits) (.returned, hits)
  | loadRay (hits : HitArray T U) (hguard : rayID x < intOfSize args.numRays) :
      ThreadStep args traceMode x (.entry, hits) (.loaded (args.rays (rayID x)), hits)
  | setHurdle (in_ray : PrimeRay T) (hits : HitArray T U) :
      ThreadStep args traceMode x (.loaded in_ray, hits)
        (.ready in_ray (hurdleOf args.nextLowerThan traceMode in_ray (hits (rayID x))).1
          (hurdleOf args.nextLowerThan traceMode in_ray (hits (rayID x))).2, hits)
  | trace (in_ray : PrimeRay T) (hurdle : HitRef T) (tMin : T) (hits : HitArray T U)
      (uv₀ : U × U) (order : List (Candidate T (U × U)))
      (horder : ∀ c, c ∈ order ↔ c ∈ args.cands (rayID x)) :
      ThreadStep args traceMode x (.ready in_ray hurdle tMin, hits)
        (.storing (traceRay tMin in_ray.tMax ⟨hurdle, noHit in_ray, uv₀⟩ order) HitField.all, hits)
  | store (prd : PRD T (U × U)) (f : HitField) (todo : List HitField) (hits : HitArray T U) :
      ThreadStep args traceMode x (.storing prd (f :: todo), hits)
        (.storing prd todo, Function.update hits (rayID x) (f.store prd (hits (rayID x))))
  | loadHit (prd : PRD T (U × U)) (hits : HitArray T U) :
      ThreadStep args traceMode x (.storing prd [], hits) (.copying (hits (rayID x)), hits)
  | storeHit (hit : PrimeHit T (U × U)) (hits : HitArray T U) :
      ThreadStep args traceMode x (.copying hit, hits)
        (.returned, Function.update hits (rayID x) hit)

/-! ## The launch -/

/-- The thread that a hit record belongs to. -/
@[irreducible] def ownerOf (numRays : UInt64) (r : ℤ) : Option (Fin (launchWidth numRays)) :=
  if h : (r % 2 ^ 32).toNat < launchWidth numRays ∧ rayID (r % 2 ^ 32).toNat = r then
    some ⟨(r % 2 ^ 32).toNat, h.1⟩
  else none

/-- The index of a thread can be told from its `rayID`. -/
theorem toNat_rayID_emod {x : ℕ} (hx : x < 2 ^ 32) : (rayID x % 2 ^ 32).toNat = x := by
  have hpow : (2 : ℤ) ^ 32 = ((2 ^ 32 : ℕ) : ℤ) := by norm_cast
  unfold rayID
  rw [hpow, Int.bmod_emod, ← Int.natCast_emod, Int.toNat_natCast]
  exact Nat.mod_eq_of_lt hx

theorem ownerOf_eq_some_iff {numRays : UInt64} {r : ℤ} {x : Fin (launchWidth numRays)} :
    ownerOf numRays r = some x ↔ rayID x = r := by
  have hlt : (x : ℕ) < 2 ^ 32 := x.2.trans (UInt32.toNat_lt _)
  unfold ownerOf
  constructor
  · intro h
    split_ifs at h with hr
    rw [← Option.some.inj h]
    exact hr.2
  · intro h
    have hx : (r % 2 ^ 32).toNat = (x : ℕ) := by
      rw [← h]
      exact toNat_rayID_emod hlt
    have hwidth : (r % 2 ^ 32).toNat < launchWidth numRays := by
      rw [hx]
      exact x.2
    rw [dif_pos ⟨hwidth, by rw [hx, h]⟩]
    exact congrArg some (Fin.ext hx)

theorem ownerOf_rayID {numRays : UInt64} (x : Fin (launchWidth numRays)) :
    ownerOf numRays (rayID x) = some x := ownerOf_eq_some_iff.mpr (Eq.refl _)

omit [LinearOrder T] in
/-- Two memories that look the same to the owner of a record agree on it. -/
theorem eq_at_rayID {numRays : UInt64} {x : Fin (launchWidth numRays)} {hits hits' : HitArray T U}
    (h : ∀ r, ownerOf numRays r = none ∨ ownerOf numRays r = some x → hits r = hits' r) :
    hits (rayID x) = hits' (rayID x) := h _ (Or.inr (ownerOf_rayID x))

/-- The threads of a launch. -/
def launchThreads (args : TraceArgs T U) (traceMode : TraceMode) :
    Threads (Fin (launchWidth args.numRays)) ℤ (PrimeHit T (U × U)) (Thread T U) where
  owner := ownerOf args.numRays
  step := fun x => ThreadStep args traceMode x
  frame := by
    intro x l l' m m' hstep r hr
    have hne : r ≠ rayID x := fun heq => hr (ownerOf_eq_some_iff.mpr heq.symm)
    cases hstep with
    | store => exact Function.update_of_ne hne _ _
    | storeHit => exact Function.update_of_ne hne _ _
    | _ => rfl
  transfer := by
    intro x l l' m m' n hstep hn
    have hown := eq_at_rayID hn
    have hsame : ∀ r, ownerOf args.numRays r = some x → n r = m r := fun r hr => hn r (Or.inr hr)
    have hstored : ∀ hit r, ownerOf args.numRays r = some x →
        Function.update n (rayID x) hit r = Function.update m (rayID x) hit r := by
      intro hit r hr
      rw [← ownerOf_eq_some_iff.mp hr, Function.update_self, Function.update_self]
    cases hstep with
    | leave _ hguard => exact ⟨n, .leave n hguard, hsame⟩
    | loadRay _ hguard => exact ⟨n, .loadRay n hguard, hsame⟩
    | setHurdle in_ray => exact ⟨n, hown ▸ .setHurdle in_ray n, hsame⟩
    | trace in_ray hurdle tMin _ uv₀ order horder =>
      exact ⟨n, .trace in_ray hurdle tMin n uv₀ order horder, hsame⟩
    | store prd f todo =>
      exact ⟨_, .store prd f todo n, by rw [hown]; exact hstored _⟩
    | loadHit prd => exact ⟨n, hown ▸ .loadHit prd n, hsame⟩
    | storeHit hit => exact ⟨_, .storeHit hit n, hstored hit⟩

theorem launchThreads_owner {args : TraceArgs T U} {traceMode : TraceMode} {r : ℤ}
    {x : Fin (launchWidth args.numRays)} :
    (launchThreads args traceMode).owner r = some x ↔ rayID x = r := ownerOf_eq_some_iff

/-- A launch with hit records `hits` can leave the records `hits'`: all threads run
from their entry until they have returned. -/
def Launch (args : TraceArgs T U) (traceMode : TraceMode) (hits hits' : HitArray T U) : Prop :=
  ∃ threads, (launchThreads args traceMode).Run (fun _ => .entry, hits) (threads, hits') ∧
    ∀ x, threads x = .returned

/-! ## One thread alone -/

/-- What a trace of the ray `r` can store in its record. -/
def CanReport (args : TraceArgs T U) (traceMode : TraceMode) (r : ℤ)
    (prev_hit hit : PrimeHit T (U × U)) : Prop :=
  ∃ uv₀ order, (∀ c, c ∈ order ↔ c ∈ args.cands r) ∧
    hit = traceRays args.nextLowerThan traceMode (args.rays r) prev_hit uv₀ order

omit [LinearOrder T] in
/-- All stores together leave the record that `traceRays` stores. -/
theorem HitField.foldl_store_all (prd : PRD T (U × U)) (hit : PrimeHit T (U × U)) :
    HitField.all.foldl (HitField.store prd) hit =
      ⟨prd.closestHit.primID, prd.closestHit.geomID, prd.closestHit.instID, prd.closestHit.t,
        prd.closestUV⟩ := rfl

variable {args : TraceArgs T U} {traceMode : TraceMode} {x : ℕ} {hits₀ : HitArray T U}

/-- What holds of the thread `x` wherever it is, if it started with the records `hits₀`:
what it has still to store completes a record that a trace can store. -/
def ThreadInv (args : TraceArgs T U) (traceMode : TraceMode) (x : ℕ) (hits₀ : HitArray T U) :
    Thread T U × HitArray T U → Prop
  | (.entry, hits) => hits = hits₀
  | (.loaded in_ray, hits) =>
    rayID x < intOfSize args.numRays ∧ in_ray = args.rays (rayID x) ∧ hits = hits₀
  | (.ready in_ray hurdle tMin, _) =>
    rayID x < intOfSize args.numRays ∧ in_ray = args.rays (rayID x) ∧
      (hurdle, tMin) = hurdleOf args.nextLowerThan traceMode in_ray (hits₀ (rayID x))
  | (.storing prd todo, hits) =>
    rayID x < intOfSize args.numRays ∧ CanReport args traceMode (rayID x) (hits₀ (rayID x))
      (todo.foldl (HitField.store prd) (hits (rayID x)))
  | (.copying hit, _) =>
    rayID x < intOfSize args.numRays ∧
      CanReport args traceMode (rayID x) (hits₀ (rayID x)) hit
  | (.returned, hits) =>
    (rayID x < intOfSize args.numRays →
        CanReport args traceMode (rayID x) (hits₀ (rayID x)) (hits (rayID x))) ∧
      (intOfSize args.numRays ≤ rayID x → hits (rayID x) = hits₀ (rayID x))

/-- One step of the thread keeps it. -/
theorem ThreadStep.threadInv {s s' : Thread T U × HitArray T U}
    (hstep : ThreadStep args traceMode x s s') (h : ThreadInv args traceMode x hits₀ s) :
    ThreadInv args traceMode x hits₀ s' := by
  cases hstep with
  | leave hits hguard =>
    simp only [ThreadInv] at h ⊢
    subst h
    exact ⟨fun hlt => absurd hlt hguard.not_gt, fun _ => rfl⟩
  | loadRay hits hguard => exact ⟨hguard, rfl, h⟩
  | setHurdle in_ray hits =>
    simp only [ThreadInv] at h ⊢
    obtain ⟨hguard, hray, rfl⟩ := h
    exact ⟨hguard, hray, rfl⟩
  | trace in_ray hurdle tMin hits uv₀ order horder =>
    simp only [ThreadInv] at h ⊢
    obtain ⟨hguard, rfl, hhurdle⟩ := h
    refine ⟨hguard, uv₀, order, horder, ?_⟩
    rw [HitField.foldl_store_all, traceRays, ← hhurdle]
  | store prd f todo hits =>
    simp only [ThreadInv] at h ⊢
    rw [Function.update_self]
    exact h
  | loadHit prd hits => exact h
  | storeHit hit hits =>
    simp only [ThreadInv] at h ⊢
    rw [Function.update_self]
    exact ⟨fun _ => h.2, fun hle => absurd h.1 hle.not_gt⟩

/-- It holds in every run of the thread. -/
theorem threadInv_of_alone {y : Fin (launchWidth args.numRays)} {s : Thread T U × HitArray T U}
    (h : (launchThreads args traceMode).Alone y (.entry, hits₀) s) :
    ThreadInv args traceMode y hits₀ s := by
  induction h with
  | refl => simp only [ThreadInv]
  | tail _ hstep ih => exact ThreadStep.threadInv hstep ih

/-- The stores, one after the other. -/
theorem alone_stores (traceMode : TraceMode) (y : Fin (launchWidth args.numRays))
    (prd : PRD T (U × U)) (todo : List HitField) (hits : HitArray T U) :
    ∃ hits', (launchThreads args traceMode).Alone y (.storing prd todo, hits)
        (.storing prd [], hits') ∧
      hits' (rayID y) = todo.foldl (HitField.store prd) (hits (rayID y)) := by
  induction todo generalizing hits with
  | nil => exact ⟨hits, .refl, rfl⟩
  | cons f todo ih =>
    obtain ⟨hits', hrun, heq⟩ := ih (Function.update hits (rayID y) (f.store prd (hits (rayID y))))
    rw [Function.update_self] at heq
    exact ⟨hits', .head (.store prd f todo hits) hrun, heq⟩

/-- A thread with a ray can store every record that its trace allows. -/
theorem alone_returns {y : Fin (launchWidth args.numRays)} {hits : HitArray T U}
    {hit : PrimeHit T (U × U)} (hguard : rayID y < intOfSize args.numRays)
    (hreport : CanReport args traceMode (rayID y) (hits (rayID y)) hit) :
    ∃ hits', (launchThreads args traceMode).Alone y (.entry, hits) (.returned, hits') ∧
      hits' (rayID y) = hit := by
  obtain ⟨uv₀, order, horder, rfl⟩ := hreport
  obtain ⟨hits', hstores, heq⟩ := alone_stores traceMode y _ HitField.all hits
  refine ⟨_, .head (.loadRay hits hguard) (.head (.setHurdle _ hits)
    (.head (.trace _ _ _ hits uv₀ order horder) (hstores.trans
      (.head (.loadHit _ hits') (.single (.storeHit _ hits')))))), ?_⟩
  rw [Function.update_self, heq]
  rfl

/-! ## All threads -/

/-- The hit records of the rays that a launch traces. -/
def Traced (numRays : UInt64) (r : ℤ) : Prop :=
  ∃ x < launchWidth numRays, rayID x = r ∧ r < intOfSize numRays

/-- What a launch leaves in a record. -/
theorem Launch.record {hits hits' : HitArray T U} (h : Launch args traceMode hits hits') (r : ℤ) :
    (Traced args.numRays r → CanReport args traceMode r (hits r) (hits' r)) ∧
      (¬ Traced args.numRays r → hits' r = hits r) := by
  obtain ⟨threads, hrun, hreturned⟩ := h
  cases howner : (launchThreads args traceMode).owner r with
  | none =>
    refine ⟨fun ⟨x, hx, hr, _⟩ => ?_, fun _ => Threads.Run.frame hrun howner⟩
    rw [launchThreads_owner (x := ⟨x, hx⟩) |>.mpr hr] at howner
    exact absurd howner (Option.some_ne_none _)
  | some y =>
    obtain ⟨n, halone, hn⟩ := Threads.alone_of_run hrun y
    have hend : (launchThreads args traceMode).Alone y (.entry, hits) (.returned, n) :=
      hreturned y ▸ halone
    have hinv := threadInv_of_alone hend
    obtain rfl := launchThreads_owner.mp howner
    simp only [ThreadInv, hn _ howner] at hinv
    refine ⟨fun ⟨_, _, _, hlt⟩ => hinv.1 hlt, fun hnot => hinv.2 (le_of_not_gt fun hlt => ?_)⟩
    exact hnot ⟨y, y.2, Eq.refl _, hlt⟩

/-- All combinations of records that the traces can store are possible. -/
theorem Launch.of_record {hits hits' : HitArray T U}
    (h : ∀ r, (Traced args.numRays r → CanReport args traceMode r (hits r) (hits' r)) ∧
      (¬ Traced args.numRays r → hits' r = hits r)) : Launch args traceMode hits hits' := by
  have halone : ∀ y : Fin (launchWidth args.numRays), ∃ n,
      (launchThreads args traceMode).Alone y (.entry, hits) (.returned, n) ∧
        n (rayID y) = hits' (rayID y) := by
    intro y
    rcases lt_or_ge (rayID y) (intOfSize args.numRays) with hguard | hguard
    · exact alone_returns hguard ((h _).1 ⟨y, y.2, Eq.refl _, hguard⟩)
    · refine ⟨hits, .single (.leave hits hguard), ((h _).2 fun ⟨_, _, _, hlt⟩ => ?_).symm⟩
      exact absurd hlt hguard.not_gt
  choose n hn hrecord using halone
  obtain ⟨m, hrun, hown, hother⟩ := Threads.run_of_alone (p := launchThreads args traceMode)
    (List.nodup_finRange _) (fun _ => .entry) (fun _ => .returned) fun y _ => hn y
  simp only [List.mem_finRange, if_true] at hrun
  have hm : m = hits' := by
    funext r
    by_cases howned : ∃ y : Fin (launchWidth args.numRays), rayID y = r
    · obtain ⟨y, rfl⟩ := howned
      rw [hown y (List.mem_finRange y) _ (launchThreads_owner.mpr (Eq.refl _)), hrecord]
    · have hsame : m r = hits r :=
        hother r fun y _ hy => howned ⟨y, launchThreads_owner.mp hy⟩
      rw [hsame, (h r).2]
      rintro ⟨x, hx, hr, -⟩
      exact howned ⟨⟨x, hx⟩, hr⟩
  exact ⟨_, hm ▸ hrun, fun _ => rfl⟩

/-- **A launch has the effect of its threads one after the other**: in whatever way
their steps interleave, each traced record is one that the trace of its ray can store,
started from the record that was there; the other records stay.  And all combinations
of such records are possible. -/
theorem launch_iff (args : TraceArgs T U) (traceMode : TraceMode) (hits hits' : HitArray T U) :
    Launch args traceMode hits hits' ↔
      ∀ r, (Traced args.numRays r → CanReport args traceMode r (hits r) (hits' r)) ∧
        (¬ Traced args.numRays r → hits' r = hits r) :=
  ⟨Launch.record, Launch.of_record⟩

/-! ### Launches come to an end -/

/-- How many steps a thread has still to take, at most. -/
def Thread.rank : Thread T U → ℕ
  | .entry => 11
  | .loaded _ => 10
  | .ready _ _ _ => 9
  | .storing _ todo => todo.length + 2
  | .copying _ => 1
  | .returned => 0

theorem ThreadStep.rank_lt {s s' : Thread T U × HitArray T U}
    (hstep : ThreadStep args traceMode x s s') : s'.1.rank < s.1.rank := by
  cases hstep <;> simp [Thread.rank, HitField.all]

/-- A thread that has not returned can go on, whatever the others do. -/
theorem exists_threadStep (args : TraceArgs T U) (traceMode : TraceMode) (x : ℕ)
    {thread : Thread T U} (h : thread ≠ .returned) (hits : HitArray T U) :
    ∃ s', ThreadStep args traceMode x (thread, hits) s' := by
  cases thread with
  | entry =>
    rcases lt_or_ge (rayID x) (intOfSize args.numRays) with hguard | hguard
    · exact ⟨_, .loadRay hits hguard⟩
    · exact ⟨_, .leave hits hguard⟩
  | loaded in_ray => exact ⟨_, .setHurdle in_ray hits⟩
  | ready in_ray hurdle tMin =>
    exact ⟨_, .trace in_ray hurdle tMin hits (hits 0).uv (args.cands (rayID x)).toList fun _ =>
      Finset.mem_toList⟩
  | storing prd todo =>
    cases todo with
    | nil => exact ⟨_, .loadHit prd hits⟩
    | cons f todo => exact ⟨_, .store prd f todo hits⟩
  | copying hit => exact ⟨_, .storeHit hit hits⟩
  | returned => exact absurd rfl h

/-- No schedule of the threads goes on for ever, and as long as a thread has not returned some
thread can take a step.  A trace is one step here, so that this is about what the threads do
around it. -/
theorem launch_completes (args : TraceArgs T U) (traceMode : TraceMode) :
    (WellFounded fun s' s => (launchThreads args traceMode).PoolStep s s') ∧
      ∀ s, (∀ s', ¬ (launchThreads args traceMode).PoolStep s s') →
        ∀ x, s.1 x = .returned := by
  refine ⟨Threads.wellFounded_poolStep fun x s s' => ThreadStep.rank_lt, fun s hstuck x => ?_⟩
  by_contra hx
  obtain ⟨⟨thread, hits⟩, hstep⟩ := exists_threadStep args traceMode x hx s.2
  exact hstuck (Function.update s.1 x thread, hits) ⟨x, thread, hstep, rfl⟩

/-! ## Repeated traces -/

/-- The rays that are traced, if their number is an `int`. -/
theorem traced_iff {numRays : UInt64} (h : numRays.toNat ≤ intMax) (r : ℤ) :
    Traced numRays r ↔ 0 ≤ r ∧ r < numRays.toNat := by
  have hint : intOfSize numRays = numRays.toNat := intOfSize_of_le h
  have hwidth : launchWidth numRays = numRays.toNat := by
    rw [launchWidth, toNat_uint32OfInt_intOfSize]
    exact Nat.mod_eq_of_lt (lt_of_le_of_lt h (by decide))
  have hrayID : ∀ x, x ≤ intMax → rayID x = x := fun x hx => bmod_of_le_intMax hx
  rw [Traced, hint, hwidth]
  constructor
  · rintro ⟨x, hx, rfl, hlt⟩
    rw [hrayID x (by omega)] at hlt ⊢
    omega
  · rintro ⟨hpos, hlt⟩
    refine ⟨r.toNat, by omega, ?_, hlt⟩
    rw [hrayID _ (by omega)]
    omega

/-- The mode of the calls of `vpTrace` on the same arrays: the first asks for the first
hits, the later ones for the next hits. -/
def modeOf (k : ℕ) : TraceMode := if k = 0 then .FIRST_HIT else .NEXT_HIT

/-- **Repeated traces do to each ray what they do to it alone**, whatever the threads of each
launch do at the same time: some choice of barycentrics and of orders gives the records that
they leave. -/
theorem exists_hits {hits : ℕ → HitArray T U}
    (hlaunch : ∀ k, Launch args (modeOf k) (hits k) (hits (k + 1))) {r : ℤ}
    (htraced : Traced args.numRays r) :
    ∃ uv₀ order, (∀ k c, c ∈ order k ↔ c ∈ args.cands r) ∧ ∀ k, hits (k + 1) r =
      Prime.hits args.nextLowerThan (args.rays r) (hits 0 r) uv₀ order k := by
  choose uv₀ order horder hreport using fun k => ((hlaunch k).record r).1 htraced
  refine ⟨uv₀, order, horder, fun k => ?_⟩
  induction k with
  | zero => exact hreport 0
  | succ k ih =>
    rw [hreport (k + 1), ih]
    rfl

/-- The records beyond the array stay. -/
theorem hits_eq_of_not_traced {hits : ℕ → HitArray T U}
    (hlaunch : ∀ k, Launch args (modeOf k) (hits k) (hits (k + 1))) {r : ℤ}
    (hnot : ¬ Traced args.numRays r) (k : ℕ) : hits k r = hits 0 r := by
  induction k with
  | zero => rfl
  | succ k ih => rw [((hlaunch k).record r).2 hnot, ih]

end Vulkanite.Prime
