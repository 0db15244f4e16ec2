/-
# Multi-hit iteration over floats

`nextLowerThan(f)` of the device code is `nextafter(f,-1.f)`.  It is the next float below
`f` only if `f` lies above `-1` (`nextLowerThan_lower_iff`); below `-1` it is the next one
above `f`.

A trace only compares distances, so that it can be followed on the places of floats in
their order: integers, one for each value.  On these `nextLowerThan` is `lowerPlace`.
The traces of a ray report all of its hits, whatever these are, if and only if the ray
does not begin below `-1` (`enumerates_iff`).  So repeated calls of `vpTrace` run through the
hits of all rays that do not (`vpTrace_enumerates`).

All of this takes of Vulkan that a trace calls the any-hit program also for a hit at the
current end of the ray (`deliver`); for traces that leave out such hits it does not hold.
-/
import Vulkanite.Lib.BinaryFloats
import Vulkanite.TraceLaunch

namespace Vulkanite.Prime

open BinaryFloats

/-! ## The float below -/

/-- `float`. -/
def binary32 : Format := ⟨8, 23, by decide⟩

/-- `-1.f`. -/
def minusOne : UInt32 := 0xbf800000

/-- `nextLowerThan`. -/
def nextLowerThan (f : UInt32) : UInt32 :=
  UInt32.ofNat (binary32.nextafter f.toNat minusOne.toNat)

/-- The bits are those of a NaN. -/
def isNaN (f : UInt32) : Prop := binary32.IsNaN f.toNat

instance (f : UInt32) : Decidable (isNaN f) := inferInstanceAs (Decidable (binary32.IsNaN _))

/-- The value of a float. -/
def floatValue (f : UInt32) : WithBot (WithTop ℚ) := binary32.value f.toNat

/-- The place of a float in the order of the values. -/
def floatPlace (f : UInt32) : ℤ := binary32.place f.toNat

/-- `nextLowerThan`, by places. -/
def lowerPlace (z : ℤ) : ℤ :=
  if z < floatPlace minusOne then z + 1
  else if floatPlace minusOne < z then z - 1
  else floatPlace minusOne

theorem isWord_toNat (f : UInt32) : binary32.IsWord f.toNat := f.toNat_lt

/-- What `nextLowerThan` does, by places. -/
theorem at_nextLowerThan {f : UInt32} (hf : ¬ isNaN f) :
    ¬ isNaN (nextLowerThan f) ∧ floatPlace (nextLowerThan f) = lowerPlace (floatPlace f) := by
  have hat := binary32.at_nextafter (isWord_toNat f) (isWord_toNat minusOne) hf (by decide)
  have hword : binary32.nextafter f.toNat minusOne.toNat < 2 ^ 32 := hat.word
  have htoNat : (nextLowerThan f).toNat = binary32.nextafter f.toNat minusOne.toNat := by
    rw [nextLowerThan, UInt32.toNat_ofNat', Nat.mod_eq_of_lt hword]
  rw [isNaN, floatPlace, htoNat]
  exact ⟨hat.notNaN, hat.place⟩

theorem floatValue_lt_iff {f g : UInt32} (hf : ¬ isNaN f) (hg : ¬ isNaN g) :
    floatValue f < floatValue g ↔ floatPlace f < floatPlace g := binary32.value_lt_iff hf hg

theorem floatValue_le_iff {f g : UInt32} (hf : ¬ isNaN f) (hg : ¬ isNaN g) :
    floatValue f ≤ floatValue g ↔ floatPlace f ≤ floatPlace g := binary32.value_le_iff hf hg

/-- **The float below**: `nextLowerThan` gives the greatest float below its argument, so that
the floats above it are those from the argument on, if and only if the argument is above
`-1`. -/
theorem nextLowerThan_lower_iff (f : UInt32) (hf : ¬ isNaN f) :
    (∀ g, ¬ isNaN g → (floatValue (nextLowerThan f) < floatValue g ↔ floatValue f ≤ floatValue g)) ↔
      floatValue minusOne < floatValue f := by
  obtain ⟨hn, hplace⟩ := at_nextLowerThan hf
  have hone : ¬ isNaN minusOne := by decide
  rw [floatValue_lt_iff hone hf]
  constructor
  · intro hlower
    have hself := hlower f hf
    rw [floatValue_lt_iff hn hf, hplace] at hself
    have hlt : lowerPlace (floatPlace f) < floatPlace f := hself.mpr le_rfl
    unfold lowerPlace at hlt
    split_ifs at hlt <;> omega
  · intro hlt g hg
    rw [floatValue_lt_iff hn hg, floatValue_le_iff hf hg, hplace, lowerPlace,
      if_neg hlt.not_gt, if_pos hlt]
    exact Int.sub_one_lt_iff

theorem nextLowerThan_lower_iff_one :
    floatValue (nextLowerThan 0x3f800000) < floatValue 0x3f800000 :=
  ((nextLowerThan_lower_iff 0x3f800000 (by decide)).mpr (by decide +kernel) 0x3f800000
    (by decide)).mpr le_rfl

/-- Below `-1` it goes up. -/
example : nextLowerThan 0xc0000000 = 0xbfffffff := by decide +kernel

/-! ## The traces of a ray -/

section Traces

variable {UV : Type*} {in_ray : PrimeRay ℤ} {cands : Finset (Candidate ℤ UV)}
  {hit₀ : PrimeHit ℤ UV} {uv₀ : ℕ → UV} {order : ℕ → List (Candidate ℤ UV)}

/-- Whatever a first trace and the next ones start from, and in whatever order each of them
meets the candidates, they report the candidates in increasing order, each once, and from
then on the no-hit record. -/
def Enumerates (lower : ℤ → ℤ) (in_ray : PrimeRay ℤ) (cands : Finset (Candidate ℤ UV)) : Prop :=
  ∀ (hit₀ : PrimeHit ℤ UV) (uv₀ : ℕ → UV) (order : ℕ → List (Candidate ℤ UV)),
    (∀ k c, c ∈ order k ↔ c ∈ cands) →
    ∃ l : List (Candidate ℤ UV), l.Pairwise (fun a b => less a.hit b.hit = true) ∧
      (∀ c, c ∈ l ↔ c ∈ cands) ∧
      (∀ k (hk : k < l.length), hits lower in_ray hit₀ uv₀ order k = (l[k]).record) ∧
      ∀ k, l.length ≤ k → (hits lower in_ray hit₀ uv₀ order k).hit = noHit in_ray

/-- Where every place has one below, the traces report all candidates. -/
theorem enumerates_pred (h : IsCandidateSet in_ray cands) : Enumerates (· - 1) in_ray cands := by
  intro hit₀ uv₀ order horder
  have hnext : ∀ x y : ℤ, x - 1 < y ↔ x ≤ y := fun x y => Int.sub_one_lt_iff
  obtain ⟨l, hsorted, hl⟩ := h.exists_sorted
  have henum : ∀ k, (hits (· - 1) in_ray hit₀ uv₀ order k).hit.key =
      (l.map fun c => c.hit.key).getD k (noHit in_ray).key := by
    refine NextEnumeration.eq_getD_of_isNextAbove (List.pairwise_map.mpr hsorted)
      (h := (hurdleOf (· - 1) .FIRST_HIT in_ray hit₀).1.key) ?_ ?_ ?_ fun k => ?_
    · intro y hy
      obtain ⟨c, hc, rfl⟩ := List.mem_map.mp hy
      exact h.key_lt_noHit ((hl c).mp hc)
    · intro y hy
      obtain ⟨c, hc, rfl⟩ := List.mem_map.mp hy
      exact h.first_hurdle_lt (· - 1) hit₀ ((hl c).mp hc)
    · exact traceRays_isNextAbove h hnext .FIRST_HIT hit₀ (uv₀ 0) (horder 0) hl
    · exact traceRays_isNextAbove h hnext .NEXT_HIT _ (uv₀ (k + 1)) (horder (k + 1)) hl
  refine ⟨l, hsorted.imp less_iff.mpr, hl, fun k hk => ?_, fun k hk => ?_⟩
  · refine hits_eq_record h hnext horder ((hl _).mp (List.getElem_mem hk)) ?_
    rw [henum k, List.getD_eq_getElem _ _ (by simpa using hk), List.getElem_map]
  · have hkey := henum k
    rw [List.getD_eq_default _ _ (by simpa using hk)] at hkey
    exact HitRef.key_injective hkey

/-- What a trace stores lies beyond the begin of the ray. -/
theorem tMin_lt_hits (hit₀ : PrimeHit ℤ UV) (uv₀ : ℕ → UV) (h : IsCandidateSet in_ray cands)
    (hray : in_ray.tMin < in_ray.tMax) (horder : ∀ k c, c ∈ order k ↔ c ∈ cands) (k : ℕ) :
    in_ray.tMin < (hits (· - 1) in_ray hit₀ uv₀ order k).t := by
  obtain ⟨l, -, hl, hrecord, hnone⟩ := enumerates_pred h hit₀ uv₀ order horder
  rcases Nat.lt_or_ge k l.length with hk | hk
  · rw [hrecord k hk]
    exact h.tMin_lt _ ((hl _).mp (List.getElem_mem hk))
  · have ht : (hits (· - 1) in_ray hit₀ uv₀ order k).t = in_ray.tMax :=
      congrArg HitRef.t (hnone k hk)
    rwa [ht]

/-- The traces only ask for the float below of distances beyond the begin of the ray. -/
theorem hits_congr {lower : ℤ → ℤ} (hlower : ∀ z, in_ray.tMin < z → lower z = z - 1)
    (h : IsCandidateSet in_ray cands) (hray : in_ray.tMin < in_ray.tMax)
    (horder : ∀ k c, c ∈ order k ↔ c ∈ cands) (k : ℕ) :
    hits lower in_ray hit₀ uv₀ order k = hits (· - 1) in_ray hit₀ uv₀ order k := by
  induction k with
  | zero => rfl
  | succ k ih =>
    have ht := hlower _ (tMin_lt_hits hit₀ uv₀ h hray horder k)
    simp only [hits, ih, traceRays, hurdleOf, ht]

/-- A ray that begins at all candidates or beyond meets none. -/
theorem traceRay_eq_self {tMin tMax : ℤ} {prd : PRD ℤ UV} {cs : List (Candidate ℤ UV)}
    (hcs : ∀ c ∈ cs, c.hit.t ≤ tMin) : traceRay tMin tMax prd cs = prd := by
  have hfold : cs.foldl (deliver tMin) ⟨prd, tMax⟩ = ⟨prd, tMax⟩ := by
    induction cs with
    | nil => rfl
    | cons c cs ih =>
      have hc := hcs c List.mem_cons_self
      rw [List.foldl_cons, deliver, if_neg fun hdelivered => absurd hdelivered.1 hc.not_gt]
      exact ih fun c' hc' => hcs c' (List.mem_cons_of_mem c hc')
  rw [traceRay, hfold]

/-- A hit of a triangle at a distance. -/
def hitAt (z primID : ℤ) : Candidate ℤ (UInt32 × UInt32) := ⟨⟨primID, 0, 0, z⟩, (0, 0)⟩

/-- Two hits at one distance. -/
def twoHits (z : ℤ) : List (Candidate ℤ (UInt32 × UInt32)) := [hitAt z 0, hitAt z 1]

theorem eq_of_mem_twoHits {z : ℤ} {c : Candidate ℤ (UInt32 × UInt32)} (hc : c ∈ twoHits z) :
    c = hitAt z 0 ∨ c = hitAt z 1 := by simpa [twoHits] using hc

theorem isCandidateSet_twoHits {z : ℤ} (hmin : in_ray.tMin < z) (hmax : z ≤ in_ray.tMax) :
    IsCandidateSet in_ray (twoHits z).toFinset := by
  have hmem : ∀ c ∈ (twoHits z).toFinset, c = hitAt z 0 ∨ c = hitAt z 1 := fun c hc =>
    eq_of_mem_twoHits (List.mem_toFinset.mp hc)
  refine ⟨fun c hc c' hc' heq => ?_, ?_, ?_, ?_, ?_, ?_⟩
  · rcases hmem c hc with rfl | rfl <;> rcases hmem c' hc' with rfl | rfl <;>
      simp [hitAt] at heq ⊢
  all_goals
    intro c hc
    rcases hmem c hc with rfl | rfl <;> simp [hitAt, INT_MAX, hmin, hmax]

/-- Of two hits at a distance that `nextLowerThan` does not lower the second is missed: after
the first the ray begins there or beyond. -/
theorem not_enumerates {lower : ℤ → ℤ} {z : ℤ} (hlower : z ≤ lower z) :
    ¬ Enumerates lower in_ray (twoHits z).toFinset := by
  intro hall
  obtain ⟨l, -, hl, hrecord, -⟩ := hall ⟨0, 0, 0, 0, (0, 0)⟩ (fun _ => (0, 0))
    (fun _ => twoHits z) fun _ c => List.mem_toFinset.symm
  have ht : ∀ c ∈ twoHits z, c.hit.t = z := fun c hc => by
    rcases eq_of_mem_twoHits hc with rfl | rfl <;> rfl
  have hmem : ∀ c ∈ l, c ∈ twoHits z := fun c hc => List.mem_toFinset.mp ((hl c).mp hc)
  have hlength : 1 < l.length := by
    have hsub : (twoHits z).toFinset ⊆ l.toFinset := fun c hc =>
      List.mem_toFinset.mpr ((hl c).mpr hc)
    have hcard : (twoHits z).toFinset.card = 2 := by
      rw [List.toFinset_card_of_nodup (by simp [twoHits, hitAt])]
      rfl
    have hle := (Finset.card_le_card hsub).trans l.toFinset_card_le
    omega
  have hpos : 0 < l.length := by omega
  have hfirst := hrecord 0 hpos
  have hsecond := hrecord 1 hlength
  have htMin : l[0].record.t = z := ht _ (hmem _ (List.getElem_mem _))
  -- the second trace meets nothing
  have hmiss : (l[1].record).primID = INT_MAX := by
    rw [← hsecond, hits, hfirst]
    simp only [traceRays, hurdleOf, htMin]
    rw [traceRay_eq_self fun c hc => (ht c hc).le.trans hlower]
    rfl
  rcases eq_of_mem_twoHits (hmem _ (List.getElem_mem hlength)) with heq | heq
  · rw [heq] at hmiss
    exact absurd hmiss (by simp [hitAt, Candidate.record, INT_MAX])
  · rw [heq] at hmiss
    exact absurd hmiss (by simp [hitAt, Candidate.record, INT_MAX])

/-- Rays that do not begin below `-1`. -/
theorem enumerates_lowerPlace (hray : in_ray.tMin < in_ray.tMax)
    (hle : floatPlace minusOne ≤ in_ray.tMin) (hcands : IsCandidateSet in_ray cands) :
    Enumerates lowerPlace in_ray cands := by
  intro hit₀ uv₀ order horder
  have hlower : ∀ z, in_ray.tMin < z → lowerPlace z = z - 1 := fun z hz => by
    rw [lowerPlace, if_neg (by omega), if_pos (by omega)]
  obtain ⟨l, hsorted, hl, hrecord, hnone⟩ := enumerates_pred hcands hit₀ uv₀ order horder
  refine ⟨l, hsorted, hl, fun k hk => ?_, fun k hk => ?_⟩
  · exact (hits_congr hlower hcands hray horder k).trans (hrecord k hk)
  · exact (congrArg PrimeHit.hit (hits_congr hlower hcands hray horder k)).trans (hnone k hk)

/-- **The traces of a ray of floats report all hits**, whatever these are and in whatever order
they are delivered, up to and including the current end of the ray, if and only if the ray
does not begin below `-1`. -/
theorem enumerates_iff (tMin tMax : UInt32) (hmin : ¬ isNaN tMin) (hmax : ¬ isNaN tMax)
    (hray : floatValue tMin < floatValue tMax) :
    (∀ cands : Finset (Candidate ℤ (UInt32 × UInt32)),
        IsCandidateSet ⟨floatPlace tMin, floatPlace tMax⟩ cands →
        Enumerates lowerPlace ⟨floatPlace tMin, floatPlace tMax⟩ cands) ↔
      floatValue minusOne ≤ floatValue tMin := by
  rw [floatValue_lt_iff hmin hmax] at hray
  rw [floatValue_le_iff (by decide) hmin]
  constructor
  · intro hall
    by_contra hlt
    -- two hits at `-1`, or at the end of the ray if that is nearer
    refine not_enumerates (z := min (floatPlace tMax) (floatPlace minusOne)) ?_ (hall _ ?_)
    · unfold lowerPlace
      split_ifs <;> omega
    · exact isCandidateSet_twoHits (lt_min hray (not_le.mp hlt)) (min_le_left _ _)
  · exact fun hle cands hcands => enumerates_lowerPlace hray hle hcands

/-- Two hits at the end of a ray from zero to one. -/
theorem enumerates_iff_unit : Enumerates lowerPlace ⟨floatPlace 0, floatPlace 0x3f800000⟩
    (twoHits (floatPlace 0x3f800000)).toFinset :=
  (enumerates_iff 0 0x3f800000 (by decide) (by decide) (by decide +kernel)).mpr
    (by decide +kernel) _ (isCandidateSet_twoHits (by decide +kernel) le_rfl)

end Traces

/-! ## Repeated calls of `vpTrace` -/

/-- Repeated traces enumerate the hits of all rays, whatever the threads of each launch
do at the same time: the `k`-th trace leaves in the record of every ray its `k`-th hit, or the
no-hit record when there are no more, and touches no record outside the array. -/
theorem vpTrace_enumerates {U : Type*} (args : TraceArgs ℤ U)
    (hlower : args.nextLowerThan = lowerPlace) (hrays : args.numRays.toNat ≤ intMax)
    (hits : ℕ → HitArray ℤ U) (hlaunch : ∀ k, Launch args (modeOf k) (hits k) (hits (k + 1)))
    (r : ℤ) :
    (0 ≤ r ∧ r < args.numRays.toNat → (args.rays r).tMin < (args.rays r).tMax →
      floatPlace minusOne ≤ (args.rays r).tMin → IsCandidateSet (args.rays r) (args.cands r) →
      ∃ l : List (Candidate ℤ (U × U)), l.Pairwise (fun a b => less a.hit b.hit = true) ∧
        (∀ c, c ∈ l ↔ c ∈ args.cands r) ∧
        (∀ k (hk : k < l.length), hits (k + 1) r = (l[k]).record) ∧
        ∀ k, l.length ≤ k → (hits (k + 1) r).hit = noHit (args.rays r)) ∧
      (¬ (0 ≤ r ∧ r < args.numRays.toNat) → ∀ k, hits k r = hits 0 r) := by
  rw [← traced_iff hrays]
  refine ⟨fun htraced hray hle hcands => ?_, fun hnot => hits_eq_of_not_traced hlaunch hnot⟩
  obtain ⟨uv₀, order, horder, hhits⟩ := exists_hits hlaunch htraced
  rw [hlower] at hhits
  obtain ⟨l, hsorted, hl, hrecord, hnone⟩ :=
    enumerates_lowerPlace hray hle hcands (hits 0 r) uv₀ order horder
  refine ⟨l, hsorted, hl, fun k hk => ?_, fun k hk => ?_⟩
  · rw [hhits k, hrecord k hk]
  · rw [hhits k, hnone k hk]

end Vulkanite.Prime
