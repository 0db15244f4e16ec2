/-
# The records of the prime library

`vpTrace` passes the application's arrays of `VPRay` and `VPHit` (`prime.h`) to the
device, whose code declares them as arrays of `PrimeRay` and `PrimeHit`
(`deviceCode.h`).  The two declarations meet in a cast only, so what the device reads
and the host finds depends on the layouts.  The device code is compiled with
`-force-glsl-scalar-layout`, which places scalars as C++ does.

The two declarations of a ray agree.  Those of a hit do not: `VPHit` has 32 bytes and
begins with a 64-bit value that `PrimeHit`, of 24 bytes, does not have.  So there are no
hits that the host reads right, whatever was in their array before (`recordsSurvive_iff`).
A float is its 32 bits here.
-/
import Vulkanite.Lib.StructLayout

namespace Vulkanite.Prime.Records

open StructLayout

/-! ## Rays -/

/-- `VPfloat3`, and the device's `float3`. -/
structure Float3 where
  x : UInt32
  y : UInt32
  z : UInt32
  deriving DecidableEq, Repr

/-- The host's `VPRay`. -/
structure VPRay where
  origin : Float3
  tMin : UInt32
  direction : Float3
  tMax : UInt32
  deriving DecidableEq, Repr

def VPRay.layout : Layout := [4, 4, 4, 4, 4, 4, 4, 4]

/-- The scalars of a ray, in order. -/
def VPRay.words (r : VPRay) : List UInt32 :=
  [r.origin.x, r.origin.y, r.origin.z, r.tMin,
   r.direction.x, r.direction.y, r.direction.z, r.tMax]

/-- The application's `arrayOfRays` in memory. -/
def storeRays (m : Memory) (arrayOfRays : List VPRay) : Memory :=
  storeArray VPRay.layout m (arrayOfRays.map VPRay.words)

/-- The device's `PrimeRay`. -/
structure PrimeRay where
  org : Float3
  tMin : UInt32
  dir : Float3
  tMax : UInt32
  deriving DecidableEq, Repr

def PrimeRay.layout : Layout := [4, 4, 4, 4, 4, 4, 4, 4]

/-- `rays[i]` on the device. -/
def PrimeRay.load (m : Memory) (i : ℕ) : PrimeRay :=
  let field k := load32 m (i * size layout + offset layout k)
  { org := ⟨field 0, field 1, field 2⟩
    tMin := field 3
    dir := ⟨field 4, field 5, field 6⟩
    tMax := field 7 }

/-! ## Mesh IDs -/

/-- `Mesh`, as far as its ID goes. -/
structure Mesh where
  geomID : Int32

/-- `Context::createMesh`, whose parameter is a `uint32_t`; that of `Mesh::Mesh` is an
`int`. -/
def createMesh (geomID : UInt32) : Mesh := ⟨geomID.toInt32⟩

/-- `vpMeshCreate`. -/
def vpMeshCreate (userGeomID : UInt64) : Mesh := createMesh userGeomID.toUInt32

/-- `TrianglesGeomData`, which `Mesh::Mesh` passes to the device. -/
structure TrianglesGeomData where
  geomID : UInt32

def Mesh.data (mesh : Mesh) : TrianglesGeomData := ⟨mesh.geomID.toUInt32⟩

/-- `geomID` of `currentHit`, an `int` of the device. -/
def currentGeomID (self : TrianglesGeomData) : Int32 := self.geomID.toInt32

/-! ## Hits -/

/-- The device's `PrimeHit`. -/
structure PrimeHit where
  primID : Int32
  geomID : Int32
  instID : Int32
  t : UInt32
  u : UInt32
  v : UInt32
  deriving DecidableEq, Repr

def PrimeHit.layout : Layout := [4, 4, 4, 4, 4, 4]

/-- The scalars of a hit, in order. -/
def PrimeHit.words (h : PrimeHit) : List UInt32 :=
  [h.primID.toUInt32, h.geomID.toUInt32, h.instID.toUInt32, h.t, h.u, h.v]

/-- The host's `VPHit`. -/
structure VPHit where
  geomDataValue : UInt64
  primID : Int32
  instID : Int32
  t : UInt32
  u : UInt32
  v : UInt32
  deriving DecidableEq, Repr

def VPHit.layout : Layout := [8, 4, 4, 4, 4, 4]

/-- `arrayOfHits[i]` on the host. -/
def VPHit.load (m : Memory) (i : ℕ) : VPHit :=
  let addr k := i * size layout + offset layout k
  { geomDataValue := load64 m (addr 0)
    primID := (load32 m (addr 1)).toInt32
    instID := (load32 m (addr 2)).toInt32
    t := load32 m (addr 3)
    u := load32 m (addr 4)
    v := load32 m (addr 5) }

/-- `INT_MAX` of the device code. -/
def INT_MAX : Int32 := 0x7fffffff

/-- What the trace of one ray ended with: nothing, with the end of the ray and what its
barycentrics happened to hold, or a hit in the mesh with this `userGeomID`.  The triangles
of a mesh are counted by an `int`, so the index of one is less than `INT_MAX`. -/
inductive Outcome where
  | miss (tMax u v : UInt32)
  | hit (userGeomID : UInt64) (primID instID : Int32) (t u v : UInt32) (hprimID : 0 ≤ primID)
      (hlt : primID < INT_MAX)

/-- The hit that `traceRays` writes. -/
def Outcome.record : Outcome → PrimeHit
  | miss tMax u v => ⟨INT_MAX, INT_MAX, INT_MAX, tMax, u, v⟩
  | hit userGeomID primID instID t u v _ _ =>
    ⟨primID, currentGeomID (vpMeshCreate userGeomID).data, instID, t, u, v⟩

/-- Memory after the device has written `hits[i]` for every ray. -/
def storeHits (m : Memory) (outcomes : List Outcome) : Memory :=
  storeArray PrimeHit.layout m (outcomes.map fun o => o.record.words)

/-- What `prime.h` promises about the hit that the host reads. -/
def Outcome.IsReadAs : Outcome → VPHit → Prop
  | miss _ _ _, h => h.primID = -1
  | hit userGeomID primID instID t u v _ _, h =>
    h.geomDataValue = userGeomID ∧ h.primID = primID ∧ h.instID = instID ∧
      h.t = t ∧ h.u = u ∧ h.v = v

/-- The device reads the rays that the host wrote. -/
def RaysSurvive (m : Memory) (arrayOfRays : List VPRay) : Prop :=
  ∀ i (hi : i < arrayOfRays.length), PrimeRay.load (storeRays m arrayOfRays) i =
    ⟨arrayOfRays[i].origin, arrayOfRays[i].tMin, arrayOfRays[i].direction, arrayOfRays[i].tMax⟩

/-- The host reads the hits that the device wrote. -/
def HitsSurvive (m : Memory) (outcomes : List Outcome) : Prop :=
  ∀ i (hi : i < outcomes.length), outcomes[i].IsReadAs (VPHit.load (storeHits m outcomes) i)

/-- The records of `numRays` rays survive, whatever the rays and the hits are. -/
def RecordsSurvive (numRays : ℕ) : Prop :=
  (∀ m arrayOfRays, arrayOfRays.length = numRays → RaysSurvive m arrayOfRays) ∧
    ∀ m outcomes, outcomes.length = numRays → HitsSurvive m outcomes

/-! ## What survives -/

/-- **Rays survive.** -/
theorem raysSurvive (m : Memory) (arrayOfRays : List VPRay) : RaysSurvive m arrayOfRays := by
  intro i hi
  have hword : ∀ k, k < 8 → load32 (storeRays m arrayOfRays) (i * 32 + 4 * k) =
      arrayOfRays[i].words.getD k 0 := by
    intro k hk
    have hstore := storeArray_map_apply (w := 8) (f := VPRay.words) (by decide) (fun _ => rfl)
      m hi hk
    rw [load32, show (i * 32 + 4 * k) / 4 = 8 * i + k by omega]
    exact hstore
  have hfield : ∀ k, k < 8 → load32 (storeRays m arrayOfRays)
      (i * size PrimeRay.layout + offset PrimeRay.layout k) = arrayOfRays[i].words.getD k 0 := by
    intro k hk
    have hoffset : offset PrimeRay.layout k = 4 * k := by
      interval_cases k <;> rfl
    rw [hoffset]
    exact hword k hk
  unfold PrimeRay.load
  simp only [hfield 0 (by decide), hfield 1 (by decide), hfield 2 (by decide),
    hfield 3 (by decide), hfield 4 (by decide), hfield 5 (by decide), hfield 6 (by decide),
    hfield 7 (by decide)]
  rfl

/-- The words from `arrayOfHits` on, after the trace. -/
theorem storeHits_apply (m : Memory) (outcomes : List Outcome) (j : ℕ) :
    storeHits m outcomes j = if j < 6 * outcomes.length then
      ((outcomes.map fun o => o.record.words).getD (j / 6) []).getD (j % 6) 0 else m j := by
  have hlen : ∀ ws ∈ outcomes.map fun o => o.record.words, ws.length = 6 := by
    intro ws hws
    obtain ⟨o, -, rfl⟩ := List.mem_map.mp hws
    rfl
  have hstore := storeArray_apply (w := 6) (by decide) hlen m j
  rw [List.length_map] at hstore
  exact hstore

/-- A word of the hit that the device wrote for the ray `i`. -/
theorem storeHits_record (m : Memory) {outcomes : List Outcome} {i k : ℕ}
    (hi : i < outcomes.length) (hk : k < 6) :
    storeHits m outcomes (6 * i + k) = outcomes[i].record.words.getD k 0 := by
  have hstore := storeArray_map_apply (w := 6) (f := fun o : Outcome => o.record.words)
    (by decide) (fun _ => rfl) m hi hk
  exact hstore

/-- Behind the hits that the device wrote the memory is as it was. -/
theorem storeHits_behind (m : Memory) {outcomes : List Outcome} {j : ℕ}
    (hj : 6 * outcomes.length ≤ j) : storeHits m outcomes j = m j := by
  rw [storeHits_apply, if_neg hj.not_gt]

/-- The host takes a hit from eight words. -/
theorem VPHit.load_eq (m : Memory) (i : ℕ) :
    VPHit.load m i =
      { geomDataValue := UInt64.ofNat ((m (8 * i)).toNat + 2 ^ 32 * (m (8 * i + 1)).toNat)
        primID := (m (8 * i + 2)).toInt32
        instID := (m (8 * i + 3)).toInt32
        t := m (8 * i + 4)
        u := m (8 * i + 5)
        v := m (8 * i + 6) } := by
  have hsize : size VPHit.layout = 32 := rfl
  have hoffset : ∀ k, k < 6 → offset VPHit.layout k = [0, 8, 12, 16, 20, 24].getD k 0 := by
    intro k hk
    interval_cases k <;> rfl
  have haddr : ∀ c, (i * 32 + 4 * c) / 4 = 8 * i + c := fun c => by omega
  unfold VPHit.load load64 load32
  simp only [hsize, hoffset 0 (by decide), hoffset 1 (by decide), hoffset 2 (by decide),
    hoffset 3 (by decide), hoffset 4 (by decide), hoffset 5 (by decide)]
  simp only [List.getD_cons_zero, List.getD_cons_succ]
  simp only [show (i * 32 + 0) / 4 = 8 * i from haddr 0,
    show (i * 32 + 8) / 4 = 8 * i + 2 from haddr 2,
    show (i * 32 + 12) / 4 = 8 * i + 3 from haddr 3,
    show (i * 32 + 16) / 4 = 8 * i + 4 from haddr 4,
    show (i * 32 + 20) / 4 = 8 * i + 5 from haddr 5,
    show (i * 32 + 24) / 4 = 8 * i + 6 from haddr 6]

/-- The words hold the fields of the outcome at the places where the host looks. -/
def Outcome.Coincides (w : ℕ → UInt32) (i : ℕ) : Outcome → Prop
  | miss _ _ _ => w (8 * i + 2) = 0xffffffff
  | hit userGeomID primID instID t u v _ _ =>
    (w (8 * i)).toNat = userGeomID.toNat % 2 ^ 32 ∧
      (w (8 * i + 1)).toNat = userGeomID.toNat / 2 ^ 32 ∧
      w (8 * i + 2) = primID.toUInt32 ∧ w (8 * i + 3) = instID.toUInt32 ∧
      w (8 * i + 4) = t ∧ w (8 * i + 5) = u ∧ w (8 * i + 6) = v

theorem toInt32_eq_iff {w : UInt32} {n : Int32} : w.toInt32 = n ↔ w = n.toUInt32 := by
  constructor
  · rintro rfl
    rw [UInt32.toUInt32_toInt32]
  · rintro rfl
    rw [Int32.toInt32_toUInt32]

/-- A 64-bit value is its two words. -/
theorem ofNat_words_eq_iff {lo hi : UInt32} {v : UInt64} :
    UInt64.ofNat (lo.toNat + 2 ^ 32 * hi.toNat) = v ↔
      lo.toNat = v.toNat % 2 ^ 32 ∧ hi.toNat = v.toNat / 2 ^ 32 := by
  have hlo := lo.toNat_lt
  have hhi := hi.toNat_lt
  have hv := v.toNat_lt
  rw [← UInt64.toNat_inj, UInt64.toNat_ofNat', Nat.mod_eq_of_lt (by omega)]
  omega

theorem hitsSurvive_iff (m : Memory) (outcomes : List Outcome) :
    HitsSurvive m outcomes ↔
      ∀ i (hi : i < outcomes.length), outcomes[i].Coincides (storeHits m outcomes) i := by
  have hone : ∀ (o : Outcome) (i : ℕ), o.IsReadAs (VPHit.load (storeHits m outcomes) i) ↔
      o.Coincides (storeHits m outcomes) i := by
    intro o i
    rw [VPHit.load_eq]
    cases o with
    | miss tMax u v => exact toInt32_eq_iff
    | hit userGeomID primID instID t u v hprimID hlt =>
      simp only [Outcome.IsReadAs, Outcome.Coincides, ofNat_words_eq_iff, toInt32_eq_iff,
        and_assoc]
  simp only [HitsSurvive, hone]

/-- A hit with one word in all of its fields. -/
def Outcome.repeated (primID : Int32) (hprimID : 0 ≤ primID) (hlt : primID < INT_MAX) : Outcome :=
  let w := primID.toUInt32
  .hit (UInt64.ofNat (w.toNat + 2 ^ 32 * w.toNat)) primID primID w w w hprimID hlt

/-- The geometry ID on the device is the lower half of the application's. -/
theorem toUInt32_currentGeomID (userGeomID : UInt64) :
    (currentGeomID (vpMeshCreate userGeomID).data).toUInt32 = userGeomID.toUInt32 := by
  simp only [currentGeomID, Mesh.data, vpMeshCreate, createMesh, UInt32.toUInt32_toInt32]

/-- If the host reads the first hit right, there is one word in all of its fields, and in
what lies behind it: the host looks for each field where the device has another one. -/
theorem HitsSurvive.first {m : Memory} {o : Outcome} {outcomes : List Outcome}
    (h : HitsSurvive m (o :: outcomes)) : ∃ primID hprimID hlt,
      o = .repeated primID hprimID hlt ∧ storeHits m (o :: outcomes) 6 = primID.toUInt32 := by
  have hpos : 0 < (o :: outcomes).length := Nat.succ_pos _
  have hword : ∀ k, k < 6 → storeHits m (o :: outcomes) k = o.record.words.getD k 0 := by
    intro k hk
    have hstore := storeHits_record m hpos hk
    rwa [Nat.mul_zero, Nat.zero_add] at hstore
  have hfirst : o.Coincides (storeHits m (o :: outcomes)) 0 := (hitsSurvive_iff m _).mp h 0 hpos
  cases o with
  | miss tMax u v =>
    -- the host's `primID` is where the device has `instID`
    have hinstID : (0xffffffff : UInt32) = INT_MAX.toUInt32 :=
      hfirst.symm.trans (hword 2 (by decide))
    exact absurd hinstID (by decide)
  | hit userGeomID primID instID t u v hprimID hlt =>
    obtain ⟨hlow, hhigh, hprim, hinst, ht, hu, hv⟩ := hfirst
    rw [hword 0 (by decide)] at hlow
    rw [hword 1 (by decide)] at hhigh
    rw [hword 2 (by decide)] at hprim
    rw [hword 3 (by decide)] at hinst
    rw [hword 4 (by decide)] at ht
    rw [hword 5 (by decide)] at hu
    simp only [Outcome.record, PrimeHit.words, List.getD_cons_zero, List.getD_cons_succ,
      toUInt32_currentGeomID, UInt64.toNat_toUInt32] at hlow hhigh hprim hinst ht hu
    obtain rfl : instID = primID :=
      (Int32.toInt32_toUInt32 _).symm.trans (toInt32_eq_iff.mpr hprim)
    subst hinst ht hu
    refine ⟨instID, hprimID, hlt, ?_, hv⟩
    have hgeomID : UInt64.ofNat (instID.toUInt32.toNat + 2 ^ 32 * instID.toUInt32.toNat) =
        userGeomID := ofNat_words_eq_iff.mpr ⟨hlow, hlow.trans hhigh⟩
    rw [Outcome.repeated, hgeomID]

/-- The host reads the hits right whatever was in their array before, only if there are none:
it looks for the last hit behind what the device has written. -/
theorem eq_nil_of_hitsSurvive {outcomes : List Outcome} (h : ∀ m, HitsSurvive m outcomes) :
    outcomes = [] := by
  cases outcomes with
  | nil => rfl
  | cons o outcomes =>
    exfalso
    have hbehind : ∀ j w, 6 * (o :: outcomes).length ≤ j →
        ¬ ∀ m, storeHits m (o :: outcomes) j = w := by
      intro j w hj hw
      have hsame := (hw fun _ => 0).trans (hw fun _ => 1).symm
      rw [storeHits_behind _ hj, storeHits_behind _ hj] at hsame
      exact absurd hsame (by decide)
    obtain ⟨primID, hprimID, hlt, rfl, hsixth⟩ := (h fun _ => 0).first
    have hlast : outcomes.length < (Outcome.repeated primID hprimID hlt :: outcomes).length :=
      Nat.lt_succ_self _
    have hcoincides := fun m => (hitsSurvive_iff m _).mp (h m) _ hlast
    rw [List.length_cons] at hbehind
    cases ho : (Outcome.repeated primID hprimID hlt :: outcomes)[outcomes.length] with
    | hit userGeomID' primID' instID' t' u' v' hprimID' hlt' =>
      simp only [ho] at hcoincides
      exact hbehind (8 * outcomes.length + 6) v' (by omega) fun m => (hcoincides m).2.2.2.2.2.2
    | miss tMax u v =>
      simp only [ho] at hcoincides
      rcases Nat.lt_or_ge outcomes.length 2 with hshort | hlong
      · -- one or two hits, the second of which is in the sixth word
        have hstored := storeHits_record (fun _ => 0) hlast (k := 0) (by decide)
        rw [ho] at hstored
        interval_cases hlen : outcomes.length
        · obtain rfl := List.length_eq_zero_iff.mp hlen
          cases ho
        · have hmax : primID.toUInt32 = INT_MAX.toUInt32 := hsixth.symm.trans hstored
          obtain rfl : primID = INT_MAX :=
            (Int32.toInt32_toUInt32 _).symm.trans (toInt32_eq_iff.mpr hmax)
          exact absurd hlt (by decide)
      · exact hbehind (8 * outcomes.length + 2) 0xffffffff (by omega) hcoincides

/-- **When the records survive the boundary.**  The rays always do.  The hits of `numRays`
rays do for every scene exactly if there are none, and so do given hits of given rays,
whatever was in their array before. -/
theorem recordsSurvive_iff (numRays : ℕ) (arrayOfRays : List VPRay) (outcomes : List Outcome) :
    (RecordsSurvive numRays ↔ numRays = 0) ∧
      ((∀ m, RaysSurvive m arrayOfRays ∧ HitsSurvive m outcomes) ↔ outcomes = []) ∧
      ∀ m, RaysSurvive m arrayOfRays := by
  have hnil : ∀ m, HitsSurvive m [] := fun m i hi => absurd hi (Nat.not_lt_zero i)
  refine ⟨⟨?_, ?_⟩, ⟨fun h => ?_, ?_⟩, fun m => raysSurvive m arrayOfRays⟩
  · rintro ⟨-, hhits⟩
    have hmiss := eq_nil_of_hitsSurvive fun m =>
      hhits m (List.replicate numRays (.miss 0 0 0)) List.length_replicate
    simpa using hmiss
  · rintro rfl
    refine ⟨fun m rays _ => raysSurvive m rays, fun m outcomes hlen => ?_⟩
    rw [List.length_eq_zero_iff.mp hlen]
    exact hnil m
  · exact eq_nil_of_hitsSurvive fun m => (h m).2
  · rintro rfl
    exact fun m => ⟨raysSurvive m arrayOfRays, hnil m⟩

/-- One ray that hits the triangle 3 of instance 5 in the mesh 7, and one that hits
nothing. -/
def sampleOutcomes : List Outcome := [.hit 7 3 5 10 20 30 (by decide) (by decide), .miss 40 0 0]

/-- The host finds the instance in `primID`, and no hit looks like one. -/
theorem sampleOutcomes_misread :
    VPHit.load (storeHits (fun _ => 0) sampleOutcomes) 0 =
        ⟨0x700000003, 5, 10, 20, 30, INT_MAX.toUInt32⟩ ∧
      (VPHit.load (storeHits (fun _ => 0) sampleOutcomes) 1).primID ≠ -1 ∧
      ¬ HitsSurvive (fun _ => 0) sampleOutcomes ∧ ¬ RecordsSurvive 2 := by
  have hnot : ¬ HitsSurvive (fun _ => 0) sampleOutcomes := by
    intro h
    have hfirst := (h 0 (by decide)).2.1
    rw [VPHit.load_eq] at hfirst
    exact absurd hfirst (by decide)
  refine ⟨?_, ?_, hnot, fun h => hnot (h.2 _ sampleOutcomes rfl)⟩
  · rw [VPHit.load_eq]
    decide
  · rw [VPHit.load_eq]
    decide

end Vulkanite.Prime.Records
