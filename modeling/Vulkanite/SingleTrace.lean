/-
# One trace whose accepted hits end the ray

The comments of `TriangleMesh_AH` assume that a hit that is accepted keeps the
pipeline from calling the program with other hits *at the same distance*: a candidate
reaches it only if its `t` lies in the open interval between `tMin` and the current
end of the ray.  `deliverOpen` is this rule.

A hit that is saved is therefore not accepted.  But a hit at the saved distance that
does not come before the saved one leaves the program at its end, and is accepted; the
hits at that distance that have not occurred yet are lost.  `Searching`, `Found` and
`Blocked` are the three phases of a trace, and `reportsLeast_iff` says which orders
find the least hit: those in which the hits at its distance occur in descending order
until it occurs itself.
-/
import Mathlib.Data.List.TakeWhile
import Vulkanite.MultiHit

namespace Vulkanite.Prime

section Model

variable {T : Type*} [LinearOrder T] {UV : Type*}

/-- One occurrence of a candidate.  It reaches the any-hit program only if its `t` lies
in `(tMin, tMax)`; if the program accepts it, it ends the ray there. -/
def deliverOpen (tMin : T) (s : Traversal T UV) (c : Candidate T UV) : Traversal T UV :=
  if tMin < c.hit.t ∧ c.hit.t < s.tMax then
    match TriangleMesh_AH c s.prd with
    | (prd, .accept) => ⟨prd, c.hit.t⟩
    | (prd, .ignoreHit) => ⟨prd, s.tMax⟩
  else s

/-- `traceRay`: the candidates in the order in which they occur. -/
def traceRayOpen (tMin tMax : T) (prd : PRD T UV) (order : List (Candidate T UV)) : PRD T UV :=
  (order.foldl (deliverOpen tMin) ⟨prd, tMax⟩).prd

/-- `traceRays` for one ray, from the hit record `prev_hit` to the one it stores. -/
def traceRaysOpen (nextLowerThan : T → T) (traceMode : TraceMode) (in_ray : PrimeRay T)
    (prev_hit : PrimeHit T UV) (uv₀ : UV) (order : List (Candidate T UV)) : PrimeHit T UV :=
  let (hurdle, tMin) := hurdleOf nextLowerThan traceMode in_ray prev_hit
  let prd := traceRayOpen tMin in_ray.tMax ⟨hurdle, noHit in_ray, uv₀⟩ order
  { primID := prd.closestHit.primID
    geomID := prd.closestHit.geomID
    instID := prd.closestHit.instID
    t := prd.closestHit.t
    uv := prd.closestUV }

/-- What one occurrence of a candidate does. -/
inductive Occurrence (tMin : T) (s : Traversal T UV) (c : Candidate T UV) :
    Traversal T UV → Prop
  | missed (h : ¬ (tMin < c.hit.t ∧ c.hit.t < s.tMax)) : Occurrence tMin s c s
  | beyond (hmax : c.hit.t < s.tMax) (h : s.prd.closestHit.t < c.hit.t) :
      Occurrence tMin s c ⟨s.prd, c.hit.t⟩
  | notAbove (h : ¬ s.prd.hurdle.key < c.hit.key) : Occurrence tMin s c s
  | saved (hmin : tMin < c.hit.t) (hmax : c.hit.t < s.tMax)
      (hhurdle : s.prd.hurdle.key < c.hit.key) (h : c.hit.key < s.prd.closestHit.key) :
      Occurrence tMin s c ⟨{ s.prd with closestHit := c.hit, closestUV := c.bc }, s.tMax⟩
  | kept (hmin : tMin < c.hit.t) (hmax : c.hit.t < s.tMax)
      (hhurdle : s.prd.hurdle.key < c.hit.key) (ht : c.hit.t = s.prd.closestHit.t)
      (h : s.prd.closestHit.key ≤ c.hit.key) : Occurrence tMin s c ⟨s.prd, c.hit.t⟩

/-- One case for each exit of the program. -/
theorem deliverOpen_occurrence (tMin : T) (s : Traversal T UV) (c : Candidate T UV) :
    Occurrence tMin s c (deliverOpen tMin s c) := by
  unfold deliverOpen
  split_ifs with hdel
  · unfold TriangleMesh_AH
    split_ifs with hbeyond hhurdle hless
    · exact .beyond hdel.2 hbeyond
    · rw [Bool.not_eq_true', ← Bool.not_eq_true, greater_iff] at hhurdle
      exact .notAbove hhurdle
    · rw [Bool.not_eq_true', ← Bool.not_eq_true, not_not, greater_iff] at hhurdle
      exact .saved hdel.1 hdel.2 hhurdle (less_iff.mp hless)
    · rw [Bool.not_eq_true', ← Bool.not_eq_true, not_not, greater_iff] at hhurdle
      rw [less_iff, not_lt] at hless
      have ht : c.hit.t = s.prd.closestHit.t :=
        le_antisymm (not_lt.mp hbeyond) (HitRef.t_le_of_key_le hless)
      exact .kept hdel.1 hdel.2 hhurdle ht hless
  · exact .missed hdel

/-! ## The least hit -/

/-- The candidate lies on the ray and above the hurdle. -/
def Eligible (hurdle : HitRef T) (tMin tMax : T) (c : Candidate T UV) : Prop :=
  tMin < c.hit.t ∧ c.hit.t < tMax ∧ hurdle.key < c.hit.key

/-- The least candidate of the order that lies on the ray and above the hurdle. -/
structure IsLeastHit (hurdle : HitRef T) (tMin tMax : T) (order : List (Candidate T UV))
    (c : Candidate T UV) : Prop where
  mem : c ∈ order
  eligible : Eligible hurdle tMin tMax c
  le : ∀ c' ∈ order, Eligible hurdle tMin tMax c' → c.hit.key ≤ c'.hit.key

/-- If some candidate is eligible, there is a least one. -/
theorem exists_isLeastHit {hurdle : HitRef T} {tMin tMax : T} {order : List (Candidate T UV)}
    (h : ∃ c ∈ order, Eligible hurdle tMin tMax c) :
    ∃ c, IsLeastHit hurdle tMin tMax order c := by
  classical
  have hfin : {c | c ∈ order ∧ Eligible hurdle tMin tMax c}.Finite :=
    (List.finite_toSet order).subset fun c hc => hc.1
  obtain ⟨c, hc, hmin⟩ := Set.exists_min_image _ (fun c => c.hit.key) hfin h
  exact ⟨c, hc.1, hc.2, fun c' hc' helig => hmin c' ⟨hc', helig⟩⟩

/-- The record reports the least hit, or no hit if there is none. -/
def ReportsLeast (hurdle : HitRef T) (tMin tMax : T) (order : List (Candidate T UV))
    (record : PrimeHit T UV) : Prop :=
  (∃ c, IsLeastHit hurdle tMin tMax order c ∧ record = c.record) ∨
    (∀ c ∈ order, ¬ Eligible hurdle tMin tMax c) ∧
      record.hit = ⟨INT_MAX, INT_MAX, INT_MAX, tMax⟩

/-- The candidates above the hurdle at the distance of `least`, as they occur. -/
def level (hurdle least : HitRef T) (order : List (Candidate T UV)) : List (Candidate T UV) :=
  order.filter fun c => c.hit.t = least.t ∧ less hurdle c.hit

/-- They occur in descending order. -/
def Descending (hurdle least : HitRef T) (order : List (Candidate T UV)) : Prop :=
  (level hurdle least order).Pairwise fun c c' => less c'.hit c.hit = true

theorem mem_level {hurdle least : HitRef T} {order : List (Candidate T UV)}
    {c : Candidate T UV} :
    c ∈ level hurdle least order ↔
      c ∈ order ∧ c.hit.t = least.t ∧ hurdle.key < c.hit.key := by
  simp only [level, List.mem_filter, decide_eq_true_eq, less_iff]

end Model

/-! ## The phases of a trace -/

section Phases

variable {T : Type*} [LinearOrder T] {UV : Type*} {hurdle least : HitRef T} {tMin tMax : T}
  {seen : List (Candidate T UV)} {s s' : Traversal T UV} {c : Candidate T UV}

/-- What holds after the candidates `seen` in every phase. -/
structure Saves (hurdle : HitRef T) (tMin tMax : T) (seen : List (Candidate T UV))
    (s : Traversal T UV) : Prop where
  hurdle_eq : s.prd.hurdle = hurdle
  tMax_le : s.tMax ≤ tMax
  saved : s.prd.closestHit = ⟨INT_MAX, INT_MAX, INT_MAX, tMax⟩ ∨
    ∃ c ∈ seen, Eligible hurdle tMin tMax c ∧ s.prd.closestHit = c.hit ∧ s.prd.closestUV = c.bc

/-- The least hit has not occurred, and nothing keeps it from being saved. -/
structure Searching (hurdle least : HitRef T) (seen : List (Candidate T UV))
    (s : Traversal T UV) : Prop where
  reaches : least.t < s.tMax
  before : least.key < s.prd.closestHit.key
  le_level : ∀ c ∈ level hurdle least seen, s.prd.closestHit.key ≤ c.hit.key
  exists_level : s.prd.closestHit.t = least.t →
    ∃ c ∈ level hurdle least seen, s.prd.closestHit = c.hit

/-- The ray ends at the distance of the least hit, which is not saved. -/
structure Blocked (least : HitRef T) (s : Traversal T UV) : Prop where
  tMax_le : s.tMax ≤ least.t
  before : least.key < s.prd.closestHit.key

theorem Saves.occurrence (h : Saves hurdle tMin tMax seen s) (hs : Occurrence tMin s c s') :
    Saves hurdle tMin tMax (seen ++ [c]) s' := by
  have hsaved : s.prd.closestHit = ⟨INT_MAX, INT_MAX, INT_MAX, tMax⟩ ∨
      ∃ c' ∈ seen ++ [c], Eligible hurdle tMin tMax c' ∧ s.prd.closestHit = c'.hit ∧
        s.prd.closestUV = c'.bc :=
    h.saved.imp_right fun ⟨c', hc', hrest⟩ => ⟨c', List.mem_append_left _ hc', hrest⟩
  cases hs with
  | missed _ => exact ⟨h.hurdle_eq, h.tMax_le, hsaved⟩
  | beyond hmax _ => exact ⟨h.hurdle_eq, (hmax.trans_le h.tMax_le).le, hsaved⟩
  | notAbove _ => exact ⟨h.hurdle_eq, h.tMax_le, hsaved⟩
  | saved hmin hmax hhurdle _ =>
    rw [h.hurdle_eq] at hhurdle
    refine ⟨h.hurdle_eq, h.tMax_le, Or.inr ⟨c, by simp, ?_, rfl, rfl⟩⟩
    exact ⟨hmin, hmax.trans_le h.tMax_le, hhurdle⟩
  | kept _ hmax _ _ _ => exact ⟨h.hurdle_eq, (hmax.trans_le h.tMax_le).le, hsaved⟩

/-- A candidate that is saved, or kept, is eligible. -/
theorem Saves.eligible (h : Saves hurdle tMin tMax seen s) (hmin : tMin < c.hit.t)
    (hmax : c.hit.t < s.tMax) (hhurdle : s.prd.hurdle.key < c.hit.key) :
    Eligible hurdle tMin tMax c :=
  ⟨hmin, hmax.trans_le h.tMax_le, h.hurdle_eq ▸ hhurdle⟩

/-- The least hit stays. -/
theorem found_occurrence (h : Saves hurdle tMin tMax seen s)
    (hc : Eligible hurdle tMin tMax c → least.key ≤ c.hit.key)
    (hfound : s.prd.closestHit = least) (hs : Occurrence tMin s c s') :
    s'.prd.closestHit = least := by
  cases hs with
  | saved hmin hmax hhurdle hlt =>
    rw [hfound] at hlt
    exact absurd (hc (h.eligible hmin hmax hhurdle)) hlt.not_ge
  | missed _ => exact hfound
  | beyond _ _ => exact hfound
  | notAbove _ => exact hfound
  | kept _ _ _ _ _ => exact hfound

/-- The ray stays blocked. -/
theorem Blocked.occurrence (h : Saves hurdle tMin tMax seen s)
    (hc : Eligible hurdle tMin tMax c → least.key ≤ c.hit.key) (hblocked : Blocked least s)
    (hs : Occurrence tMin s c s') : Blocked least s' := by
  cases hs with
  | saved hmin hmax hhurdle _ =>
    -- it would be nearer than the least hit
    have hle := HitRef.t_le_of_key_le (hc (h.eligible hmin hmax hhurdle))
    exact absurd (hmax.trans_le hblocked.tMax_le) hle.not_gt
  | missed _ => exact hblocked
  | beyond hmax _ => exact ⟨hmax.le.trans hblocked.tMax_le, hblocked.before⟩
  | notAbove _ => exact hblocked
  | kept _ hmax _ _ _ => exact ⟨hmax.le.trans hblocked.tMax_le, hblocked.before⟩

/-- Once the least hit occurs it is saved. -/
theorem Searching.found (h : Searching hurdle least seen s) (hhurdle : s.prd.hurdle.key < least.key)
    (hmin : tMin < least.t) (hc : c.hit = least) (hs : Occurrence tMin s c s') :
    s'.prd.closestHit = least := by
  subst hc
  cases hs with
  | saved _ _ _ _ => rfl
  | missed hmiss => exact absurd ⟨hmin, h.reaches⟩ hmiss
  | beyond _ hlt => exact absurd (HitRef.t_le_of_key_le h.before.le) hlt.not_ge
  | notAbove hnot => exact absurd hhurdle hnot
  | kept _ _ _ _ hle => exact absurd h.before hle.not_gt

theorem level_append_singleton (hurdle least : HitRef T) (seen : List (Candidate T UV))
    (c : Candidate T UV) :
    level hurdle least (seen ++ [c]) = level hurdle least seen ++
      if c.hit.t = least.t ∧ hurdle.key < c.hit.key then [c] else [] := by
  simp only [level, List.filter_append, List.filter_singleton, less_iff, Bool.cond_decide]

/-- The next candidate keeps the order descending if it comes before those at its
distance. -/
theorem descending_append_singleton :
    Descending hurdle least (seen ++ [c]) ↔ Descending hurdle least seen ∧
      (c.hit.t = least.t ∧ hurdle.key < c.hit.key →
        ∀ c' ∈ level hurdle least seen, c.hit.key < c'.hit.key) := by
  unfold Descending
  rw [level_append_singleton, List.pairwise_append]
  split_ifs with h
  · simp [h, less_iff]
  · simp [h]

/-- A candidate that changes nothing but the end of the ray. -/
theorem Searching.skip (h : Searching hurdle least seen s)
    (hc : ¬ (c.hit.t = least.t ∧ hurdle.key < c.hit.key)) {t : T} (ht : least.t < t) :
    Searching hurdle least (seen ++ [c]) ⟨s.prd, t⟩ := by
  have hlevel : level hurdle least (seen ++ [c]) = level hurdle least seen := by
    rw [level_append_singleton, if_neg hc, List.append_nil]
  refine ⟨ht, h.before, ?_, ?_⟩
  · rw [hlevel]
    exact h.le_level
  · rw [hlevel]
    exact h.exists_level

/-- As long as the order is descending, the search goes on. -/
theorem Searching.occurrence (h : Saves hurdle tMin tMax seen s)
    (hsearch : Searching hurdle least seen s) (hmin : tMin < least.t)
    (hc : Eligible hurdle tMin tMax c → least.key ≤ c.hit.key) (hne : c.hit ≠ least)
    (hdesc : c.hit.t = least.t ∧ hurdle.key < c.hit.key →
      ∀ c' ∈ level hurdle least seen, c.hit.key < c'.hit.key)
    (hs : Occurrence tMin s c s') : Searching hurdle least (seen ++ [c]) s' := by
  have hfar := HitRef.t_le_of_key_le hsearch.before.le
  cases hs with
  | missed hmiss =>
    refine hsearch.skip ?_ hsearch.reaches
    rintro ⟨ht, -⟩
    rw [ht] at hmiss
    exact hmiss ⟨hmin, hsearch.reaches⟩
  | beyond _ hlt =>
    refine hsearch.skip ?_ (hfar.trans_lt hlt)
    rintro ⟨ht, -⟩
    exact absurd hlt (ht ▸ hfar).not_gt
  | notAbove hnot =>
    refine hsearch.skip ?_ hsearch.reaches
    rintro ⟨-, hhurdle⟩
    exact hnot (h.hurdle_eq ▸ hhurdle)
  | saved hmin' hmax hhurdle hlt =>
    have hle := hc (h.eligible hmin' hmax hhurdle)
    rw [h.hurdle_eq] at hhurdle
    refine ⟨hsearch.reaches, ?_, fun c' hc' => ?_, fun ht => ⟨c, ?_, rfl⟩⟩
    · exact lt_of_le_of_ne hle fun heq => hne (HitRef.key_injective heq).symm
    · obtain ⟨hmem, hrest⟩ := mem_level.mp hc'
      rcases List.mem_append.mp hmem with hseen | hlast
      · exact hlt.le.trans (hsearch.le_level c' (mem_level.mpr ⟨hseen, hrest⟩))
      · rw [List.mem_singleton.mp hlast]
    · exact mem_level.mpr ⟨by simp, ht, hhurdle⟩
  | kept hmin' hmax hhurdle ht hle =>
    -- at the distance of the least hit, the saved hit would come before it
    have hne' : c.hit.t ≠ least.t := by
      intro heq
      obtain ⟨c', hc', hsaved⟩ := hsearch.exists_level (ht ▸ heq)
      have hlt := hdesc ⟨heq, h.hurdle_eq ▸ hhurdle⟩ c' hc'
      exact absurd (hsaved ▸ hle) hlt.not_ge
    refine hsearch.skip (fun hand => hne' hand.1) ?_
    exact lt_of_le_of_ne (ht ▸ hfar) hne'.symm

/-- A candidate at the distance of the least hit that comes after one seen before ends
the search. -/
theorem Searching.blocked (h : Saves hurdle tMin tMax seen s)
    (hsearch : Searching hurdle least seen s) (hmin : tMin < least.t)
    (ht : c.hit.t = least.t) (hhurdle : hurdle.key < c.hit.key) {c' : Candidate T UV}
    (hc' : c' ∈ level hurdle least seen) (hle : c'.hit.key ≤ c.hit.key)
    (hs : Occurrence tMin s c s') : Blocked least s' := by
  have hfar := HitRef.t_le_of_key_le hsearch.before.le
  have hsaved := (hsearch.le_level c' hc').trans hle
  cases hs with
  | kept _ _ _ _ _ => exact ⟨ht.le, hsearch.before⟩
  | missed hmiss =>
    rw [ht] at hmiss
    exact absurd ⟨hmin, hsearch.reaches⟩ hmiss
  | beyond _ hlt => exact absurd hlt (ht ▸ hfar).not_gt
  | notAbove hnot => exact absurd hhurdle (h.hurdle_eq ▸ hnot)
  | saved _ _ _ hlt => exact absurd hsaved hlt.not_ge

/-! ## Whole traces -/

/-- The traversal after a prefix of the order. -/
def afterPrefix (hurdle : HitRef T) (tMin tMax : T) (uv₀ : UV) (seen : List (Candidate T UV)) :
    Traversal T UV :=
  seen.foldl (deliverOpen tMin) ⟨⟨hurdle, ⟨INT_MAX, INT_MAX, INT_MAX, tMax⟩, uv₀⟩, tMax⟩

variable {uv₀ : UV}

theorem afterPrefix_append_singleton :
    Occurrence tMin (afterPrefix hurdle tMin tMax uv₀ seen) c
      (afterPrefix hurdle tMin tMax uv₀ (seen ++ [c])) := by
  unfold afterPrefix
  rw [List.foldl_append]
  exact deliverOpen_occurrence tMin _ c

theorem saves_afterPrefix (seen : List (Candidate T UV)) :
    Saves hurdle tMin tMax seen (afterPrefix hurdle tMin tMax uv₀ seen) := by
  induction seen using List.reverseRecOn with
  | nil => exact ⟨rfl, le_rfl, Or.inl rfl⟩
  | append_singleton seen c ih => exact ih.occurrence afterPrefix_append_singleton

/-- **Before the least hit**, the search goes on if the order is descending, and the
ray is blocked if it is not. -/
theorem search_afterPrefix (hmin : tMin < least.t) (hmax : least.t < tMax)
    (seen : List (Candidate T UV))
    (hle : ∀ c ∈ seen, Eligible hurdle tMin tMax c → least.key ≤ c.hit.key)
    (hne : ∀ c ∈ seen, c.hit ≠ least) :
    (Descending hurdle least seen ∧
        Searching hurdle least seen (afterPrefix hurdle tMin tMax uv₀ seen)) ∨
      (¬ Descending hurdle least seen ∧
        Blocked least (afterPrefix hurdle tMin tMax uv₀ seen)) := by
  induction seen using List.reverseRecOn with
  | nil =>
    refine Or.inl ⟨List.Pairwise.nil, hmax, HitRef.key_lt_of_t_lt hmax, ?_, ?_⟩
    · rintro c ⟨⟩
    · exact fun ht => absurd ht hmax.ne'
  | append_singleton seen c ih =>
    have hc : c ∈ seen ++ [c] := by simp
    have hsaves : Saves hurdle tMin tMax seen (afterPrefix hurdle tMin tMax uv₀ seen) :=
      saves_afterPrefix seen
    have hs : Occurrence tMin (afterPrefix hurdle tMin tMax uv₀ seen) c
        (afterPrefix hurdle tMin tMax uv₀ (seen ++ [c])) := afterPrefix_append_singleton
    rw [descending_append_singleton]
    rcases ih (fun c' hc' => hle c' (by simp [hc'])) (fun c' hc' => hne c' (by simp [hc']))
      with ⟨hdesc, hsearch⟩ | ⟨hdesc, hblocked⟩
    · by_cases hnext : c.hit.t = least.t ∧ hurdle.key < c.hit.key →
          ∀ c' ∈ level hurdle least seen, c.hit.key < c'.hit.key
      · exact Or.inl ⟨⟨hdesc, hnext⟩,
          hsearch.occurrence hsaves hmin (hle c hc) (hne c hc) hnext hs⟩
      · refine Or.inr ⟨fun hand => hnext hand.2, ?_⟩
        push Not at hnext
        obtain ⟨⟨ht, hhurdle⟩, c', hc', hge⟩ := hnext
        exact hsearch.blocked hsaves hmin ht hhurdle hc' hge hs
    · exact Or.inr ⟨fun hand => hdesc hand.1, hblocked.occurrence hsaves (hle c hc) hs⟩

/-- What every occurrence keeps holds to the end of the order. -/
theorem afterPrefix_append {P : Traversal T UV → Prop} (post : List (Candidate T UV))
    (hP : P (afterPrefix hurdle tMin tMax uv₀ seen))
    (hstep : ∀ seen' c s s', c ∈ post → Saves hurdle tMin tMax seen' s → P s →
      Occurrence tMin s c s' → P s') : P (afterPrefix hurdle tMin tMax uv₀ (seen ++ post)) := by
  induction post using List.reverseRecOn with
  | nil => rwa [List.append_nil]
  | append_singleton post c ih =>
    rw [← List.append_assoc]
    refine hstep (seen ++ post) c _ _ (by simp) (saves_afterPrefix _) ?_
      afterPrefix_append_singleton
    exact ih fun seen' c' s s' hc' => hstep seen' c' s s' (by simp [hc'])

/-- The order up to the first occurrence of a hit, and from there on. -/
theorem exists_first_occurrence {order : List (Candidate T UV)} (hc : c ∈ order) :
    ∃ c' post, order = (order.takeWhile fun c' => c'.hit ≠ c.hit) ++ c' :: post ∧
      c'.hit = c.hit := by
  induction order with
  | nil => cases hc
  | cons x order ih =>
    by_cases hx : x.hit = c.hit
    · refine ⟨x, order, ?_, hx⟩
      rw [List.takeWhile_cons_of_neg (by simpa using hx), List.nil_append]
    · have hmem : c ∈ order := by
        rcases List.mem_cons.mp hc with rfl | hmem
        · exact absurd rfl hx
        · exact hmem
      obtain ⟨c', post, horder, hc'⟩ := ih hmem
      refine ⟨c', post, ?_, hc'⟩
      rw [List.takeWhile_cons_of_pos (by simpa using hx), List.cons_append, ← horder]

/-- The least hit first occurs after `pre`, and is saved there exactly if the search still
goes on. -/
theorem closestHit_append_iff {pre post : List (Candidate T UV)} {c' : Candidate T UV}
    (hc : IsLeastHit hurdle tMin tMax (pre ++ [c'] ++ post) c) (hc' : c'.hit = c.hit)
    (hne : ∀ x ∈ pre, x.hit ≠ c.hit) :
    (afterPrefix hurdle tMin tMax uv₀ (pre ++ [c'] ++ post)).prd.closestHit = c.hit ↔
      Descending hurdle c.hit pre := by
  have hs : Occurrence tMin (afterPrefix hurdle tMin tMax uv₀ pre) c'
      (afterPrefix hurdle tMin tMax uv₀ (pre ++ [c'])) := afterPrefix_append_singleton
  have hsaves : Saves hurdle tMin tMax pre (afterPrefix hurdle tMin tMax uv₀ pre) :=
    saves_afterPrefix pre
  have hpre : ∀ x ∈ pre, Eligible hurdle tMin tMax x → c.hit.key ≤ x.hit.key :=
    fun x hx => hc.le x (by simp [hx])
  have hpost : ∀ x ∈ post, Eligible hurdle tMin tMax x → c.hit.key ≤ x.hit.key :=
    fun x hx => hc.le x (by simp [hx])
  have hsearch : (Descending hurdle c.hit pre ∧
        Searching hurdle c.hit pre (afterPrefix hurdle tMin tMax uv₀ pre)) ∨
      (¬ Descending hurdle c.hit pre ∧ Blocked c.hit (afterPrefix hurdle tMin tMax uv₀ pre)) :=
    search_afterPrefix hc.eligible.1 hc.eligible.2.1 pre hpre hne
  rcases hsearch with ⟨hdesc, hsearch⟩ | ⟨hdesc, hblocked⟩
  · refine ⟨fun _ => hdesc, fun _ => ?_⟩
    have hhurdle := hc.eligible.2.2
    rw [← hsaves.hurdle_eq] at hhurdle
    have hfound := hsearch.found hhurdle hc.eligible.1 hc' hs
    exact afterPrefix_append post hfound fun seen' x s s' hx hsaves' hP hocc =>
      found_occurrence hsaves' (hpost x hx) hP hocc
  · refine ⟨fun hfound => ?_, fun hdesc' => absurd hdesc' hdesc⟩
    have hblocked' := hblocked.occurrence hsaves (hc.le c' (by simp)) hs
    have hend : Blocked c.hit (afterPrefix hurdle tMin tMax uv₀ (pre ++ [c'] ++ post)) :=
      afterPrefix_append post hblocked' fun seen' x s s' hx hsaves' hP hocc =>
        hP.occurrence hsaves' (hpost x hx) hocc
    exact absurd hfound fun heq => hend.before.ne' (congrArg HitRef.key heq)

/-- **When a trace saves the least hit.** -/
theorem closestHit_eq_iff {order : List (Candidate T UV)} {c : Candidate T UV}
    (hc : IsLeastHit hurdle tMin tMax order c) :
    (afterPrefix hurdle tMin tMax uv₀ order).prd.closestHit = c.hit ↔
      Descending hurdle c.hit (order.takeWhile fun c' => c'.hit ≠ c.hit) := by
  obtain ⟨c', post, horder, hc'⟩ := exists_first_occurrence hc.mem
  have hne : ∀ x ∈ order.takeWhile (fun c' => c'.hit ≠ c.hit), x.hit ≠ c.hit :=
    fun x hx => by simpa using List.mem_takeWhile_imp hx
  generalize (order.takeWhile fun c' => c'.hit ≠ c.hit) = pre at horder hne ⊢
  rw [List.append_cons] at horder
  subst horder
  exact closestHit_append_iff hc hc' hne

end Phases

/-! ## What a trace reports -/

section Report

variable {T : Type*} [LinearOrder T] {UV : Type*}

/-- The hit record of a trace is what its traversal saved. -/
theorem traceRaysOpen_eq (nextLowerThan : T → T) (traceMode : TraceMode) (in_ray : PrimeRay T)
    (prev_hit : PrimeHit T UV) (uv₀ : UV) (order : List (Candidate T UV)) :
    traceRaysOpen nextLowerThan traceMode in_ray prev_hit uv₀ order =
      Candidate.record
        ⟨(afterPrefix (hurdleOf nextLowerThan traceMode in_ray prev_hit).1
            (hurdleOf nextLowerThan traceMode in_ray prev_hit).2 in_ray.tMax uv₀
            order).prd.closestHit,
          (afterPrefix (hurdleOf nextLowerThan traceMode in_ray prev_hit).1
            (hurdleOf nextLowerThan traceMode in_ray prev_hit).2 in_ray.tMax uv₀
            order).prd.closestUV⟩ := rfl

/-- **When a trace reports the least hit**: exactly if, up to the first occurrence of
the least hit above the hurdle, the hits at its distance that are above the hurdle
occur in descending order. -/
theorem reportsLeast_iff (nextLowerThan : T → T) (traceMode : TraceMode) (in_ray : PrimeRay T)
    (prev_hit : PrimeHit T UV) (uv₀ : UV) (order : List (Candidate T UV)) :
    ReportsLeast (hurdleOf nextLowerThan traceMode in_ray prev_hit).1
        (hurdleOf nextLowerThan traceMode in_ray prev_hit).2 in_ray.tMax order
        (traceRaysOpen nextLowerThan traceMode in_ray prev_hit uv₀ order) ↔
      ∀ c, IsLeastHit (hurdleOf nextLowerThan traceMode in_ray prev_hit).1
          (hurdleOf nextLowerThan traceMode in_ray prev_hit).2 in_ray.tMax order c →
        Descending (hurdleOf nextLowerThan traceMode in_ray prev_hit).1 c.hit
          (order.takeWhile fun c' => c'.hit ≠ c.hit) := by
  rw [traceRaysOpen_eq]
  generalize (hurdleOf nextLowerThan traceMode in_ray prev_hit).1 = hurdle
  generalize (hurdleOf nextLowerThan traceMode in_ray prev_hit).2 = tMin
  constructor
  · rintro (⟨c, hc, hrecord⟩ | ⟨hnone, -⟩) c' hc'
    · have hhit := congrArg PrimeHit.hit hrecord
      have heq : c.hit = c'.hit := HitRef.key_injective
        (le_antisymm (hc.le c' hc'.mem hc'.eligible) (hc'.le c hc.mem hc.eligible))
      rw [← closestHit_eq_iff hc', ← heq]
      exact hhit
    · exact absurd hc'.eligible (hnone c' hc'.mem)
  · intro hdesc
    have hsaves : Saves hurdle tMin in_ray.tMax order
        (afterPrefix hurdle tMin in_ray.tMax uv₀ order) := saves_afterPrefix order
    by_cases hex : ∃ c ∈ order, Eligible hurdle tMin in_ray.tMax c
    · obtain ⟨c, hc⟩ := exists_isLeastHit hex
      have hhit : (afterPrefix hurdle tMin in_ray.tMax uv₀ order).prd.closestHit = c.hit :=
        (closestHit_eq_iff hc).mpr (hdesc c hc)
      rcases hsaves.saved with hnone | ⟨c', hc', helig, hhit', huv⟩
      · -- the starting hit lies at the end of the ray
        have ht : c.hit.t = in_ray.tMax := by rw [← hhit, hnone]
        exact absurd hc.eligible.2.1 ht.not_lt
      · refine Or.inl ⟨c', ⟨hc', helig, ?_⟩, ?_⟩
        · rw [← hhit', hhit]
          exact hc.le
        · rw [hhit', huv]
    · push Not at hex
      refine Or.inr ⟨hex, ?_⟩
      rcases hsaves.saved with hnone | ⟨c', hc', helig, -⟩
      · exact hnone
      · exact absurd helig (hex c' hc')

/-- Three triangles hit at the same distance, over the integers.  The second is
accepted, and the third, which is the least, is lost. -/
def tiedOrder : List (Candidate ℤ Unit) :=
  [⟨⟨2, 0, 0, 5⟩, ()⟩, ⟨⟨3, 0, 0, 5⟩, ()⟩, ⟨⟨1, 0, 0, 5⟩, ()⟩]

theorem tiedOrder_not_reportsLeast :
    traceRaysOpen (· - 1) .FIRST_HIT ⟨0, 10⟩ ⟨0, 0, 0, 0, ()⟩ () tiedOrder = ⟨2, 0, 0, 5, ()⟩ ∧
      ¬ ReportsLeast ⟨INT_MAX, INT_MAX, INT_MAX, 0⟩ 0 10 tiedOrder
        (traceRaysOpen (· - 1) .FIRST_HIT ⟨0, 10⟩ ⟨0, 0, 0, 0, ()⟩ () tiedOrder) := by
  have hresult : traceRaysOpen (· - 1) .FIRST_HIT ⟨0, 10⟩ ⟨0, 0, 0, 0, ()⟩ () tiedOrder =
      ⟨2, 0, 0, 5, ()⟩ := by decide
  have hmem : (⟨⟨1, 0, 0, 5⟩, ()⟩ : Candidate ℤ Unit) ∈ tiedOrder := by simp [tiedOrder]
  have helig : Eligible ⟨INT_MAX, INT_MAX, INT_MAX, 0⟩ 0 10
      (⟨⟨1, 0, 0, 5⟩, ()⟩ : Candidate ℤ Unit) :=
    ⟨by decide, by decide, HitRef.key_lt_of_t_lt (by decide)⟩
  refine ⟨hresult, ?_⟩
  rw [hresult]
  rintro (⟨c, hc, hrecord⟩ | ⟨hnone, -⟩)
  · have hhit : c.hit = ⟨2, 0, 0, 5⟩ := (congrArg PrimeHit.hit hrecord).symm
    have hle := hc.le _ hmem helig
    rw [hhit] at hle
    exact absurd (HitRef.key_lt_iff.mpr (by decide)) hle.not_gt
  · exact hnone _ hmem helig

end Report

end Vulkanite.Prime
