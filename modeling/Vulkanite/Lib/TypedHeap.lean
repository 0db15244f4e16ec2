/-
# Typed heaps: ownership and numbering

A typed heap maps pointers of each kind to objects of that kind.  Objects hold
strong references to other objects; the heap is *closed* when every reference
held by an object leads to an object.  Creating or changing an object whose
references are live keeps a heap closed, and so does destroying an object that
nothing refers to: this is the discipline of reference counting, whatever the
order in which objects die.

`numberAll` is the loop that visits the objects of a list, stores consecutive
numbers in them and collects an output for each.  `numberAll_ok` says what it
leaves behind when it completes, `numberAll_frame` what it can have changed if
it stops halfway.
-/
import Mathlib.Tactic

namespace TypedHeap

variable {Kind Ptr : Type*} [DecidableEq Kind] [DecidableEq Ptr] {Obj : Kind → Type*}

/-- The objects of each kind, by pointer. -/
abbrev Heap (Ptr : Type*) {Kind : Type*} (Obj : Kind → Type*) := (k : Kind) → Ptr → Option (Obj k)

/-- The heap with another object, or none, at one pointer of one kind. -/
def set (h : Heap Ptr Obj) (k : Kind) (p : Ptr) (o : Option (Obj k)) : Heap Ptr Obj :=
  Function.update h k (Function.update (h k) p o)

theorem set_apply (h : Heap Ptr Obj) (k : Kind) (p q : Ptr) (o : Option (Obj k)) :
    set h k p o k q = if q = p then o else h k q := by
  simp only [set, Function.update_self, Function.update_apply]

@[simp] theorem set_self (h : Heap Ptr Obj) (k : Kind) (p : Ptr) (o : Option (Obj k)) :
    set h k p o k p = o := by
  rw [set_apply, if_pos rfl]

theorem set_of_ptr_ne (h : Heap Ptr Obj) (k : Kind) {p q : Ptr} (o : Option (Obj k))
    (hne : q ≠ p) : set h k p o k q = h k q := by
  rw [set_apply, if_neg hne]

theorem set_of_kind_ne (h : Heap Ptr Obj) {k k' : Kind} (p : Ptr) (o : Option (Obj k))
    (hne : k' ≠ k) : set h k p o k' = h k' :=
  Function.update_of_ne hne _ _

/-- Storing at one place leaves the others. -/
theorem set_eq_some {h : Heap Ptr Obj} {k k' : Kind} {p q : Ptr} {o : Obj k'}
    (hq : h k' q = some o) (hne : (k', q) ≠ (k, p)) (x : Option (Obj k)) :
    set h k p x k' q = some o := by
  by_cases hk : k' = k
  · subst hk
    rw [set_apply, if_neg fun hqp => hne (congrArg (Prod.mk k') hqp)]
    exact hq
  · rw [set_of_kind_ne _ _ _ hk]
    exact hq

/-- Storing where there was nothing leaves every object. -/
theorem set_eq_some_of_none {h : Heap Ptr Obj} {k k' : Kind} {p q : Ptr} {o : Obj k'}
    (hp : h k p = none) (hq : h k' q = some o) (x : Option (Obj k)) :
    set h k p x k' q = some o := by
  refine set_eq_some hq (fun heq => ?_) x
  obtain ⟨rfl, rfl⟩ := Prod.mk.inj heq
  rw [hp] at hq
  cases hq

/-- An object that was stored where there was nothing, and is gone again. -/
theorem set_set_none {h : Heap Ptr Obj} {k : Kind} {p : Ptr} (hp : h k p = none)
    (o : Option (Obj k)) : set (set h k p o) k p none = h := by
  rw [set, set, Function.update_idem, Function.update_self, Function.update_idem, ← hp,
    Function.update_eq_self, Function.update_eq_self]

/-- What is read off the objects of the kind, after one of them was changed. -/
theorem map_set {β : Type*} (h : Heap Ptr Obj) (k : Kind) (p : Ptr) (o : Option (Obj k))
    (f : Obj k → β) : (fun q => (set h k p o k q).map f) =
      Function.update (fun q => (h k q).map f) p (o.map f) := by
  funext q
  rw [set_apply, Function.update_apply]
  split_ifs <;> rfl

/-- Storing an object leaves every pointer live that was live. -/
theorem isSome_set_some (h : Heap Ptr Obj) (k k' : Kind) (p q : Ptr) (o : Obj k)
    (hlive : (h k' q).isSome) : (set h k p (some o) k' q).isSome := by
  by_cases hk : k' = k
  · subst hk
    rw [set_apply]
    split_ifs
    · rfl
    · exact hlive
  · rwa [set_of_kind_ne h p _ hk]

/-! ### Families of kinds -/

section Family

variable {ι : Type*} {f : ι → Kind} {h : Heap Ptr Obj} {i j : ι} {p q : Ptr}

/-- What holds of a value for each kind and the objects of that kind, after both were
changed for one kind. -/
theorem forall_update_set [DecidableEq ι] (hf : Function.Injective f) {T : Type*}
    {R : (i : ι) → T → (Ptr → Option (Obj (f i))) → Prop} {t : ι → T}
    (hold : ∀ i, R i (t i) (h (f i))) {x : Option (Obj (f i))} {y : T}
    (hnew : R i y (set h (f i) p x (f i))) (j : ι) :
    R j (Function.update t i y j) (set h (f i) p x (f j)) := by
  by_cases hj : j = i
  · subst hj
    rwa [Function.update_self]
  · rw [Function.update_of_ne hj, set_of_kind_ne _ _ _ fun heq => hj (hf heq)]
    exact hold j

/-- What holds of the objects of all kinds, after one of them was changed. -/
theorem forall_set (hf : Function.Injective f) {P : (i : ι) → Obj (f i) → Prop}
    (hold : ∀ i q o, h (f i) q = some o → P i o) {x : Option (Obj (f i))}
    (hnew : ∀ o, x = some o → P i o) {o : Obj (f j)} (ho : set h (f i) p x (f j) q = some o) :
    P j o := by
  by_cases hj : f j = f i
  · obtain rfl := hf hj
    rw [set_apply] at ho
    split_ifs at ho
    · exact hnew o ho
    · exact hold j q o ho
  · rw [set_of_kind_ne _ _ _ hj] at ho
    exact hold j q o ho

end Family

/-! ## Ownership -/

section Ownership

variable (refs : (k : Kind) → Obj k → List (Kind × Ptr))

/-- Some object holds the reference `r`. -/
def Owned (h : Heap Ptr Obj) (r : Kind × Ptr) : Prop := ∃ k p o, h k p = some o ∧ r ∈ refs k o

/-- Every reference leads to an object. -/
def Closed (h : Heap Ptr Obj) : Prop := ∀ r, Owned refs h r → (h r.1 r.2).isSome

variable {refs}

omit [DecidableEq Kind] [DecidableEq Ptr] in
theorem closed_empty : Closed refs (fun _ _ => none : Heap Ptr Obj) := by
  rintro r ⟨k, p, o, ho, -⟩
  cases ho

omit [DecidableEq Kind] [DecidableEq Ptr] in
/-- The object a live object refers to. -/
theorem Closed.get {h : Heap Ptr Obj} (hc : Closed refs h) {k : Kind} {p : Ptr} {o : Obj k}
    (ho : h k p = some o) {k' : Kind} {q : Ptr} (hr : (k', q) ∈ refs k o) :
    ∃ o', h k' q = some o' :=
  Option.isSome_iff_exists.mp (hc (k', q) ⟨k, p, o, ho, hr⟩)

/-- Creating or changing an object whose references are live. -/
theorem Closed.set_some {h : Heap Ptr Obj} (hc : Closed refs h) {k : Kind} {p : Ptr} {o : Obj k}
    (hrefs : ∀ r ∈ refs k o, (h r.1 r.2).isSome) : Closed refs (set h k p (some o)) := by
  rintro r ⟨k', p', o', ho', hr⟩
  refine isSome_set_some h k r.1 p r.2 o ?_
  by_cases hk : k' = k
  · subst hk
    rw [set_apply] at ho'
    split_ifs at ho' with hp
    · obtain rfl := Option.some.inj ho'
      exact hrefs r hr
    · exact hc r ⟨k', p', o', ho', hr⟩
  · rw [set_of_kind_ne h p _ hk] at ho'
    exact hc r ⟨k', p', o', ho', hr⟩

/-- Destroying an object that nothing refers to. -/
theorem Closed.set_none {h : Heap Ptr Obj} (hc : Closed refs h) {k : Kind} {p : Ptr}
    (hunowned : ¬ Owned refs h (k, p)) : Closed refs (set h k p none) := by
  rintro r ⟨k', p', o', ho', hr⟩
  have hold : Owned refs h r := by
    by_cases hk : k' = k
    · subst hk
      rw [set_apply] at ho'
      split_ifs at ho'
      exact ⟨k', p', o', ho', hr⟩
    · rw [set_of_kind_ne h p _ hk] at ho'
      exact ⟨k', p', o', ho', hr⟩
  obtain ⟨kr, q⟩ := r
  have hlive := hc _ hold
  by_cases hk : kr = k
  · subst hk
    have hq : q ≠ p := fun heq => hunowned (heq ▸ hold)
    simpa only [set_of_ptr_ne h kr _ hq] using hlive
  · simpa only [set_of_kind_ne h p _ hk] using hlive

end Ownership

/-! ## Numbering -/

section Numbering

variable {k : Kind} {ε β : Type*} (setIndex : ℕ → Obj k → Obj k)
  (emit : Heap Ptr Obj → Obj k → Except ε β) (dangling : ε)

/-- Visits the objects of a list in turn: computes the output for the object,
then stores the next number in it.  Stops at the first error. -/
def numberAll : List Ptr → ℕ → Heap Ptr Obj → Except ε (List β) × Heap Ptr Obj
  | [], _, h => (.ok [], h)
  | p :: ps, n, h =>
    match h k p with
    | none => (.error dangling, h)
    | some o =>
      match emit h o with
      | .error e => (.error e, h)
      | .ok b =>
        let r := numberAll ps (n + 1) (set h k p (some (setIndex n o)))
        (r.1.map (b :: ·), r.2)

/-- From `h` to `h'` only numbers of objects of kind `k` have changed. -/
structure SameButIndex (h h' : Heap Ptr Obj) : Prop where
  kinds : ∀ k', k' ≠ k → h' k' = h k'
  objects : ∀ p, h' k p = h k p ∨ ∃ i o, h k p = some o ∧ h' k p = some (setIndex i o)

variable {setIndex emit dangling}

omit [DecidableEq Kind] [DecidableEq Ptr] in
theorem SameButIndex.refl (h : Heap Ptr Obj) : SameButIndex setIndex h h :=
  ⟨fun _ _ => rfl, fun _ => Or.inl rfl⟩

omit [DecidableEq Kind] [DecidableEq Ptr] in
/-- Renumbering does not look at the old number. -/
theorem SameButIndex.trans (hset : ∀ i j o, setIndex j (setIndex i o) = setIndex j o)
    {h₁ h₂ h₃ : Heap Ptr Obj} (h₁₂ : SameButIndex setIndex h₁ h₂)
    (h₂₃ : SameButIndex setIndex h₂ h₃) : SameButIndex setIndex h₁ h₃ := by
  refine ⟨fun k' hk => (h₂₃.kinds k' hk).trans (h₁₂.kinds k' hk), fun p => ?_⟩
  rcases h₂₃.objects p with heq | ⟨j, o, ho, ho'⟩
  · rw [heq]
    exact h₁₂.objects p
  · rcases h₁₂.objects p with heq | ⟨i, o₁, ho₁, ho₁'⟩
    · exact Or.inr ⟨j, o, heq ▸ ho, ho'⟩
    · obtain rfl := Option.some.inj (ho₁'.symm.trans ho)
      exact Or.inr ⟨j, o₁, ho₁, by rw [ho', hset]⟩

theorem sameButIndex_set {h : Heap Ptr Obj} {p : Ptr} {o : Obj k} (ho : h k p = some o) (i : ℕ) :
    SameButIndex setIndex h (set h k p (some (setIndex i o))) := by
  refine ⟨fun k' hk => set_of_kind_ne h p _ hk, fun q => ?_⟩
  by_cases hq : q = p
  · subst hq
    exact Or.inr ⟨i, o, ho, set_self h k q _⟩
  · exact Or.inl (set_of_ptr_ne h k _ hq)

/-- The loop changes numbers only, even if it stops at an error. -/
theorem numberAll_frame (hset : ∀ i j o, setIndex j (setIndex i o) = setIndex j o)
    (ps : List Ptr) (n : ℕ) (h : Heap Ptr Obj) :
    SameButIndex setIndex h (numberAll setIndex emit dangling ps n h).2 := by
  induction ps generalizing n h with
  | nil => exact SameButIndex.refl h
  | cons p ps ih =>
    rw [numberAll]
    split
    · exact SameButIndex.refl h
    · rename_i o ho
      split
      · exact SameButIndex.refl h
      · exact (sameButIndex_set ho n).trans hset (ih (n + 1) _)

/-- What the loop leaves behind when it completes: the object at position `i` of
the list has the number `n + i`, and the output at `i` is its output. -/
structure Numbered (setIndex : ℕ → Obj k → Obj k) (emit : Heap Ptr Obj → Obj k → Except ε β)
    (ps : List Ptr) (n : ℕ) (h h' : Heap Ptr Obj) (out : List β) : Prop where
  length_eq : out.length = ps.length
  numbered : ∀ i (hi : i < ps.length), ∃ o b, h k ps[i] = some o ∧ out[i]? = some b ∧
    emit h o = .ok b ∧ h' k ps[i] = some (setIndex (n + i) o)
  others : ∀ p, p ∉ ps → h' k p = h k p
  kinds : ∀ k', k' ≠ k → h' k' = h k'

/-- **The loop numbers the objects of the list consecutively.**  The output for
an object may depend on objects of other kinds, which the loop does not change. -/
theorem numberAll_ok (hemit : ∀ h h' o, (∀ k', k' ≠ k → h' k' = h k') → emit h' o = emit h o)
    {ps : List Ptr} (hps : ps.Nodup) {n : ℕ} {h h' : Heap Ptr Obj} {out : List β}
    (hrun : numberAll setIndex emit dangling ps n h = (.ok out, h')) :
    Numbered setIndex emit ps n h h' out := by
  induction ps generalizing n h out with
  | nil =>
    rw [numberAll, Prod.mk.injEq, Except.ok.injEq] at hrun
    obtain ⟨rfl, rfl⟩ := hrun
    exact ⟨rfl, fun i hi => absurd hi (Nat.not_lt_zero i), fun _ _ => rfl, fun _ _ => rfl⟩
  | cons p ps ih =>
    rw [List.nodup_cons] at hps
    rw [numberAll] at hrun
    split at hrun
    · simp at hrun
    rename_i o ho
    split at hrun
    · simp at hrun
    rename_i b hb
    rw [Prod.mk.injEq] at hrun
    obtain ⟨hout, hheap⟩ := hrun
    generalize hrest : numberAll setIndex emit dangling ps (n + 1)
      (set h k p (some (setIndex n o))) = r at hheap hout
    obtain ⟨res, h₂⟩ := r
    cases res with
    | error e => simp [Except.map] at hout
    | ok out' =>
      obtain rfl : h₂ = h' := hheap
      obtain rfl : b :: out' = out := Except.ok.inj hout
      have hn := ih hps.2 hrest
      have hkinds : ∀ k', k' ≠ k → set h k p (some (setIndex n o)) k' = h k' :=
        fun k' hk => set_of_kind_ne h p _ hk
      refine ⟨by simp [hn.length_eq], ?_, ?_, fun k' hk => (hn.kinds k' hk).trans (hkinds k' hk)⟩
      · intro i hi
        cases i with
        | zero =>
          refine ⟨o, b, ho, rfl, hb, ?_⟩
          rw [List.getElem_cons_zero, hn.others p hps.1, set_self, Nat.add_zero]
        | succ i =>
          have hi' : i < ps.length := Nat.lt_of_succ_lt_succ hi
          obtain ⟨o', b', ho', hb', hemit', hnew⟩ := hn.numbered i hi'
          have hne : ps[i] ≠ p := fun heq => hps.1 (heq ▸ List.getElem_mem hi')
          refine ⟨o', b', ?_, ?_, ?_, ?_⟩
          · rw [List.getElem_cons_succ, ← ho', set_of_ptr_ne h k _ hne]
          · rw [List.getElem?_cons_succ, hb']
          · rw [← hemit', hemit _ _ o' hkinds]
          · rw [List.getElem_cons_succ, hnew, Nat.add_right_comm, Nat.add_assoc]
      · intro q hq
        rw [List.mem_cons, not_or] at hq
        rw [hn.others q hq.2, set_of_ptr_ne h k _ hq.1]

end Numbering

end TypedHeap
