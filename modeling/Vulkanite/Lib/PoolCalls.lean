/-
# Calls on pools

A pool is created, items are allocated from it and freed again, and it is destroyed,
which frees the items that it still has.  The calls name pools and items by handles,
and a handle is never given out twice.

`live` is what a list of calls leaves alive.  It is `none` as soon as a call destroys a
pool that is not alive, or frees an item into a pool that is not alive or that the item
does not belong to; `Safe` says that no call does.
-/
import Mathlib.Tactic

namespace PoolCalls

variable {H : Type*}

/-- The calls. -/
inductive Call (H : Type*) where
  | create (pool : H)
  | destroy (pool : H)
  | allocate (pool item : H)
  | free (pool item : H)
  deriving DecidableEq, Repr

/-- The pool that a call names. -/
def Call.pool : Call H → H
  | .create p => p
  | .destroy p => p
  | .allocate p _ => p
  | .free p _ => p

/-- The pools that are alive, and the items that are, each with its pool. -/
structure Live (H : Type*) where
  pools : Finset H := ∅
  items : Finset (H × H) := ∅

variable [DecidableEq H]

/-- What a call does. -/
def Live.exec (l : Live H) : Call H → Option (Live H)
  | .create p => some { l with pools := insert p l.pools }
  | .destroy p =>
    if p ∈ l.pools then
      some { pools := l.pools.erase p, items := l.items.filter fun x => x.1 ≠ p }
    else none
  | .allocate p i => some { l with items := insert (p, i) l.items }
  | .free p i =>
    if p ∈ l.pools ∧ (p, i) ∈ l.items then some { l with items := l.items.erase (p, i) }
    else none

/-- What is alive after the calls. -/
def live (calls : List (Call H)) : Option (Live H) := calls.foldlM Live.exec {}

/-- No call destroys a dead pool, or frees a dead item or into a dead pool. -/
def Safe (calls : List (Call H)) : Prop := live calls ≠ none

/-- Calls are executed one after the other. -/
theorem live_append (calls calls' : List (Call H)) :
    live (calls ++ calls') = (live calls).bind fun l => calls'.foldlM Live.exec l := by
  rw [live, List.foldlM_append]
  rfl

theorem live_concat (calls : List (Call H)) (c : Call H) :
    live (calls ++ [c]) = (live calls).bind fun l => l.exec c := by
  simp [live_append]

/-- Once unsafe, always unsafe. -/
theorem Safe.mono {calls calls' : List (Call H)} (h : Safe calls')
    (hpre : calls <+: calls') : Safe calls := by
  obtain ⟨more, rfl⟩ := hpre
  intro hnone
  rw [Safe, live_append, hnone] at h
  exact h rfl

/-! ## What calls leave alone -/

/-- What is alive of the pools other than those of `own` stays alive. -/
structure Keeps (own : H → Prop) (l l' : Live H) : Prop where
  pools : ∀ p, ¬ own p → p ∈ l.pools → p ∈ l'.pools
  items : ∀ p i, ¬ own p → (p, i) ∈ l.items → (p, i) ∈ l'.items

omit [DecidableEq H] in
/-- Nothing was changed. -/
theorem Keeps.refl (own : H → Prop) (l : Live H) : Keeps own l l :=
  ⟨fun _ _ hp => hp, fun _ _ _ hi => hi⟩

omit [DecidableEq H] in
/-- What two lists of calls may change together. -/
theorem Keeps.trans {own own' : H → Prop} {l l' l'' : Live H} (h : Keeps own l l')
    (h' : Keeps own' l' l'') : Keeps (fun p => own p ∨ own' p) l l'' where
  pools := fun p hp hlive =>
    h'.pools p (fun hown => hp (Or.inr hown)) (h.pools p (fun hown => hp (Or.inl hown)) hlive)
  items := fun p i hp hlive =>
    h'.items p i (fun hown => hp (Or.inr hown)) (h.items p i (fun hown => hp (Or.inl hown)) hlive)

omit [DecidableEq H] in
theorem Keeps.mono {own own' : H → Prop} {l l' : Live H} (h : Keeps own l l')
    (hown : ∀ p, own p → own' p) : Keeps own' l l' where
  pools := fun p hp => h.pools p fun h' => hp (hown p h')
  items := fun p i hp => h.items p i fun h' => hp (hown p h')

/-- A call only changes the pool it names. -/
theorem Live.keeps_of_exec {l l' : Live H} {c : Call H} (h : l.exec c = some l') :
    Keeps (· = c.pool) l l' := by
  cases c with
  | create p =>
    obtain rfl := Option.some.inj h
    exact ⟨fun q _ hq => Finset.mem_insert_of_mem hq, fun _ _ _ hi => hi⟩
  | destroy p =>
    rw [Live.exec, Option.ite_none_right_eq_some] at h
    obtain ⟨-, h⟩ := h
    obtain rfl := Option.some.inj h
    refine ⟨fun q hne hq => Finset.mem_erase.mpr ⟨hne, hq⟩, fun q i hne hi => ?_⟩
    exact Finset.mem_filter.mpr ⟨hi, hne⟩
  | allocate p i =>
    obtain rfl := Option.some.inj h
    exact ⟨fun _ _ hq => hq, fun _ _ _ hi => Finset.mem_insert_of_mem hi⟩
  | free p i =>
    rw [Live.exec, Option.ite_none_right_eq_some] at h
    obtain ⟨-, h⟩ := h
    obtain rfl := Option.some.inj h
    refine ⟨fun _ _ hq => hq, fun q j hne hi => Finset.mem_erase.mpr ⟨fun heq => hne ?_, hi⟩⟩
    exact (Prod.mk.inj heq).1

end PoolCalls
