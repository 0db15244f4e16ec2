/-
# Ledgers of handles

An object keeps raw handles of a device in its slots.  What a function of the object does
with them is a list of commands: it creates a handle in a slot, which may fail, destroys
the one that is there, or does something else that may throw.  A function that throws
stops in the middle; if it was a constructor, there is no object and no destructor runs.

`check` follows a list of commands and knows of each slot whether it is empty.  It says no
if a handle could be overwritten, or destroyed twice, wherever the list stops.  For
classes whose functions pass, `Reachable.balanced` holds of every run of any number of
objects: a handle that is destroyed is alive, and what is alive is held in exactly one
slot of one object, or was left behind by a constructor that threw.
-/
import Mathlib.Tactic

namespace HandleLedger

/-! ## Commands -/

/-- What a function does with the handles of its object. -/
inductive Cmd (S : Type*) where
  /-- Something that may throw, and touches no slot. -/
  | call
  /-- Creates a handle in a slot, and throws if that fails. -/
  | create (s : S)
  /-- Creates a handle in a slot, and does not look whether that fails. -/
  | tryCreate (s : S)
  /-- Creates a handle, and throws if that fails; then destroys the one in the slot. -/
  | replace (s : S)
  /-- Destroys the handle in a slot, if there is one, and empties the slot. -/
  | reset (s : S)
  /-- The same, if there is a handle in the slot `t`. -/
  | resetIf (t s : S)
  /-- Destroys the handle in a slot, and leaves the slot as it is. -/
  | destroy (s : S)
  deriving DecidableEq, Repr

/-- The command can throw. -/
def Cmd.CanThrow {S : Type*} : Cmd S → Prop
  | .call | .create _ | .replace _ => True
  | _ => False

instance {S : Type*} : DecidablePred (Cmd.CanThrow (S := S)) := fun c => by
  cases c <;> unfold Cmd.CanThrow <;> infer_instance

/-- The slot that a command may put a handle in. -/
def Cmd.fills {S : Type*} : Cmd S → Option S
  | .create s | .tryCreate s | .replace s => some s
  | _ => none

/-- The handles that are alive; those from `next` on were never given out. -/
structure Device where
  live : Finset ℕ := ∅
  next : ℕ := 0
  deriving DecidableEq

/-- A new handle. -/
def Device.create (d : Device) : Device := ⟨insert d.next d.live, d.next + 1⟩

/-- Destroys a handle, or no handle.  There is no result if the handle is not alive. -/
def Device.destroy (d : Device) : Option ℕ → Option Device
  | none => some d
  | some h => if h ∈ d.live then some { d with live := d.live.erase h } else none

/-- The slots of an object, and the device. -/
structure State (S : Type*) where
  slots : S → Option ℕ
  device : Device

section Exec

variable {S : Type*} [DecidableEq S]

/-- A new handle in a slot. -/
def State.create (st : State S) (s : S) : State S :=
  ⟨Function.update st.slots s (some st.device.next), st.device.create⟩

/-- The handle in a slot is destroyed, and the slot emptied. -/
def State.reset (st : State S) (s : S) : Option (State S) :=
  (st.device.destroy (st.slots s)).map fun d => ⟨Function.update st.slots s none, d⟩

/-- One command, which succeeds if `ok`: whether it throws, and the state afterwards. -/
def exec (ok : Bool) (st : State S) : Cmd S → Option (Bool × State S)
  | .call => some (!ok, st)
  | .create s => some (if ok then (false, st.create s) else (true, st))
  | .tryCreate s => some (false, if ok then st.create s else st)
  | .replace s =>
    if ok then (st.device.create.destroy (st.slots s)).map fun d =>
      (false, ⟨Function.update st.slots s (some st.device.next), d⟩)
    else some (true, st)
  | .reset s => (st.reset s).map (false, ·)
  | .resetIf t s => if (st.slots t).isSome then (st.reset s).map (false, ·) else some (false, st)
  | .destroy s => (st.device.destroy (st.slots s)).map fun d => (false, { st with device := d })

/-- A list of commands, up to the first that throws; `ok` says which succeed. -/
def run (ok : ℕ → Bool) : ℕ → List (Cmd S) → State S → Option (Bool × State S)
  | _, [], st => some (false, st)
  | n, c :: cs, st =>
    (exec (ok n) st c).bind fun r => if r.1 then some r else run ok (n + 1) cs r.2

theorem Device.next_of_destroy {d d' : Device} {o : Option ℕ} (h : d.destroy o = some d') :
    d'.next = d.next := by
  unfold Device.destroy at h
  split at h
  · rw [Option.some.inj h]
  · split_ifs at h
    rw [← Option.some.inj h]

/-- A slot that is emptied. -/
theorem State.of_reset {st st' : State S} {s : S} (h : st.reset s = some st') :
    st'.device.next = st.device.next ∧ ∀ t x, st'.slots t = some x → st.slots t = some x := by
  obtain ⟨d, hd, rfl⟩ := Option.map_eq_some_iff.mp h
  refine ⟨Device.next_of_destroy hd, fun t x hx => ?_⟩
  by_cases ht : t = s
  · simp [ht] at hx
  · simpa [ht] using hx

/-- A command puts new handles in the slot that it fills, and none in the others. -/
theorem exec_slots {ok : Bool} {st st' : State S} {c : Cmd S} {thrown : Bool}
    (h : exec ok st c = some (thrown, st')) :
    st.device.next ≤ st'.device.next ∧ ∀ s x, st'.slots s = some x →
      st.slots s = some x ∨ c.fills = some s ∧ st.device.next ≤ x := by
  have hupdate : ∀ (s t : S) (x : ℕ),
      Function.update st.slots s (some st.device.next) t = some x →
      st.slots t = some x ∨ some s = some t ∧ st.device.next ≤ x := by
    intro s t x hx
    by_cases ht : t = s
    · subst ht
      rw [Function.update_self, Option.some.injEq] at hx
      exact Or.inr ⟨rfl, hx.le⟩
    · rw [Function.update_of_ne ht] at hx
      exact Or.inl hx
  cases c with
  | call =>
    obtain ⟨-, rfl⟩ := Prod.mk.inj (Option.some.inj h)
    exact ⟨le_rfl, fun s x hx => Or.inl hx⟩
  | create s =>
    cases ok with
    | false =>
      obtain ⟨-, rfl⟩ := Prod.mk.inj (Option.some.inj h)
      exact ⟨le_rfl, fun s x hx => Or.inl hx⟩
    | true =>
      obtain ⟨-, rfl⟩ := Prod.mk.inj (Option.some.inj h)
      exact ⟨Nat.le_succ _, hupdate s⟩
  | tryCreate s =>
    cases ok with
    | false =>
      obtain ⟨-, rfl⟩ := Prod.mk.inj (Option.some.inj h)
      exact ⟨le_rfl, fun s x hx => Or.inl hx⟩
    | true =>
      obtain ⟨-, rfl⟩ := Prod.mk.inj (Option.some.inj h)
      exact ⟨Nat.le_succ _, hupdate s⟩
  | replace s =>
    cases ok with
    | false =>
      obtain ⟨-, rfl⟩ := Prod.mk.inj (Option.some.inj h)
      exact ⟨le_rfl, fun s x hx => Or.inl hx⟩
    | true =>
      obtain ⟨d, hd, heq⟩ := Option.map_eq_some_iff.mp h
      obtain ⟨-, rfl⟩ := Prod.mk.inj heq
      exact ⟨(Nat.le_succ _).trans (Device.next_of_destroy hd).ge, hupdate s⟩
  | reset s =>
    obtain ⟨st₁, hreset, heq⟩ := Option.map_eq_some_iff.mp h
    obtain ⟨-, rfl⟩ := Prod.mk.inj heq
    exact ⟨(State.of_reset hreset).1.ge, fun t x hx => Or.inl ((State.of_reset hreset).2 t x hx)⟩
  | resetIf t s =>
    simp only [exec] at h
    split_ifs at h
    · obtain ⟨st₁, hreset, heq⟩ := Option.map_eq_some_iff.mp h
      obtain ⟨-, rfl⟩ := Prod.mk.inj heq
      exact ⟨(State.of_reset hreset).1.ge,
        fun t x hx => Or.inl ((State.of_reset hreset).2 t x hx)⟩
    · obtain ⟨-, rfl⟩ := Prod.mk.inj (Option.some.inj h)
      exact ⟨le_rfl, fun s x hx => Or.inl hx⟩
  | destroy s =>
    obtain ⟨d, hd, heq⟩ := Option.map_eq_some_iff.mp h
    obtain ⟨-, rfl⟩ := Prod.mk.inj heq
    exact ⟨(Device.next_of_destroy hd).ge, fun t x hx => Or.inl hx⟩

/-- What is in a slot after a list of commands was there before, or is new. -/
theorem run_slots {ok : ℕ → Bool} {n : ℕ} {cs : List (Cmd S)} {st st' : State S} {thrown : Bool}
    (h : run ok n cs st = some (thrown, st')) :
    st.device.next ≤ st'.device.next ∧ ∀ s x, st'.slots s = some x →
      st.slots s = some x ∨ (∃ c ∈ cs, c.fills = some s) ∧ st.device.next ≤ x := by
  induction cs generalizing n st with
  | nil =>
    obtain ⟨-, rfl⟩ := Prod.mk.inj (Option.some.inj h)
    exact ⟨le_rfl, fun s x hx => Or.inl hx⟩
  | cons c cs ih =>
    obtain ⟨⟨thrown₁, st₁⟩, hexec, h⟩ := Option.bind_eq_some_iff.mp h
    obtain ⟨hnext, hslots⟩ := exec_slots hexec
    have hfirst : ∀ s x, st₁.slots s = some x →
        st.slots s = some x ∨ (∃ c' ∈ c :: cs, c'.fills = some s) ∧ st.device.next ≤ x :=
      fun s x hx => (hslots s x hx).imp id fun hnew => ⟨⟨c, List.mem_cons_self, hnew.1⟩, hnew.2⟩
    cases thrown₁ with
    | true =>
      obtain ⟨-, rfl⟩ := Prod.mk.inj (Option.some.inj h)
      exact ⟨hnext, hfirst⟩
    | false =>
      obtain ⟨hnext', hslots'⟩ := ih h
      refine ⟨hnext.trans hnext', fun s x hx => ?_⟩
      rcases hslots' s x hx with hold | ⟨⟨c', hc', hfills⟩, hnew⟩
      · exact hfirst s x hold
      · exact Or.inr ⟨⟨c', List.mem_cons_of_mem c hc', hfills⟩, hnext.trans hnew⟩

/-- A command that cannot throw. -/
theorem exec_thrown {ok : Bool} {st st' : State S} {c : Cmd S} {thrown : Bool}
    (hc : ¬ c.CanThrow) (h : exec ok st c = some (thrown, st')) : thrown = false := by
  cases c with
  | call | create | replace => exact absurd trivial hc
  | tryCreate s => exact (Prod.mk.inj (Option.some.inj h)).1.symm
  | reset s | destroy s =>
    obtain ⟨_, _, heq⟩ := Option.map_eq_some_iff.mp h
    exact (Prod.mk.inj heq).1.symm
  | resetIf t s =>
    simp only [exec] at h
    split_ifs at h
    · obtain ⟨_, _, heq⟩ := Option.map_eq_some_iff.mp h
      exact (Prod.mk.inj heq).1.symm
    · exact (Prod.mk.inj (Option.some.inj h)).1.symm

/-- A list in which no command can throw runs to its end. -/
theorem run_thrown {ok : ℕ → Bool} {n : ℕ} {cs : List (Cmd S)} {st st' : State S} {thrown : Bool}
    (hcs : ∀ c ∈ cs, ¬ c.CanThrow) (h : run ok n cs st = some (thrown, st')) :
    thrown = false := by
  induction cs generalizing n st with
  | nil => exact (Prod.mk.inj (Option.some.inj h)).1.symm
  | cons c cs ih =>
    obtain ⟨⟨thrown₁, st₁⟩, hexec, h⟩ := Option.bind_eq_some_iff.mp h
    obtain rfl := exec_thrown (hcs c List.mem_cons_self) hexec
    exact ih (fun c' hc' => hcs c' (List.mem_cons_of_mem c hc')) h

/-- A list that empties a slot before anything can throw leaves no old handle in it. -/
theorem run_reset {ok : ℕ → Bool} {n : ℕ} {before after : List (Cmd S)} {s : S} {st st' : State S}
    {thrown : Bool} (hbefore : ∀ c ∈ before, ¬ c.CanThrow)
    (h : run ok n (before ++ .reset s :: after) st = some (thrown, st')) {x : ℕ}
    (hx : st'.slots s = some x) : st.device.next ≤ x := by
  induction before generalizing n st with
  | nil =>
    obtain ⟨⟨thrown₁, st₁⟩, hexec, h⟩ := Option.bind_eq_some_iff.mp h
    obtain ⟨st₂, hreset, heq⟩ := Option.map_eq_some_iff.mp hexec
    obtain ⟨rfl, rfl⟩ := Prod.mk.inj heq
    obtain ⟨d, -, rfl⟩ := Option.map_eq_some_iff.mp hreset
    have hnext := (State.of_reset hreset).1
    rcases (run_slots h).2 s x hx with hold | ⟨-, hnew⟩
    · simp at hold
    · exact hnext.ge.trans hnew
  | cons c before ih =>
    obtain ⟨⟨thrown₁, st₁⟩, hexec, h⟩ := Option.bind_eq_some_iff.mp h
    obtain rfl := exec_thrown (hbefore c List.mem_cons_self) hexec
    exact (exec_slots hexec).1.trans
      (ih (fun c' hc' => hbefore c' (List.mem_cons_of_mem c hc')) h)

/-! ## What is known of the slots -/

/-- What is known of a slot: there is no handle, there may be one that is alive, or the
handle is dead. -/
inductive Known where
  | empty
  | any
  | dead
  deriving DecidableEq, Repr

/-- What is known after a command that did not throw; nothing if the command may lose a
handle or destroy a dead one. -/
def Cmd.after (k : S → Known) : Cmd S → Option (S → Known)
  | .call => some k
  | .create s | .tryCreate s =>
    if k s = .empty then some (Function.update k s .any) else none
  | .replace s => if k s = .dead then none else some (Function.update k s .any)
  | .reset s => if k s = .dead then none else some (Function.update k s .empty)
  | .resetIf t s => if k t = .dead ∨ k s = .dead then none else some k
  | .destroy s => if k s = .dead then none else some (Function.update k s .dead)

variable [Fintype S]

/-- What is known after a list of commands; nothing if it is not safe. -/
def check (k : S → Known) : List (Cmd S) → Option (S → Known)
  | [] => some k
  | c :: cs =>
    -- a function that throws leaves no dead handles behind
    if c.CanThrow ∧ ∃ s, k s = .dead then none else (c.after k).bind fun k' => check k' cs

/-- Whenever the list of commands throws, all slots are empty. -/
def Clean (k : S → Known) : List (Cmd S) → Prop
  | [] => True
  | c :: cs => (c.CanThrow → ∀ s, k s = .empty) ∧ ∀ k' ∈ c.after k, Clean k' cs

instance decidableClean (k : S → Known) : (cs : List (Cmd S)) → Decidable (Clean k cs)
  | [] => .isTrue trivial
  | c :: cs =>
    have : DecidablePred fun k' => Clean k' cs := fun k' => decidableClean k' cs
    inferInstanceAs (Decidable ((c.CanThrow → ∀ s, k s = .empty) ∧ ∀ k' ∈ c.after k, Clean k' cs))

end Exec

/-! ## Who holds what -/

/-- What is alive is held by one of the holders, or is one of `others`. -/
structure Holds {I : Type*} (held : I → Option ℕ) (d : Device) (others : Set ℕ) : Prop where
  live : ∀ h, h ∈ d.live ↔ h ∈ others ∨ ∃ i, held i = some h
  apart : ∀ i h, held i = some h → h ∉ others
  injective : ∀ i j h, held i = some h → held j = some h → i = j
  fresh : ∀ h ∈ d.live, h < d.next

namespace Holds

variable {I : Type*} [DecidableEq I] {held : I → Option ℕ} {d : Device} {others : Set ℕ}

omit [DecidableEq I] in
theorem mem_live (h : Holds held d others) {i : I} {x : ℕ} (hx : held i = some x) : x ∈ d.live :=
  (h.live x).mpr (Or.inr ⟨i, hx⟩)

/-- A holder without a handle gets a new one. -/
theorem create (h : Holds held d others) {i : I} (hi : held i = none) :
    Holds (Function.update held i (some d.next)) d.create others := by
  have hnext : d.next ∉ d.live := fun hlive => lt_irrefl _ (h.fresh _ hlive)
  have hiff : ∀ j x, Function.update held i (some d.next) j = some x ↔
      (j = i ∧ x = d.next) ∨ held j = some x := by
    intro j x
    rw [Function.update_apply]
    split_ifs with hj
    · simp [hj, hi, eq_comm]
    · simp [hj]
  refine ⟨fun x => ?_, fun j x hx => ?_, fun j j' x hx hx' => ?_, fun x hx => ?_⟩
  · rw [Device.create, Finset.mem_insert, h.live]
    simp only [hiff]
    constructor
    · rintro (rfl | hx | ⟨j, hx⟩)
      · exact Or.inr ⟨i, Or.inl ⟨rfl, rfl⟩⟩
      · exact Or.inl hx
      · exact Or.inr ⟨j, Or.inr hx⟩
    · rintro (hx | ⟨j, ⟨-, rfl⟩ | hx⟩)
      · exact Or.inr (Or.inl hx)
      · exact Or.inl rfl
      · exact Or.inr (Or.inr ⟨j, hx⟩)
  · rcases (hiff j x).mp hx with ⟨-, rfl⟩ | hx
    · exact fun hothers => hnext ((h.live _).mpr (Or.inl hothers))
    · exact h.apart j x hx
  · rcases (hiff j x).mp hx with ⟨hj, hnew⟩ | hold
    · rcases (hiff j' x).mp hx' with ⟨hj', -⟩ | hold'
      · rw [hj, hj']
      · exact absurd (h.mem_live hold') (hnew ▸ hnext)
    · rcases (hiff j' x).mp hx' with ⟨-, hnew⟩ | hold'
      · exact absurd (h.mem_live hold) (hnew ▸ hnext)
      · exact h.injective j j' x hold hold'
  · rcases Finset.mem_insert.mp hx with rfl | hx
    · exact Nat.lt_succ_self _
    · exact Nat.lt_succ_of_lt (h.fresh x hx)

/-- What a holder holds can be destroyed. -/
theorem destroy (h : Holds held d others) (i : I) :
    ∃ d', d.destroy (held i) = some d' ∧ d'.next = d.next ∧
      Holds (Function.update held i none) d' others := by
  have hiff : ∀ j x, Function.update held i none j = some x ↔ j ≠ i ∧ held j = some x := by
    intro j x
    rw [Function.update_apply]
    split_ifs with hj <;> simp [hj]
  cases hi : held i with
  | none =>
    refine ⟨d, rfl, rfl, ?_⟩
    rw [← hi, Function.update_eq_self]
    exact h
  | some x =>
    refine ⟨{ d with live := d.live.erase x }, by rw [Device.destroy, if_pos (h.mem_live hi)], rfl,
      fun y => ?_, fun j y hy => ?_, fun j j' y hy hy' => ?_, fun y hy => ?_⟩
    · simp only [Finset.mem_erase, h.live, hiff]
      constructor
      · rintro ⟨hne, hothers | ⟨j, hj⟩⟩
        · exact Or.inl hothers
        · refine Or.inr ⟨j, ?_, hj⟩
          rintro rfl
          exact hne (Option.some.inj (hj.symm.trans hi))
      · rintro (hothers | ⟨j, hne, hj⟩)
        · exact ⟨fun heq => h.apart i x hi (heq ▸ hothers), Or.inl hothers⟩
        · exact ⟨fun heq => hne (h.injective j i x (heq ▸ hj) hi), Or.inr ⟨j, hj⟩⟩
    · exact h.apart j y ((hiff j y).mp hy).2
    · exact h.injective j j' y ((hiff j y).mp hy).2 ((hiff j' y).mp hy').2
    · exact h.fresh y (Finset.mem_of_mem_erase hy)

end Holds

/-! ## One object -/

section Owns

variable {S : Type*} [DecidableEq S] {k k' : S → Known} {st : State S} {others : Set ℕ}

/-- What a slot holds, if its handle is not known to be dead. -/
def held (k : S → Known) (st : State S) (s : S) : Option ℕ :=
  if k s = .dead then none else st.slots s

/-- The object holds what is known of its slots. -/
structure Owns (k : S → Known) (st : State S) (others : Set ℕ) : Prop where
  empty : ∀ s, k s = .empty → st.slots s = none
  holds : Holds (held k st) st.device others

theorem held_update {s : S} {x : Known} (hx : x ≠ .dead) (hs : k s ≠ .dead) (o : Option ℕ)
    (d : Device) : held (Function.update k s x) ⟨Function.update st.slots s o, d⟩ =
      Function.update (held k st) s o := by
  funext t
  by_cases ht : t = s
  · subst ht
    simp [held, hx]
  · simp [held, ht]

/-- Slots that are known to be empty, after one slot has changed. -/
theorem empty_update (h : ∀ t, k t = .empty → st.slots t = none) {s : S} {x : Known} {o : Option ℕ}
    (ho : x = .empty → o = none) (t : S) (ht : Function.update k s x t = .empty) :
    Function.update st.slots s o t = none := by
  by_cases hts : t = s
  · subst hts
    rw [Function.update_self] at ht ⊢
    exact ho ht
  · rw [Function.update_of_ne hts] at ht ⊢
    exact h t ht

namespace Owns

omit [DecidableEq S] in
/-- Less may be known. -/
theorem weaken (h : Owns k st others) (hdead : ∀ s, k s = .dead ↔ k' s = .dead)
    (hempty : ∀ s, k' s = .empty → k s = .empty) : Owns k' st others := by
  refine ⟨fun s hs => h.empty s (hempty s hs), ?_⟩
  have hheld : held k' st = held k st := by
    funext s
    simp only [held, hdead]
  rw [hheld]
  exact h.holds

theorem create (h : Owns k st others) {s : S} (hs : k s = .empty) :
    Owns (Function.update k s .any) (st.create s) others := by
  have hdead : k s ≠ .dead := by simp [hs]
  refine ⟨empty_update h.empty (by simp), ?_⟩
  rw [State.create, held_update (by decide) hdead]
  refine h.holds.create ?_
  rw [held, if_neg hdead, h.empty s hs]

theorem reset (h : Owns k st others) {s : S} (hs : k s ≠ .dead) :
    ∃ d, st.device.destroy (st.slots s) = some d ∧ d.next = st.device.next ∧
      Owns (Function.update k s .empty) ⟨Function.update st.slots s none, d⟩ others := by
  obtain ⟨d, hd, hnext, hholds⟩ := h.holds.destroy s
  rw [held, if_neg hs] at hd
  refine ⟨d, hd, hnext, empty_update h.empty (fun _ => rfl), ?_⟩
  rw [held_update (by decide) hs]
  exact hholds

theorem destroy (h : Owns k st others) {s : S} (hs : k s ≠ .dead) :
    ∃ d, st.device.destroy (st.slots s) = some d ∧
      Owns (Function.update k s .dead) { st with device := d } others := by
  obtain ⟨d, hd, -, hholds⟩ := h.holds.destroy s
  rw [held, if_neg hs] at hd
  refine ⟨d, hd, fun t ht => ?_, ?_⟩
  · by_cases hts : t = s
    · simp [hts] at ht
    · rw [Function.update_of_ne hts] at ht
      exact h.empty t ht
  · have hheld : held (Function.update k s .dead) { st with device := d } =
        Function.update (held k st) s none := by
      funext t
      by_cases hts : t = s
      · subst hts
        simp [held]
      · simp [held, hts]
    rw [hheld]
    exact hholds

/-- Creating first and destroying then is the same as the other way round. -/
theorem replace (h : Owns k st others) {s : S} (hs : k s ≠ .dead) :
    ∃ d, st.device.create.destroy (st.slots s) = some d ∧
      Owns (Function.update k s .any)
        ⟨Function.update st.slots s (some st.device.next), d⟩ others := by
  obtain ⟨d, hd, hnext, howns⟩ := h.reset hs
  have hcreate := howns.create (s := s) (Function.update_self _ _ _)
  rw [Function.update_idem, State.create, Function.update_idem, hnext] at hcreate
  refine ⟨d.create, ?_, hcreate⟩
  cases hslot : st.slots s with
  | none =>
    rw [hslot, Device.destroy, Option.some.injEq] at hd
    rw [Device.destroy, hd]
  | some x =>
    have hlive : x ∈ st.device.live := h.holds.mem_live (i := s) (by rw [held, if_neg hs, hslot])
    have hne : st.device.next ≠ x := fun heq => lt_irrefl _ (heq ▸ h.holds.fresh x hlive)
    rw [hslot, Device.destroy, if_pos hlive, Option.some.injEq] at hd
    have hlive' : x ∈ st.device.create.live := Finset.mem_insert_of_mem hlive
    rw [Device.destroy, if_pos hlive', ← hd]
    simp only [Device.create, Finset.erase_insert_of_ne hne]

/-- **One command** of a safe list finds alive what it destroys.  If it throws, nothing has
changed. -/
theorem exec_spec (h : Owns k st others) {c : Cmd S} (hc : c.after k = some k') (ok : Bool) :
    ∃ thrown st', exec ok st c = some (thrown, st') ∧
      (thrown = true → c.CanThrow ∧ st' = st) ∧ (thrown = false → Owns k' st' others) := by
  cases c with
  | call =>
    obtain rfl := Option.some.inj hc
    exact ⟨!ok, st, rfl, fun _ => ⟨trivial, rfl⟩, fun _ => h⟩
  | create s =>
    simp only [Cmd.after] at hc
    split_ifs at hc with hs
    obtain rfl := Option.some.inj hc
    cases ok with
    | false => exact ⟨true, st, rfl, fun _ => ⟨trivial, rfl⟩, by simp⟩
    | true => exact ⟨false, st.create s, rfl, by simp, fun _ => h.create hs⟩
  | tryCreate s =>
    simp only [Cmd.after] at hc
    split_ifs at hc with hs
    obtain rfl := Option.some.inj hc
    cases ok with
    | false =>
      refine ⟨false, st, rfl, by simp, fun _ => h.weaken (fun t => ?_) (fun t ht => ?_)⟩
      · by_cases hts : t = s
        · simp [hts, hs]
        · simp [hts]
      · by_cases hts : t = s
        · rw [hts, hs]
        · rwa [Function.update_of_ne hts] at ht
    | true => exact ⟨false, st.create s, rfl, by simp, fun _ => h.create hs⟩
  | replace s =>
    simp only [Cmd.after] at hc
    split_ifs at hc with hs
    obtain rfl := Option.some.inj hc
    cases ok with
    | false => exact ⟨true, st, rfl, fun _ => ⟨trivial, rfl⟩, by simp⟩
    | true =>
      obtain ⟨d, hd, howns⟩ := h.replace hs
      exact ⟨false, _, by simp only [exec, if_true, hd, Option.map_some], by simp, fun _ => howns⟩
  | reset s =>
    simp only [Cmd.after] at hc
    split_ifs at hc with hs
    obtain rfl := Option.some.inj hc
    obtain ⟨d, hd, -, howns⟩ := h.reset hs
    exact ⟨false, _, by simp only [exec, State.reset, hd, Option.map_some], by simp, fun _ => howns⟩
  | resetIf t s =>
    simp only [Cmd.after] at hc
    split_ifs at hc with hs
    obtain rfl := Option.some.inj hc
    obtain ⟨-, hs⟩ := not_or.mp hs
    obtain ⟨d, hd, -, howns⟩ := h.reset hs
    by_cases ht : (st.slots t).isSome
    · refine ⟨false, _, by simp only [exec, if_pos ht, State.reset, hd, Option.map_some], by simp,
        fun _ => howns.weaken (fun u => ?_) (fun u hu => ?_)⟩
      · by_cases hus : u = s
        · simp [hus, hs]
        · simp [hus]
      · by_cases hus : u = s
        · rw [hus, Function.update_self]
        · rwa [Function.update_of_ne hus]
    · exact ⟨false, st, by simp only [exec, if_neg ht], by simp, fun _ => h⟩
  | destroy s =>
    simp only [Cmd.after] at hc
    split_ifs at hc with hs
    obtain rfl := Option.some.inj hc
    obtain ⟨d, hd, howns⟩ := h.destroy hs
    exact ⟨false, _, by simp only [exec, hd, Option.map_some], by simp, fun _ => howns⟩

end Owns

variable [Fintype S]

/-- **A safe list of commands** destroys no handle that is not alive, wherever it stops,
and the object holds afterwards what `check` says, or nothing dead if the list threw. -/
theorem Owns.run_spec (h : Owns k st others) {cs : List (Cmd S)} (hcs : check k cs = some k')
    (ok : ℕ → Bool) (n : ℕ) :
    ∃ thrown st', run ok n cs st = some (thrown, st') ∧ (thrown = false → Owns k' st' others) ∧
      (thrown = true → ∃ k₁, (∀ s, k₁ s ≠ .dead) ∧ Owns k₁ st' others ∧
        (Clean k cs → ∀ s, st'.slots s = none)) := by
  induction cs generalizing k st n with
  | nil =>
    obtain rfl := Option.some.inj hcs
    exact ⟨false, st, rfl, fun _ => h, by simp⟩
  | cons c cs ih =>
    rw [check] at hcs
    split_ifs at hcs with hdead
    obtain ⟨k₂, hk₂, hcs⟩ := Option.bind_eq_some_iff.mp hcs
    obtain ⟨thrown, st₂, hexec, hthrown, hdone⟩ := h.exec_spec hk₂ (ok n)
    rw [run, hexec, Option.bind_some]
    cases thrown with
    | true =>
      obtain ⟨hcan, rfl⟩ := hthrown rfl
      refine ⟨true, st₂, rfl, by simp, fun _ => ⟨k, fun s hs => hdead ⟨hcan, s, hs⟩, h, ?_⟩⟩
      exact fun hclean s => h.empty s (hclean.1 hcan s)
    | false =>
      obtain ⟨thrown, st', hrun, hok, hthrow⟩ := ih (hdone rfl) hcs (n + 1)
      refine ⟨thrown, st', by simpa using hrun, hok, fun ht => ?_⟩
      obtain ⟨k₁, hk₁, howns, hclean⟩ := hthrow ht
      exact ⟨k₁, hk₁, howns, fun hc => hclean (hc.2 k₂ hk₂)⟩

end Owns

/-! ## Systems -/

/-- The slots of a class, and what its functions do with them. -/
structure Class (S : Type*) where
  slots : Finset S
  ctor : List (Cmd S)
  methods : List (List (Cmd S))
  dtor : List (Cmd S)

section Class

variable {S : Type*} [DecidableEq S] [Fintype S]

/-- What is known between calls: there is nothing in the slots of other classes. -/
def Class.known (c : Class S) (s : S) : Known := if s ∈ c.slots then .any else .empty

/-- The functions of the class are safe and use its slots only; the destructor does not
throw and leaves nothing behind. -/
def Class.Safe (c : Class S) : Prop :=
  (∃ k ∈ check (fun _ => .empty) c.ctor, ∀ s, k s ≠ .dead) ∧
    (∀ cs ∈ c.methods, ∃ k ∈ check c.known cs, ∀ s, k s ≠ .dead) ∧
    (∃ k ∈ check c.known c.dtor, ∀ s, k s ≠ .any) ∧
    (∀ cmd ∈ c.dtor, ¬ cmd.CanThrow) ∧
    ∀ cs ∈ c.ctor :: c.methods, ∀ cmd ∈ cs, ∀ s ∈ cmd.fills, s ∈ c.slots

instance (c : Class S) : Decidable c.Safe := inferInstanceAs (Decidable (_ ∧ _ ∧ _ ∧ _ ∧ _))

/-- A constructor that throws has created nothing. -/
def Class.CtorClean (c : Class S) : Prop := Clean (fun _ => .empty) c.ctor

instance (c : Class S) : Decidable c.CtorClean := inferInstanceAs (Decidable (Clean _ _))

end Class

/-- The live objects with their classes and slots, the device, and the handles that
constructors of a class left behind. -/
structure System (P C S : Type*) where
  objs : P → Option C := fun _ => none
  slots : P → S → Option ℕ := fun _ _ => none
  device : Device := {}
  leaked : C → Set ℕ := fun _ => ∅

section System

variable {P C S : Type*} [DecidableEq P] [DecidableEq C] [DecidableEq S]

/-- A function runs on the slots of an object. -/
def System.run (y : System P C S) (ok : ℕ → Bool) (cs : List (Cmd S)) (slots : S → Option ℕ) :
    Option (Bool × State S) := HandleLedger.run ok 0 cs ⟨slots, y.device⟩

variable (cls : C → Class S)

/-- One call of a function; `ok` says which of its commands succeed. -/
inductive Step : System P C S → System P C S → Prop
  | construct (y : System P C S) (p : P) (c : C) (ok : ℕ → Bool) (st : State S)
      (hp : y.objs p = none) (hrun : y.run ok (cls c).ctor (fun _ => none) = some (false, st)) :
      Step y { y with
        objs := Function.update y.objs p (some c)
        slots := Function.update y.slots p st.slots
        device := st.device }
  | constructThrows (y : System P C S) (c : C) (ok : ℕ → Bool) (st : State S)
      (hrun : y.run ok (cls c).ctor (fun _ => none) = some (true, st)) :
      Step y { y with
        device := st.device
        leaked := Function.update y.leaked c (y.leaked c ∪ {h | ∃ s, st.slots s = some h}) }
  | method (y : System P C S) (p : P) (c : C) (cs : List (Cmd S)) (ok : ℕ → Bool) (thrown : Bool)
      (st : State S) (hp : y.objs p = some c) (hcs : cs ∈ (cls c).methods)
      (hrun : y.run ok cs (y.slots p) = some (thrown, st)) :
      Step y { y with slots := Function.update y.slots p st.slots, device := st.device }
  | destruct (y : System P C S) (p : P) (c : C) (ok : ℕ → Bool) (thrown : Bool) (st : State S)
      (hp : y.objs p = some c) (hrun : y.run ok (cls c).dtor (y.slots p) = some (thrown, st)) :
      Step y { y with
        objs := Function.update y.objs p none
        slots := Function.update y.slots p fun _ => none
        device := st.device }

/-- The states of the runs from nothing. -/
def Reachable (y : System P C S) : Prop := Relation.ReflTransGen (Step cls) {} y

/-- What is alive is held by one slot of one object, or was left behind; objects use the
slots of their class. -/
structure Balanced (y : System P C S) : Prop where
  holds : Holds (fun x : P × S => y.slots x.1 x.2) y.device {h | ∃ c, h ∈ y.leaked c}
  slots : ∀ p s h, y.slots p s = some h → ∃ c, y.objs p = some c ∧ s ∈ (cls c).slots

/-- The handles that are not those of an object. -/
def System.others (y : System P C S) (p : P) : Set ℕ :=
  {h | (∃ c, h ∈ y.leaked c) ∨ ∃ q ≠ p, ∃ s, y.slots q s = some h}

namespace Balanced

variable {cls} {y : System P C S}

omit [DecidableEq P] [DecidableEq C] [DecidableEq S] in
/-- The slots of one object, seen alone. -/
theorem holds_slots (h : Balanced cls y) (p : P) : Holds (y.slots p) y.device (y.others p) where
  live := fun x => by
    rw [h.holds.live]
    constructor
    · rintro (hleaked | ⟨⟨q, s⟩, hx⟩)
      · exact Or.inl (Or.inl hleaked)
      · by_cases hq : q = p
        · exact Or.inr ⟨s, hq ▸ hx⟩
        · exact Or.inl (Or.inr ⟨q, hq, s, hx⟩)
    · rintro ((hleaked | ⟨q, -, s, hx⟩) | ⟨s, hx⟩)
      · exact Or.inl hleaked
      · exact Or.inr ⟨(q, s), hx⟩
      · exact Or.inr ⟨(p, s), hx⟩
  apart := fun s x hx => by
    rintro (hleaked | ⟨q, hq, s', hx'⟩)
    · exact h.holds.apart (p, s) x hx hleaked
    · exact hq (congrArg Prod.fst (h.holds.injective (q, s') (p, s) x hx' hx))
  injective := fun s s' x hx hx' =>
    congrArg Prod.snd (h.holds.injective (p, s) (p, s') x hx hx')
  fresh := h.holds.fresh

omit [DecidableEq P] [DecidableEq C] in
/-- The functions of a class find its objects as they expect them. -/
theorem owns (h : Balanced cls y) {p : P} {c : C} (hp : y.objs p = some c) :
    Owns (cls c).known ⟨y.slots p, y.device⟩ (y.others p) := by
  have hknown : ∀ s, (cls c).known s ≠ .dead := fun s => by
    unfold Class.known
    split_ifs <;> simp
  refine ⟨fun s hs => ?_, ?_⟩
  · rw [Option.eq_none_iff_forall_ne_some]
    intro x hx
    obtain ⟨c', hc', hmem⟩ := h.slots p s x hx
    obtain rfl := Option.some.inj (hp.symm.trans hc')
    rw [Class.known, if_pos hmem] at hs
    cases hs
  · have hheld : held (cls c).known ⟨y.slots p, y.device⟩ = y.slots p := by
      funext s
      rw [held, if_neg (hknown s)]
    rw [hheld]
    exact h.holds_slots p

omit [DecidableEq P] [DecidableEq C] [DecidableEq S] in
/-- A constructor begins with empty slots, and everything belongs to others. -/
theorem owns_empty (h : Balanced cls y) :
    Owns (fun _ : S => .empty) ⟨fun _ => none, y.device⟩ {x | x ∈ y.device.live} := by
  have hheld : held (fun _ : S => Known.empty) ⟨fun _ => none, y.device⟩ = fun _ => none := by
    funext s
    simp [held]
  refine ⟨fun _ _ => rfl, ?_⟩
  rw [hheld]
  exact ⟨fun x => by simp, by simp, by simp, h.holds.fresh⟩

omit [DecidableEq C] [DecidableEq S] in
/-- The ledger after the slots of one object have changed. -/
theorem update (h : Balanced cls y) {p : P} {slots : S → Option ℕ} {d : Device}
    (hholds : Holds slots d (y.others p)) {o : Option C}
    (hslots : ∀ s x, slots s = some x → ∃ c, o = some c ∧ s ∈ (cls c).slots) :
    Balanced cls { y with
      objs := Function.update y.objs p o
      slots := Function.update y.slots p slots
      device := d } := by
  have hself : Function.update y.slots p slots p = slots := Function.update_self _ _ _
  have hother : ∀ q, q ≠ p → Function.update y.slots p slots q = y.slots q := fun q hq =>
    Function.update_of_ne hq _ _
  refine ⟨⟨fun x => ?_, ?_, ?_, hholds.fresh⟩, fun q s x hx => ?_⟩
  · rw [hholds.live]
    constructor
    · rintro ((hleaked | ⟨q, hq, s, hx⟩) | ⟨s, hx⟩)
      · exact Or.inl hleaked
      · exact Or.inr ⟨(q, s), by dsimp only; rw [hother q hq]; exact hx⟩
      · exact Or.inr ⟨(p, s), by dsimp only; rw [hself]; exact hx⟩
    · rintro (hleaked | ⟨⟨q, s⟩, hx⟩)
      · exact Or.inl (Or.inl hleaked)
      · dsimp only at hx
        by_cases hq : q = p
        · rw [hq, hself] at hx
          exact Or.inr ⟨s, hx⟩
        · rw [hother q hq] at hx
          exact Or.inl (Or.inr ⟨q, hq, s, hx⟩)
  · rintro ⟨q, s⟩ x hx
    dsimp only at hx
    by_cases hq : q = p
    · rw [hq, hself] at hx
      exact fun hleaked => hholds.apart s x hx (Or.inl hleaked)
    · rw [hother q hq] at hx
      exact h.holds.apart (q, s) x hx
  · rintro ⟨q, s⟩ ⟨q', s'⟩ x hx hx'
    dsimp only at hx hx'
    by_cases hq : q = p
    · rw [hq, hself] at hx
      by_cases hq' : q' = p
      · rw [hq', hself] at hx'
        rw [hq, hq', hholds.injective s s' x hx hx']
      · rw [hother q' hq'] at hx'
        exact absurd (Or.inr ⟨q', hq', s', hx'⟩) (hholds.apart s x hx)
    · rw [hother q hq] at hx
      by_cases hq' : q' = p
      · rw [hq', hself] at hx'
        exact absurd (Or.inr ⟨q, hq, s, hx⟩) (hholds.apart s' x hx')
      · rw [hother q' hq'] at hx'
        exact h.holds.injective (q, s) (q', s') x hx hx'
  · dsimp only at hx ⊢
    by_cases hq : q = p
    · subst hq
      rw [hself] at hx
      obtain ⟨c, hc, hmem⟩ := hslots s x hx
      exact ⟨c, by rw [Function.update_self]; exact hc, hmem⟩
    · rw [hother q hq] at hx
      obtain ⟨c, hc, hmem⟩ := h.slots q s x hx
      exact ⟨c, by rw [Function.update_of_ne hq]; exact hc, hmem⟩

omit [DecidableEq P] [DecidableEq C] [DecidableEq S] in
/-- Where there is no object the slots are empty. -/
theorem slots_eq_none (h : Balanced cls y) {p : P} (hp : y.objs p = none) (s : S) :
    y.slots p s = none := by
  rw [Option.eq_none_iff_forall_ne_some]
  intro x hx
  obtain ⟨c, hc, -⟩ := h.slots p s x hx
  rw [hp] at hc
  cases hc

omit [DecidableEq P] [DecidableEq C] [DecidableEq S] in
/-- Where there is no object everything belongs to others. -/
theorem others_eq_live (h : Balanced cls y) {p : P} (hp : y.objs p = none) :
    y.others p = {x | x ∈ y.device.live} := by
  ext x
  rw [Set.mem_ofPred_eq, (h.holds_slots p).live]
  simp [h.slots_eq_none hp]

omit [DecidableEq P] [DecidableEq S] in
/-- The ledger after a constructor has thrown. -/
theorem leak (h : Balanced cls y) {slots : S → Option ℕ} {d : Device}
    (hholds : Holds slots d {x | x ∈ y.device.live}) (c : C) :
    Balanced cls { y with
      device := d
      leaked := Function.update y.leaked c (y.leaked c ∪ {x | ∃ s, slots s = some x}) } := by
  have hleaked : ∀ x, (∃ c', x ∈ Function.update y.leaked c
      (y.leaked c ∪ {x | ∃ s, slots s = some x}) c') ↔
      (∃ c', x ∈ y.leaked c') ∨ ∃ s, slots s = some x := by
    intro x
    constructor
    · rintro ⟨c', hx⟩
      by_cases hc : c' = c
      · rw [hc, Function.update_self] at hx
        exact hx.imp (fun hx => ⟨c, hx⟩) id
      · rw [Function.update_of_ne hc] at hx
        exact Or.inl ⟨c', hx⟩
    · rintro (⟨c', hx⟩ | hx)
      · by_cases hc : c' = c
        · exact ⟨c, by rw [Function.update_self]; exact Or.inl (hc ▸ hx)⟩
        · exact ⟨c', by rw [Function.update_of_ne hc]; exact hx⟩
      · exact ⟨c, by rw [Function.update_self]; exact Or.inr hx⟩
  refine ⟨⟨fun x => ?_, fun i x hx => ?_, h.holds.injective, hholds.fresh⟩, h.slots⟩
  · rw [hholds.live, Set.mem_ofPred_eq, Set.mem_ofPred_eq, h.holds.live, hleaked, Set.mem_ofPred_eq]
    tauto
  · rw [Set.mem_ofPred_eq, hleaked]
    rintro (hx' | ⟨s, hs⟩)
    · exact h.holds.apart i x hx hx'
    · exact hholds.apart s x hs (h.holds.mem_live hx)

end Balanced

/-! ## Runs of a system -/

variable [Fintype S] {cls} {y y' : System P C S}

omit [DecidableEq S] [Fintype S] in
/-- Slots in which nothing is dead. -/
theorem Owns.holds_slots {k : S → Known} {st : State S} {others : Set ℕ} (h : Owns k st others)
    (hk : ∀ s, k s ≠ .dead) : Holds st.slots st.device others := by
  have hheld : held k st = st.slots := by
    funext s
    rw [held, if_neg (hk s)]
  have hholds := h.holds
  rwa [hheld] at hholds

omit [DecidableEq P] [DecidableEq C] in
/-- **No function of a safe class faults**: whatever it destroys is alive. -/
theorem Balanced.run_isSome (h : Balanced cls y) (hsafe : ∀ c, (cls c).Safe) (ok : ℕ → Bool) :
    (∀ c, (y.run ok (cls c).ctor fun _ => none).isSome) ∧
      ∀ p c, y.objs p = some c → (y.run ok (cls c).dtor (y.slots p)).isSome ∧
        ∀ cs ∈ (cls c).methods, (y.run ok cs (y.slots p)).isSome := by
  refine ⟨fun c => ?_, fun p c hp => ⟨?_, fun cs hcs => ?_⟩⟩
  · obtain ⟨⟨k, hk, -⟩, -⟩ := hsafe c
    obtain ⟨thrown, st, hrun, -⟩ := h.owns_empty.run_spec hk ok 0
    exact Option.isSome_of_eq_some hrun
  · obtain ⟨-, -, ⟨k, hk, -⟩, -⟩ := hsafe c
    obtain ⟨thrown, st, hrun, -⟩ := (h.owns hp).run_spec hk ok 0
    exact Option.isSome_of_eq_some hrun
  · obtain ⟨-, hmethods, -⟩ := hsafe c
    obtain ⟨k, hk, -⟩ := hmethods cs hcs
    obtain ⟨thrown, st, hrun, -⟩ := (h.owns hp).run_spec hk ok 0
    exact Option.isSome_of_eq_some hrun

omit [DecidableEq S] [Fintype S] in
/-- An object that can hold nothing more. -/
theorem Owns.holds_none {k : S → Known} {st : State S} {others : Set ℕ} (h : Owns k st others)
    (hk : ∀ s, k s ≠ .any) : Holds (fun _ : S => none) st.device others := by
  have hheld : held k st = fun _ => none := by
    funext s
    cases hs : k s with
    | empty => rw [held, if_neg (by simp [hs]), h.empty s hs]
    | any => exact absurd hs (hk s)
    | dead => rw [held, if_pos hs]
  have hholds := h.holds
  rwa [hheld] at hholds

/-- **Step lemma**: every call of a safe class keeps the ledger. -/
theorem Step.balanced (hstep : Step cls y y') (h : Balanced cls y) (hsafe : ∀ c, (cls c).Safe) :
    Balanced cls y' := by
  cases hstep with
  | construct p c ok st hp hrun =>
    obtain ⟨⟨k, hk, hdead⟩, -, -, -, hfills⟩ := hsafe c
    obtain ⟨thrown, st', hrun', hdone, -⟩ := h.owns_empty.run_spec hk ok 0
    obtain ⟨rfl, rfl⟩ := Prod.mk.inj (Option.some.inj (hrun.symm.trans hrun'))
    have hholds := (hdone rfl).holds_slots hdead
    rw [← h.others_eq_live hp] at hholds
    refine h.update hholds fun s x hx => ⟨c, rfl, ?_⟩
    rcases (run_slots hrun).2 s x hx with hold | ⟨⟨cmd, hcmd, hs⟩, -⟩
    · cases hold
    · exact hfills _ List.mem_cons_self cmd hcmd s hs
  | constructThrows c ok st hrun =>
    obtain ⟨⟨k, hk, -⟩, -⟩ := hsafe c
    obtain ⟨thrown, st', hrun', -, hthrow⟩ := h.owns_empty.run_spec hk ok 0
    obtain ⟨rfl, rfl⟩ := Prod.mk.inj (Option.some.inj (hrun.symm.trans hrun'))
    obtain ⟨k₁, hk₁, howns, -⟩ := hthrow rfl
    exact h.leak (howns.holds_slots hk₁) c
  | method p c cs ok thrown st hp hcs hrun =>
    obtain ⟨-, hmethods, -, -, hfills⟩ := hsafe c
    obtain ⟨k, hk, hdead⟩ := hmethods cs hcs
    obtain ⟨thrown', st', hrun', hdone, hthrow⟩ := (h.owns hp).run_spec hk ok 0
    obtain ⟨rfl, rfl⟩ := Prod.mk.inj (Option.some.inj (hrun.symm.trans hrun'))
    have hholds : Holds st.slots st.device (y.others p) := by
      cases thrown with
      | false => exact (hdone rfl).holds_slots hdead
      | true =>
        obtain ⟨k₁, hk₁, howns, -⟩ := hthrow rfl
        exact howns.holds_slots hk₁
    have hupdate := h.update (o := y.objs p) hholds fun s x hx => by
      rcases (run_slots hrun).2 s x hx with hold | ⟨⟨cmd, hcmd, hs⟩, -⟩
      · exact h.slots p s x hold
      · exact ⟨c, hp, hfills cs (List.mem_cons_of_mem _ hcs) cmd hcmd s hs⟩
    rwa [Function.update_eq_self] at hupdate
  | destruct p c ok thrown st hp hrun =>
    obtain ⟨-, -, ⟨k, hk, hany⟩, hthrows, -⟩ := hsafe c
    obtain ⟨thrown', st', hrun', hdone, -⟩ := (h.owns hp).run_spec hk ok 0
    obtain ⟨rfl, rfl⟩ := Prod.mk.inj (Option.some.inj (hrun.symm.trans hrun'))
    obtain rfl := run_thrown hthrows hrun
    exact h.update ((hdone rfl).holds_none hany) (by simp)

/-- **In every run of safe classes** what is alive is held by one slot of one object, or was
left behind by a constructor that threw. -/
theorem Reachable.balanced (hy : Reachable cls y) (hsafe : ∀ c, (cls c).Safe) :
    Balanced cls y := by
  induction hy with
  | refl => exact ⟨⟨by simp, by simp, by simp, by simp⟩, by simp⟩
  | tail _ hstep ih => exact hstep.balanced ih hsafe

/-- **Nothing is left behind** by the constructors that create nothing before they throw. -/
theorem Reachable.leaked_eq_empty (hy : Reachable cls y) (hsafe : ∀ c, (cls c).Safe) {c : C}
    (hc : (cls c).CtorClean) : y.leaked c = ∅ := by
  induction hy with
  | refl => rfl
  | tail hy hstep ih =>
    cases hstep with
    | construct | method | destruct => exact ih
    | constructThrows c' ok st hrun =>
      by_cases hcc : c = c'
      · subst hcc
        obtain ⟨⟨k, hk, -⟩, -⟩ := hsafe c
        obtain ⟨thrown, st', hrun', -, hthrow⟩ :=
          (Reachable.balanced hy hsafe).owns_empty.run_spec hk ok 0
        obtain ⟨rfl, rfl⟩ := Prod.mk.inj (Option.some.inj (hrun.symm.trans hrun'))
        obtain ⟨k₁, -, -, hclean⟩ := hthrow rfl
        refine (Function.update_self _ _ _).trans ?_
        rw [ih, Set.empty_union]
        ext x
        simp [hclean hc]
      · exact (Function.update_of_ne hcc _ _).trans ih

/-! ## Handles stay where they are -/

omit [Fintype S] in
/-- One call moves no handle: what is in a slot or was left behind was there before, or is
new. -/
theorem Step.origin (hstep : Step cls y y') : y.device.next ≤ y'.device.next ∧
    (∀ p s x, y'.slots p s = some x → y.slots p s = some x ∨ y.device.next ≤ x) ∧
    ∀ c x, x ∈ y'.leaked c → x ∈ y.leaked c ∨ y.device.next ≤ x := by
  have hupdate : ∀ (p : P) (slots : S → Option ℕ),
      (∀ s x, slots s = some x → y.slots p s = some x ∨ y.device.next ≤ x) →
      ∀ q s x, Function.update y.slots p slots q s = some x →
        y.slots q s = some x ∨ y.device.next ≤ x := by
    intro p slots hslots q s x hx
    by_cases hq : q = p
    · subst hq
      rw [Function.update_self] at hx
      exact hslots s x hx
    · rw [Function.update_of_ne hq] at hx
      exact Or.inl hx
  cases hstep with
  | construct p c ok st hp hrun =>
    obtain ⟨hnext, hslots⟩ := run_slots hrun
    refine ⟨hnext, hupdate p _ fun s x hx => ?_, fun c' x hx => Or.inl hx⟩
    exact Or.inr ((hslots s x hx).resolve_left (by simp)).2
  | constructThrows c ok st hrun =>
    obtain ⟨hnext, hslots⟩ := run_slots hrun
    refine ⟨hnext, fun p s x hx => Or.inl hx, fun c' x hx => ?_⟩
    dsimp only at hx
    by_cases hc : c' = c
    · subst hc
      rw [Function.update_self] at hx
      refine hx.imp id ?_
      rintro ⟨s, hs⟩
      exact ((hslots s x hs).resolve_left (by simp)).2
    · rw [Function.update_of_ne hc] at hx
      exact Or.inl hx
  | method p c cs ok thrown st hp hcs hrun =>
    obtain ⟨hnext, hslots⟩ := run_slots hrun
    exact ⟨hnext, hupdate p _ fun s x hx => (hslots s x hx).imp id And.right,
      fun c' x hx => Or.inl hx⟩
  | destruct p c ok thrown st hp hrun =>
    obtain ⟨hnext, hslots⟩ := run_slots hrun
    exact ⟨hnext, hupdate p _ fun s x hx => absurd hx (by simp), fun c' x hx => Or.inl hx⟩

omit [Fintype S] in
/-- The same for any number of calls. -/
theorem origin_of_steps (hsteps : Relation.ReflTransGen (Step cls) y y') :
    y.device.next ≤ y'.device.next ∧
    (∀ p s x, y'.slots p s = some x → y.slots p s = some x ∨ y.device.next ≤ x) ∧
    ∀ c x, x ∈ y'.leaked c → x ∈ y.leaked c ∨ y.device.next ≤ x := by
  induction hsteps with
  | refl => exact ⟨le_rfl, fun _ _ _ hx => Or.inl hx, fun _ _ hx => Or.inl hx⟩
  | tail _ hstep ih =>
    obtain ⟨hnext, hslots, hleaked⟩ := ih
    obtain ⟨hnext', hslots', hleaked'⟩ := hstep.origin
    refine ⟨hnext.trans hnext', fun p s x hx => ?_, fun c x hx => ?_⟩
    · exact (hslots' p s x hx).elim (hslots p s x) fun hnew => Or.inr (hnext.trans hnew)
    · exact (hleaked' c x hx).elim (hleaked c x) fun hnew => Or.inr (hnext.trans hnew)

/-- **A handle is alive as long as it is in its slot**: however many calls later, it is
alive if and only if the slot that held it still does. -/
theorem Reachable.mem_live_iff (hy : Reachable cls y) (hsafe : ∀ c, (cls c).Safe)
    (hsteps : Relation.ReflTransGen (Step cls) y y') {p : P} {s : S} {x : ℕ}
    (hx : y.slots p s = some x) : x ∈ y'.device.live ↔ y'.slots p s = some x := by
  have h := hy.balanced hsafe
  have h' := Reachable.balanced (hy.trans hsteps) hsafe
  obtain ⟨-, hslots, hleaked⟩ := origin_of_steps hsteps
  have hold : ¬ y.device.next ≤ x :=
    not_le.mpr (h.holds.fresh x (h.holds.mem_live (i := (p, s)) hx))
  constructor
  · intro hlive
    rcases (h'.holds.live x).mp hlive with ⟨c, hc⟩ | ⟨⟨q, t⟩, hq⟩
    · exact absurd ⟨c, (hleaked c x hc).resolve_right hold⟩ (h.holds.apart (p, s) x hx)
    · have hheld := h.holds.injective (q, t) (p, s) x ((hslots q t x hq).resolve_right hold) hx
      rw [Prod.mk.injEq] at hheld
      rw [← hheld.1, ← hheld.2]
      exact hq
  · exact fun hslot => h'.holds.mem_live (i := (p, s)) hslot

end System

end HandleLedger
