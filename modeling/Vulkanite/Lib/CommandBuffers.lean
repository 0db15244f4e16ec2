/-
# Command buffers

A command buffer that is used for one submission after the other: it is begun, filled,
ended and submitted, and then the queue is waited for.  A function that does so throws at
the first call that fails, wherever that is, and leaves the command buffer as it is then.

`check` says that a function makes the calls in this order.  A call of such a function
may leave the command buffer recording or pending, so that nothing can begin it again
(`Sticks`).  For any number of command buffers, and calls in any order: they are never
misused exactly if no call that gets to begin one comes after a call that left it so
(`runs_isSome_iff`).
-/
import Mathlib.Tactic

namespace CommandBuffers

/-! ## Calls -/

/-- The states of a command buffer. -/
inductive State where
  | initial
  | recording
  | executable
  | pending
  | invalid
  deriving DecidableEq, Repr

/-- The command buffer cannot be begun. -/
def State.Busy (q : State) : Prop := q = .recording ∨ q = .pending

instance : DecidablePred State.Busy := fun _ => inferInstanceAs (Decidable (_ ∨ _))

/-- What a function does with the command buffer; `call` is anything else that may fail. -/
inductive Cmd where
  | call
  | begin
  | record
  | finish
  | submit
  | wait
  deriving DecidableEq, Repr

/-- A command fails unless `ok`; recording cannot fail. -/
def Cmd.Fails (c : Cmd) (ok : Bool) : Prop := c ≠ .record ∧ ok = false

instance (c : Cmd) : DecidablePred c.Fails := fun _ => inferInstanceAs (Decidable (_ ∧ _))

/-- One command: whether it fails, and the state afterwards.  There is no result if the
command buffer is not in a state for it.  What fails leaves the state as it was, but for
`finish`. -/
def exec (ok : Bool) (q : State) : Cmd → Option (Bool × State)
  | .call => some (!ok, q)
  | .begin => if q.Busy then none else some (if ok then (false, .recording) else (true, q))
  | .record => if q = .recording then some (false, q) else none
  | .finish =>
    if q = .recording then some (if ok then (false, .executable) else (true, .invalid)) else none
  | .submit => if q = .executable then some (if ok then (false, .pending) else (true, q)) else none
  | .wait => some (if ok then (false, if q = .pending then .executable else q) else (true, q))

/-- A call of a function: its commands, and which would succeed. -/
abbrev Attempt := List (Cmd × Bool)

/-- The commands up to the first that fails: whether one did, and the state afterwards. -/
def run : Attempt → State → Option (Bool × State)
  | [], q => some (false, q)
  | (c, ok) :: as, q => (exec ok q c).bind fun r => if r.1 then some r else run as r.2

/-! ## The right order -/

/-- How far a submission has got. -/
inductive Phase where
  | outside
  | recording
  | finished
  | submitted
  deriving DecidableEq, Repr

/-- The phase after a command, if the command is in its place. -/
def Phase.next : Phase → Cmd → Option Phase
  | .outside, .call => some .outside
  | .outside, .begin => some .recording
  | .recording, .call | .recording, .record => some .recording
  | .recording, .finish => some .finished
  | .finished, .submit => some .submitted
  | .submitted, .wait => some .outside
  | _, _ => none

/-- From this phase on all commands are in their places, and every submission is waited for. -/
def check : Phase → List Cmd → Bool
  | p, [] => p = .outside
  | p, c :: cs => (p.next c).any fun p' => check p' cs

/-- The phase and the command at which a call throws, if it does. -/
def stop : Phase → Attempt → Option (Phase × Cmd)
  | _, [] => none
  | p, (c, ok) :: as => if c.Fails ok then some (p, c) else (p.next c).bind fun p' => stop p' as

/-- Nothing was submitted, or it was waited for: throwing here does no harm. -/
def Phase.Sticky (p : Phase) (c : Cmd) : Prop := p = .recording ∧ c = .call ∨ p = .submitted

instance (p : Phase) : DecidablePred p.Sticky := fun _ => inferInstanceAs (Decidable (_ ∨ _))

/-- The call throws between beginning and ending the command buffer, or when it waits. -/
def Sticks (a : Attempt) : Prop := ∃ x, stop .outside a = some x ∧ x.1.Sticky x.2

/-- The call gets to beginning the command buffer. -/
def Begins : Attempt → Prop
  | [] => False
  | (c, ok) :: as => c = .begin ∨ ¬ c.Fails ok ∧ Begins as

/-! ## One call -/

/-- The states of the command buffer in a phase. -/
def Phase.Fits : Phase → State → Prop
  | .outside, q => ¬ q.Busy
  | .recording, q => q = .recording
  | .finished, q => q = .executable
  | .submitted, q => q = .pending

instance : ∀ p : Phase, DecidablePred p.Fits
  | .outside => fun q => inferInstanceAs (Decidable (¬ q.Busy))
  | .recording => fun q => inferInstanceAs (Decidable (q = .recording))
  | .finished => fun q => inferInstanceAs (Decidable (q = .executable))
  | .submitted => fun q => inferInstanceAs (Decidable (q = .pending))

/-- **Step lemma**: a command in its place is possible, and afterwards the command buffer is
in a state of the next phase; if it fails, it may be busy. -/
theorem Phase.Fits.exec {p p' : Phase} {q : State} (h : p.Fits q) {c : Cmd}
    (hc : p.next c = some p') (ok : Bool) :
    ∃ q', CommandBuffers.exec ok q c = some (decide (c.Fails ok), q') ∧
      (c.Fails ok → (q'.Busy ↔ p.Sticky c)) ∧ (¬ c.Fails ok → p'.Fits q') := by
  cases p with
  | outside =>
    cases c <;> simp only [Phase.next, reduceCtorEq, Option.some.injEq] at hc
    all_goals subst hc
    · refine ⟨q, by cases ok <;> rfl, fun _ => iff_of_false h (by decide), fun _ => h⟩
    · cases ok with
      | false =>
        exact ⟨q, if_neg h, fun _ => iff_of_false h (by decide), fun hok => absurd hok (by decide)⟩
      | true =>
        exact ⟨.recording, if_neg h, fun hfails => absurd hfails (by decide), fun _ => rfl⟩
  | recording =>
    obtain rfl : q = .recording := h
    cases c <;> simp only [Phase.next, reduceCtorEq, Option.some.injEq] at hc
    all_goals subst hc
    all_goals cases ok <;> exact ⟨_, rfl, by decide, by decide⟩
  | finished =>
    obtain rfl : q = .executable := h
    cases c <;> simp only [Phase.next, reduceCtorEq, Option.some.injEq] at hc
    subst hc
    cases ok <;> exact ⟨_, rfl, by decide, by decide⟩
  | submitted =>
    obtain rfl : q = .pending := h
    cases c <;> simp only [Phase.next, reduceCtorEq, Option.some.injEq] at hc
    subst hc
    cases ok <;> exact ⟨_, rfl, by decide, by decide⟩

/-- **Run lemma**: a call goes through from a state of its phase, and leaves the command buffer
busy exactly if it throws in a place for that. -/
theorem Phase.Fits.run {p : Phase} {q : State} (h : p.Fits q) {a : Attempt}
    (ha : check p (a.map Prod.fst)) : ∃ thrown q', CommandBuffers.run a q = some (thrown, q') ∧
      (q'.Busy ↔ ∃ x, stop p a = some x ∧ x.1.Sticky x.2) := by
  induction a generalizing p q with
  | nil =>
    obtain rfl : p = .outside := of_decide_eq_true ha
    exact ⟨false, q, rfl, iff_of_false h (by simp [stop])⟩
  | cons x as ih =>
    obtain ⟨c, ok⟩ := x
    obtain ⟨p', hp', has⟩ := (Option.any_eq_true _ _).mp ha
    obtain ⟨q', hexec, hfails, hfits⟩ := h.exec hp' ok
    rw [CommandBuffers.run, hexec, Option.bind_some, stop]
    by_cases hc : c.Fails ok
    · refine ⟨true, q', by simp [hc], ?_⟩
      simp [hc, hfails hc]
    · obtain ⟨thrown, q'', hrun, hbusy⟩ := ih (hfits hc) has
      refine ⟨thrown, q'', by simpa [hc] using hrun, ?_⟩
      simpa [hc, hp'] using hbusy

/-- A call that finds the command buffer busy misuses it, if it gets that far. -/
theorem run_of_busy {q : State} (hq : q.Busy) {a : Attempt}
    (ha : check .outside (a.map Prod.fst)) :
    (Begins a → run a q = none) ∧ (¬ Begins a → ∃ thrown, run a q = some (thrown, q)) := by
  induction a with
  | nil => exact ⟨False.elim, fun _ => ⟨false, rfl⟩⟩
  | cons x as ih =>
    obtain ⟨c, ok⟩ := x
    obtain ⟨p', hp', has⟩ := (Option.any_eq_true _ _).mp ha
    cases c <;> simp only [Phase.next, reduceCtorEq, Option.some.injEq] at hp'
    · subst hp'
      obtain ⟨hbegins, hrest⟩ := ih has
      cases ok with
      | false => exact ⟨fun h => by simp [Begins, Cmd.Fails] at h, fun _ => ⟨true, rfl⟩⟩
      | true =>
        have hiff : Begins ((.call, true) :: as) ↔ Begins as := by simp [Begins, Cmd.Fails]
        rw [hiff]
        exact ⟨hbegins, hrest⟩
    · refine ⟨fun _ => ?_, fun h => absurd (Or.inl rfl) h⟩
      rw [run, exec, if_pos hq, Option.bind_none]

/-! ## Calls in any order -/

section Runs

variable {D : Type*} [DecidableEq D]

/-- Calls, each with its command buffer, one after the other. -/
def runs : List (D × Attempt) → (D → State) → Option (D → State)
  | [], st => some st
  | (d, a) :: calls, st =>
    (run a (st d)).bind fun r => runs calls (Function.update st d r.2)

/-- The calls in which the later one begins a command buffer that the earlier one left busy. -/
def Collide (x y : D × Attempt) : Prop := x.1 = y.1 ∧ Sticks x.2 ∧ Begins y.2

/-- From any states: no call may begin a command buffer that is busy already, either. -/
theorem runs_isSome_iff_of_busy {calls : List (D × Attempt)}
    (hcalls : ∀ x ∈ calls, check .outside (x.2.map Prod.fst)) (st : D → State) :
    (runs calls st).isSome ↔ calls.Pairwise (fun x y => ¬ Collide x y) ∧
      ∀ x ∈ calls, (st x.1).Busy → ¬ Begins x.2 := by
  induction calls generalizing st with
  | nil => simp [runs]
  | cons x calls ih =>
    obtain ⟨d, a⟩ := x
    rw [List.forall_mem_cons] at hcalls
    obtain ⟨ha, hcalls⟩ := hcalls
    rw [List.pairwise_cons, List.forall_mem_cons, runs]
    by_cases hbusy : (st d).Busy
    · obtain ⟨hmisused, hleft⟩ := run_of_busy hbusy ha
      by_cases hbegins : Begins a
      · rw [hmisused hbegins]
        exact iff_of_false (by simp) fun h => h.2.1 hbusy hbegins
      · obtain ⟨thrown, hrun⟩ := hleft hbegins
        rw [hrun, Option.bind_some, Function.update_eq_self, ih hcalls]
        refine ⟨fun h => ⟨⟨fun y hy hcollide => ?_, h.1⟩, fun _ => hbegins, h.2⟩,
          fun h => ⟨h.1.2, h.2.2⟩⟩
        obtain ⟨hd, -, hy'⟩ := hcollide
        exact h.2 y hy (hd ▸ hbusy) hy'
    · obtain ⟨thrown, q', hrun, hq'⟩ := Phase.Fits.run (p := .outside) hbusy ha
      have hlater : ∀ y : D × Attempt, ((Function.update st d q' y.1).Busy → ¬ Begins y.2) ↔
          ¬ Collide (d, a) y ∧ ((st y.1).Busy → ¬ Begins y.2) := by
        intro y
        by_cases hd : d = y.1
        · subst hd
          rw [Function.update_self, hq']
          simp [Collide, Sticks, hbusy]
        · rw [Function.update_of_ne (Ne.symm hd)]
          simp [Collide, hd]
      rw [hrun, Option.bind_some, ih hcalls]
      simp only [hlater, forall_and]
      constructor
      · rintro ⟨hpairs, hfirst, hold⟩
        exact ⟨⟨hfirst, hpairs⟩, fun h => absurd h hbusy, hold⟩
      · rintro ⟨⟨hfirst, hpairs⟩, -, hold⟩
        exact ⟨hpairs, hfirst, hold⟩

/-- **Command buffers are misused exactly by calls that collide.** -/
theorem runs_isSome_iff {calls : List (D × Attempt)}
    (hcalls : ∀ x ∈ calls, check .outside (x.2.map Prod.fst)) {st : D → State}
    (hst : ∀ d, ¬ (st d).Busy) :
    (runs calls st).isSome ↔ calls.Pairwise fun x y => ¬ Collide x y := by
  rw [runs_isSome_iff_of_busy hcalls]
  exact and_iff_left fun x _ hbusy => absurd hbusy (hst x.1)

end Runs

end CommandBuffers
