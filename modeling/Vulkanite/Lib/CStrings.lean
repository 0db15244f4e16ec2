/-
# C strings and `fgets`

A string is the list of its characters, without the one that ends it, and a pointer into
it is the rest of the string from there on.  `strstr`, `strchr` and `strrchr` return such
pointers, and `setNul` is what a string becomes when a NUL is written through one.

`fgets` reads up to the end of a line, or as many characters as there is room for; `lines`
are the strings that it reads one after the other.
-/
import Mathlib.Data.List.Infix
import Mathlib.Data.List.TakeWhile
import Mathlib.Tactic

namespace CString

variable {α : Type*} [DecidableEq α]

/-! ## Search -/

/-- The first occurrence of `needle`. -/
def strstr : List α → List α → Option (List α)
  | [], needle => if needle = [] then some [] else none
  | c :: s, needle => if needle <+: c :: s then some (c :: s) else strstr s needle

/-- The first occurrence of a character. -/
def strchr : List α → α → Option (List α)
  | [], _ => none
  | a :: s, c => if a = c then some (a :: s) else strchr s c

/-- The last occurrence of a character. -/
def strrchr : List α → α → Option (List α)
  | [], _ => none
  | a :: s, c =>
    match strrchr s c with
    | some p => some p
    | none => if a = c then some (a :: s) else none

/-- The string `s` after a NUL is written at `p`. -/
def setNul (s p : List α) : List α := s.take (s.length - p.length)

/-- The same if the pointer is not null. -/
def setNulIf (s : List α) : Option (List α) → List α
  | some p => setNul s p
  | none => s

omit [DecidableEq α] in
theorem setNulIf_prefix (s : List α) (p : Option (List α)) : setNulIf s p <+: s := by
  cases p with
  | none => exact List.prefix_rfl
  | some p => exact List.take_prefix _ _

theorem isSome_strstr {s needle : List α} : (strstr s needle).isSome ↔ needle <:+: s := by
  induction s with
  | nil =>
    rw [strstr, List.infix_nil]
    split_ifs with h
    · simp [h]
    · simp [h]
  | cons c s ih =>
    rw [strstr, List.infix_cons_iff]
    split_ifs with h
    · simp [h]
    · simp [h, ih]

/-- A pointer that is returned leads to an occurrence, and none is before it. -/
theorem strstr_eq_some {s needle p : List α} (h : strstr s needle = some p) :
    needle <+: p ∧ ∃ a, s = a ++ p ∧
      ∀ a' p', s = a' ++ p' → needle <+: p' → a.length ≤ a'.length := by
  induction s with
  | nil =>
    rw [strstr] at h
    split_ifs at h with hneedle
    obtain rfl := Option.some.inj h
    exact ⟨hneedle ▸ List.nil_prefix, [], rfl, fun a' p' _ _ => Nat.zero_le _⟩
  | cons c s ih =>
    rw [strstr] at h
    split_ifs at h with hneedle
    · obtain rfl := Option.some.inj h
      exact ⟨hneedle, [], rfl, fun a' p' _ _ => Nat.zero_le _⟩
    · obtain ⟨hp, a, rfl, hfirst⟩ := ih h
      refine ⟨hp, c :: a, rfl, fun a' p' hsplit hp' => ?_⟩
      cases a' with
      | nil =>
        rw [List.nil_append] at hsplit
        exact absurd (hsplit ▸ hp') hneedle
      | cons c' a' =>
        obtain ⟨-, hsplit⟩ := List.cons_eq_cons.mp hsplit
        exact Nat.succ_le_succ (hfirst a' p' hsplit hp')

/-- The search succeeds at once. -/
theorem strstr_eq_self {s needle : List α} : strstr s needle = some s ↔ needle <+: s := by
  constructor
  · intro h
    exact (strstr_eq_some h).1
  · intro h
    cases s with
    | nil => rw [strstr, if_pos (List.prefix_nil.mp h)]
    | cons c s => rw [strstr, if_pos h]

/-- An occurrence is found if none begins before it. -/
theorem strstr_append {needle : List α} (hne : needle ≠ []) {a : List α}
    (ha : ¬ needle <:+: a ++ needle.dropLast) (b : List α) :
    strstr (a ++ needle ++ b) needle = some (needle ++ b) := by
  induction a with
  | nil => exact strstr_eq_self.mpr (List.prefix_append _ _)
  | cons c a ih =>
    have hfirst : ¬ needle <+: c :: (a ++ needle ++ b) := by
      intro hprefix
      -- it would end before the last character of the occurrence
      have hbefore : c :: a ++ needle.dropLast <+: c :: (a ++ needle ++ b) := by
        rw [List.cons_append, List.cons_prefix_cons, List.append_assoc,
          List.prefix_append_right_inj]
        exact ⟨rfl, (List.dropLast_prefix _).trans (List.prefix_append _ _)⟩
      refine ha (List.prefix_of_prefix_length_le hprefix hbefore ?_).isInfix
      have hpos := List.length_pos_iff.mpr hne
      rw [List.length_append, List.length_dropLast, List.length_cons]
      omega
    rw [List.cons_append, List.cons_append, strstr, if_neg hfirst]
    exact ih fun hoccurs => ha (hoccurs.trans (List.suffix_cons _ _).isInfix)

omit [DecidableEq α] in
/-- A character that the needle does not have at the end makes no difference. -/
theorem infix_concat_iff {needle s : List α} {c : α} (hc : c ∉ needle) (hne : needle ≠ []) :
    needle <:+: s ++ [c] ↔ needle <:+: s := by
  rw [List.infix_concat_iff, or_iff_right]
  intro hsuffix
  obtain ⟨a, ha⟩ := hsuffix
  have hlast := congrArg List.getLast? ha
  rw [List.getLast?_append_of_ne_nil _ hne, List.getLast?_concat] at hlast
  exact hc (List.mem_of_getLast? hlast)

/-- The character at the end is the last one. -/
theorem strrchr_concat (s : List α) (c : α) : strrchr (s ++ [c]) c = some [c] := by
  induction s with
  | nil => simp [strrchr]
  | cons a s ih => rw [List.cons_append, strrchr, ih]

/-- It is the first one if there is no other. -/
theorem strchr_concat {s : List α} {c : α} (hc : c ∉ s) : strchr (s ++ [c]) c = some [c] := by
  induction s with
  | nil => simp [strchr]
  | cons a s ih =>
    rw [List.mem_cons, not_or] at hc
    rw [List.cons_append, strchr, if_neg (Ne.symm hc.1), ih hc.2]

omit [DecidableEq α] in
/-- A string loses what the pointer leads to. -/
theorem setNul_append (s p : List α) : setNul (s ++ p) p = s := by
  rw [setNul, List.length_append, Nat.add_sub_cancel, List.take_left]

/-- Two occurrences that do not overlap. -/
def HasTwice (s needle : List α) : Prop := ∃ a b c, s = a ++ needle ++ b ++ needle ++ c

/-- Searching again behind the first occurrence finds one exactly if there are two. -/
theorem isSome_strstr_drop {s needle p : List α} (h : strstr s needle = some p) :
    (strstr (p.drop needle.length) needle).isSome ↔ HasTwice s needle := by
  obtain ⟨⟨q, rfl⟩, a, rfl, hfirst⟩ := strstr_eq_some h
  rw [List.drop_left, isSome_strstr]
  constructor
  · rintro ⟨b, c, rfl⟩
    exact ⟨a, b, c, by simp only [List.append_assoc]⟩
  · rintro ⟨a', b, c, hsplit⟩
    simp only [List.append_assoc] at hsplit
    -- the second occurrence is behind any first one, and so behind the first of all
    have hle := hfirst a' (needle ++ (b ++ (needle ++ c))) hsplit (List.prefix_append _ _)
    obtain ⟨d, hrest⟩ : ∃ d, needle ++ q = d ++ (needle ++ (b ++ (needle ++ c))) := by
      rcases List.append_eq_append_iff.mp hsplit with ⟨d, -, hd⟩ | ⟨d, rfl, hd⟩
      · exact ⟨d, hd⟩
      · rw [List.length_append] at hle
        obtain rfl := List.length_eq_zero_iff.mp (by omega : d.length = 0)
        exact ⟨[], hd.symm⟩
    have hq : q = (d ++ needle).drop needle.length ++ (b ++ (needle ++ c)) := by
      rw [← List.drop_append_of_le_length (by rw [List.length_append]; omega),
        List.append_assoc, ← hrest, List.drop_left]
    rw [hq]
    exact ⟨(d ++ needle).drop needle.length ++ b, c, by simp only [List.append_assoc]⟩

/-- Without a first occurrence there are no two. -/
theorem not_hasTwice_of_strstr {s needle : List α} (h : strstr s needle = none) :
    ¬ HasTwice s needle := by
  rintro ⟨a, b, c, rfl⟩
  rw [← Option.not_isSome_iff_eq_none, isSome_strstr] at h
  exact h ⟨a, b ++ needle ++ c, by simp only [List.append_assoc]⟩

/-! ## Lines -/

/-- The characters up to the end of a line, at most so many, and what is left. -/
def readLine (newline : α) : ℕ → List α → List α × List α
  | 0, input => ([], input)
  | _ + 1, [] => ([], [])
  | size + 1, c :: input =>
    if c = newline then ([c], input)
    else
      let r := readLine newline size input
      (c :: r.1, r.2)

/-- `fgets` with a buffer of this size: the string that is in the buffer then, which ends
at the first NUL that was read, and what is left of the input. -/
def fgets (newline nul : α) (size : ℕ) (input : List α) : Option (List α × List α) :=
  match input with
  | [] => none
  | c :: input =>
    let r := readLine newline (size - 1) (c :: input)
    some (r.1.takeWhile (· ≠ nul), r.2)

theorem readLine_append (newline : α) (size : ℕ) (input : List α) :
    (readLine newline size input).1 ++ (readLine newline size input).2 = input := by
  induction size, input using readLine.induct newline with
  | case1 input => rfl
  | case2 size => rfl
  | case3 size input => simp [readLine]
  | case4 size c input hc ih => simp [readLine, hc, ih]

/-- A line that fits is read whole. -/
theorem readLine_line {newline : α} {l : List α} (hl : newline ∉ l) {size : ℕ}
    (hsize : l.length < size) (rest : List α) :
    readLine newline size (l ++ newline :: rest) = (l ++ [newline], rest) := by
  induction l generalizing size with
  | nil =>
    obtain ⟨n, rfl⟩ := Nat.exists_eq_add_of_lt hsize
    simp [readLine]
  | cons c l ih =>
    rw [List.mem_cons, not_or] at hl
    obtain ⟨n, rfl⟩ := Nat.exists_eq_add_of_lt hsize
    have hl' : l.length < l.length + 1 + n := by omega
    rw [List.length_cons, List.cons_append, readLine, if_neg (Ne.symm hl.1), ih hl.2 hl']
    rfl

/-- So `fgets` returns it, with the end of the line. -/
theorem fgets_line {newline nul : α} {l : List α} (hl : newline ∉ l) (hnul : nul ∉ l ++ [newline])
    {size : ℕ} (hsize : l.length + 1 < size) (rest : List α) :
    fgets newline nul size (l ++ newline :: rest) = some (l ++ [newline], rest) := by
  have hread := readLine_line hl (by omega : l.length < size - 1) rest
  have hkept : (l ++ [newline]).takeWhile (· ≠ nul) = l ++ [newline] :=
    List.takeWhile_eq_self_iff.mpr fun c hc => decide_eq_true fun heq => hnul (heq ▸ hc)
  cases l with
  | nil => simp only [List.nil_append] at hread hkept ⊢; rw [fgets, hread, hkept]
  | cons c l => simp only [List.cons_append] at hread hkept ⊢; rw [fgets, hread, hkept]

/-- What is left is shorter. -/
theorem length_fgets {newline nul : α} {size : ℕ} (hsize : 2 ≤ size) {input line rest : List α}
    (h : fgets newline nul size input = some (line, rest)) : rest.length < input.length := by
  cases input with
  | nil => cases h
  | cons c input =>
    obtain ⟨n, rfl⟩ : ∃ n, size = n + 2 := ⟨size - 2, by omega⟩
    obtain ⟨-, rfl⟩ := Prod.mk.inj (Option.some.inj h)
    have hsplit := congrArg List.length (readLine_append newline n input)
    rw [List.length_append] at hsplit
    show (readLine newline (n + 1) (c :: input)).2.length < _
    rw [readLine, List.length_cons]
    split_ifs
    · exact Nat.lt_succ_self _
    · dsimp only
      omega

end CString
