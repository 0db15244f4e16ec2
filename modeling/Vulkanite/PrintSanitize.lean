/-
# `printSanitize`

`printSanitize` reads a log of the validation layer from the standard input and writes the
messages of `debugPrintfEXT` in it without what the layer puts around them.  It knows two
formats: one line with the message behind the second ` | `, and a record of several lines
that ends with a list of objects.

The loop that reads a record does not look at what `fgets` returns, so a record that is
cut off keeps it busy forever, unless the last line already names objects; and a line of
the first format without the two separators makes it search a null pointer.  `main` ends
cleanly exactly on complete logs (`main_returns_iff`).
-/
import Vulkanite.Lib.CStrings
import Vulkanite.Lib.Halting

namespace Vulkanite.PrintSanitize

open CString Halting

/-! ## The model -/

/-- A `char *`: the characters up to the NUL. -/
abbrev Line := List UInt8

/-- The characters of a literal. -/
def chars (s : String) : Line := s.toList.map fun c => UInt8.ofNat c.toNat

def LINE_SZ : ℕ := 10000

def newline : UInt8 := 10

def specMarker : Line := chars "VVL-DEBUG-PRINTF(INFO / SPEC)"

def marker : Line := chars "VVL-DEBUG-PRINTF"

def separator : Line := chars " | "

def objects1 : Line := chars "Objects: 1"

def objects2 : Line := chars "Objects: 2"

def OWL_TERMINAL_LIGHT_BLUE : Line := 27 :: chars "[1;34m"

def OWL_TERMINAL_RESET : Line := 27 :: chars "[0m"

/-- Where `main` is: at the test of the outer loop, at the beginning of the inner one, at
its end, or at a call of a string function with a null pointer. -/
inductive Control where
  | outer
  | inner
  | returned
  | nullPassed
  deriving DecidableEq, Repr

/-- The variable `line`, what is left of the standard input, and the standard output. -/
structure State where
  control : Control
  line : Line
  input : List UInt8
  output : List UInt8
  deriving DecidableEq, Repr

/-- `fgets(line,LINE_SZ,stdin)`: the string that is read, and what is left. -/
def fgetsLine (input : List UInt8) : Option (Line × List UInt8) := fgets newline 0 LINE_SZ input

namespace State

/-- The same as a statement: at the end of the input nothing changes. -/
def fgets (s : State) : State :=
  match fgetsLine s.input with
  | some (line, input) => { s with line, input }
  | none => s

/-- `std::cout << text`. -/
def print (s : State) (text : Line) : State := { s with output := s.output ++ text }

/-- The branch for a line of the first format. -/
def sanitizeSpec (s : State) : State :=
  let where₁ := strstr s.line separator
  let where₂ := where₁.bind fun p => strstr (p.drop 3) separator
  match where₂ with
  -- `strrchr(where,'\n')`
  | none => { s with control := .nullPassed }
  | some p =>
    let text := setNulIf p (strrchr p newline)
    s.print (OWL_TERMINAL_LIGHT_BLUE ++ text.drop 3 ++ OWL_TERMINAL_RESET)

/-- One round of the outer loop, up to the inner loop if there is one. -/
def outerStep (s : State) : State :=
  match fgetsLine s.input with
  | none => { s with control := .returned }
  | some (line, input) =>
    let s := { s with line, input }
    if strstr line specMarker = some line then s.sanitizeSpec
    else if (strstr line marker).isSome then { s.fgets with control := .inner }
    else s.print line

/-- One round of the inner loop. -/
def innerStep (s : State) : State :=
  let s := s.fgets
  if (strstr s.line objects1).isSome then { s.fgets with control := .outer }
  else if (strstr s.line objects2).isSome then { s.fgets.fgets with control := .outer }
  else
    let line := setNulIf s.line (strchr s.line newline)
    { s with line }.print (OWL_TERMINAL_LIGHT_BLUE ++ line ++ OWL_TERMINAL_RESET)

/-- `main`, one round of a loop at a time. -/
def step (s : State) : Option State :=
  match s.control with
  | .outer => some s.outerStep
  | .inner => some s.innerStep
  | .returned => none
  | .nullPassed => none

/-- The beginning of `main`; `line` is not initialised. -/
def start (line : Line) (input : List UInt8) : State where
  control := .outer
  line := line
  input := input
  output := []

/-- `main` has returned. -/
def Returned (s : State) : Prop := s.control = .returned

end State

/-! ## Complete logs -/

/-- Every line that is read takes bytes from the input. -/
theorem length_fgetsLine {input rest : List UInt8} {line : Line}
    (h : fgetsLine input = some (line, rest)) : rest.length < input.length :=
  length_fgets (by decide) h

/-- The strings that `fgets` reads, one after the other. -/
def lines (input : List UInt8) : List Line :=
  match _h : fgetsLine input with
  | none => []
  | some (line, rest) => line :: lines rest
termination_by input.length
decreasing_by exact length_fgetsLine _h

/-- The line names one or two objects. -/
def NamesObjects (l : Line) : Prop := objects1 <:+: l ∨ objects2 <:+: l

/-- The lines of a record up to the list of objects, and what follows. -/
inductive RecordBody : List Line → List Line → Prop
  | one {l : Line} {ls : List Line} (h : objects1 <:+: l) : RecordBody (l :: ls) ls.tail
  | two {l : Line} {ls : List Line} (h₁ : ¬ objects1 <:+: l) (h₂ : objects2 <:+: l) :
      RecordBody (l :: ls) ls.tail.tail
  | text {l : Line} {ls rest : List Line} (h : ¬ NamesObjects l) (hls : RecordBody ls rest) :
      RecordBody (l :: ls) rest

/-- The lines of a record after its header, and what follows: one line is skipped.  The log
may end before there is another one, if the last line names objects. -/
inductive RecordEnd (header : Line) : List Line → List Line → Prop
  | cutHeader (h : NamesObjects header) : RecordEnd header [] []
  | cutSkipped {skipped : Line} (h : NamesObjects skipped) : RecordEnd header [skipped] []
  | body {skipped : Line} {ls rest : List Line} (h : RecordBody ls rest) :
      RecordEnd header (skipped :: ls) rest

/-- A log of lines without a marker, lines of the first format with both separators, and
records that are not cut off. -/
inductive CompleteLog : List Line → Prop
  | nil : CompleteLog []
  | plain {l : Line} {ls : List Line} (h : ¬ marker <:+: l) (hls : CompleteLog ls) :
      CompleteLog (l :: ls)
  | spec {l : Line} {ls : List Line} (h : specMarker <+: l) (hsep : HasTwice l separator)
      (hls : CompleteLog ls) : CompleteLog (l :: ls)
  | record {l : Line} {ls rest : List Line} (h : marker <:+: l) (hspec : ¬ specMarker <+: l)
      (hend : RecordEnd l ls rest) (hrest : CompleteLog rest) : CompleteLog (l :: ls)

/-- A line that begins a message is marked. -/
theorem marker_of_specMarker {l : Line} (h : specMarker <+: l) : marker <:+: l := by
  have hmarker : marker <+: specMarker := by decide
  exact (hmarker.trans h).isInfix

section Grammar

variable {l line : Line} {ls : List Line}

/-- A line without the marker is skipped. -/
theorem completeLog_plain_iff (h : ¬ marker <:+: l) : CompleteLog (l :: ls) ↔ CompleteLog ls := by
  constructor
  · intro hlog
    cases hlog with
    | plain _ hls => exact hls
    | spec hspec => exact absurd (marker_of_specMarker hspec) h
    | record hmarker => exact absurd hmarker h
  · exact .plain h

/-- A line that begins a message needs the separator twice. -/
theorem completeLog_spec_iff (h : specMarker <+: l) :
    CompleteLog (l :: ls) ↔ HasTwice l separator ∧ CompleteLog ls := by
  constructor
  · intro hlog
    cases hlog with
    | plain hplain => exact absurd (marker_of_specMarker h) hplain
    | spec _ hsep hls => exact ⟨hsep, hls⟩
    | record _ hspec => exact absurd h hspec
  · rintro ⟨hsep, hls⟩
    exact .spec h hsep hls

/-- A message ends one line after the first marker of objects, and two after the second. -/
theorem recordBody_cons_iff {rest : List Line} : RecordBody (l :: ls) rest ↔
    if objects1 <:+: l then rest = ls.tail
    else if objects2 <:+: l then rest = ls.tail.tail
    else RecordBody ls rest := by
  constructor
  · intro h
    cases h with
    | one h => rw [if_pos h]
    | two h₁ h₂ => rw [if_neg h₁, if_pos h₂]
    | text h hls =>
      rw [NamesObjects, not_or] at h
      rwa [if_neg h.1, if_neg h.2]
  · intro h
    split_ifs at h with h₁ h₂
    · exact h ▸ .one h₁
    · exact h ▸ .two h₁ h₂
    · exact .text (not_or.mpr ⟨h₁, h₂⟩) h

/-- What the inner loop needs to end, when this is in the buffer and these lines are left:
after the first round the buffer only counts if nothing is left. -/
def InnerComplete (line : Line) (ls : List Line) : Prop :=
  (ls = [] ∧ NamesObjects line) ∨ ∃ rest, RecordBody ls rest ∧ CompleteLog rest

/-- At the end of the input the line before has to name the objects. -/
theorem innerComplete_nil_iff : InnerComplete line [] ↔ NamesObjects line := by
  constructor
  · rintro (⟨-, h⟩ | ⟨_, h, -⟩)
    · exact h
    · cases h
  · exact fun h => .inl ⟨rfl, h⟩

/-- Where lines are left, the message ends in them and the log goes on after it. -/
theorem innerComplete_cons_iff :
    InnerComplete line (l :: ls) ↔ ∃ rest, RecordBody (l :: ls) rest ∧ CompleteLog rest := by
  simp [InnerComplete]

/-- The header and the skipped line lead to the inner loop. -/
theorem completeLog_record_iff (h : marker <:+: l) (hspec : ¬ specMarker <+: l) :
    CompleteLog (l :: ls) ↔ InnerComplete (ls.headD l) ls.tail := by
  constructor
  · intro hlog
    cases hlog with
    | plain hplain => exact absurd h hplain
    | spec hspec' => exact absurd hspec' hspec
    | record _ _ hend hrest =>
      cases hend with
      | cutHeader h => exact innerComplete_nil_iff.mpr h
      | cutSkipped h => exact innerComplete_nil_iff.mpr h
      | body h => exact .inr ⟨_, h, hrest⟩
  · intro hinner
    cases ls with
    | nil => exact .record h hspec (.cutHeader (innerComplete_nil_iff.mp hinner)) .nil
    | cons skipped ls =>
      rcases hinner with ⟨hnil, hnames⟩ | ⟨rest, hbody, hrest⟩
      · obtain rfl : ls = [] := hnil
        exact .record h hspec (.cutSkipped hnames) .nil
      · exact .record h hspec (.body hbody) hrest

/-- A line that names one object ends the inner loop. -/
theorem innerComplete_of_objects1 (h : objects1 <:+: ls.headD line) :
    InnerComplete line ls ↔ CompleteLog ls.tail.tail := by
  cases ls with
  | nil =>
    rw [innerComplete_nil_iff]
    exact iff_of_true (.inl h) .nil
  | cons l ls =>
    rw [List.headD_cons] at h
    simp only [innerComplete_cons_iff, recordBody_cons_iff, if_pos h, exists_eq_left,
      List.tail_cons]

/-- So does a line that names two. -/
theorem innerComplete_of_objects2 (h₁ : ¬ objects1 <:+: ls.headD line)
    (h₂ : objects2 <:+: ls.headD line) :
    InnerComplete line ls ↔ CompleteLog ls.tail.tail.tail := by
  cases ls with
  | nil =>
    rw [innerComplete_nil_iff]
    exact iff_of_true (.inr h₂) .nil
  | cons l ls =>
    rw [List.headD_cons] at h₁ h₂
    simp only [innerComplete_cons_iff, recordBody_cons_iff, if_neg h₁, if_pos h₂,
      exists_eq_left, List.tail_cons]

/-- After any other line it goes on, with what became of the line in the buffer. -/
theorem innerComplete_of_text {line' : Line} (h : ¬ NamesObjects (ls.headD line))
    (hline' : line' <+: ls.headD line) :
    InnerComplete line ls ↔ InnerComplete line' ls.tail := by
  have hnames : ¬ NamesObjects line' := by
    rintro (h' | h')
    · exact h (.inl (h'.trans hline'.isInfix))
    · exact h (.inr (h'.trans hline'.isInfix))
  cases ls with
  | nil =>
    rw [List.tail_nil, innerComplete_nil_iff, innerComplete_nil_iff]
    exact iff_of_false h hnames
  | cons l ls =>
    rw [List.headD_cons, NamesObjects, not_or] at h
    simp only [innerComplete_cons_iff, recordBody_cons_iff, if_neg h.1, if_neg h.2, List.tail_cons]
    simp [InnerComplete, hnames]

end Grammar

/-! ## What a step does -/

/-- No line is left at the end of the input. -/
theorem lines_of_none {input : List UInt8} (h : fgetsLine input = none) : lines input = [] := by
  rw [lines]
  split
  · rfl
  · rename_i h'
    rw [h] at h'
    cases h'

/-- The first line, and those of the rest. -/
theorem lines_of_some {input rest : List UInt8} {l : Line}
    (h : fgetsLine input = some (l, rest)) : lines input = l :: lines rest := by
  rw [lines]
  split
  · rename_i h'
    rw [h] at h'
    cases h'
  · rename_i h'
    rw [h] at h'
    obtain ⟨rfl, rfl⟩ := Prod.mk.inj (Option.some.inj h')
    rfl

namespace State

variable {s : State}

/-- What `fgets` leaves in the buffer and in the input. -/
theorem fgets_spec (s : State) : s.fgets.line = (lines s.input).headD s.line ∧
    lines s.fgets.input = (lines s.input).tail ∧ s.fgets.control = s.control ∧
    s.fgets.input.length ≤ s.input.length := by
  unfold fgets
  cases h : fgetsLine s.input with
  | none => simp [lines_of_none h]
  | some r =>
    obtain ⟨l, rest⟩ := r
    simp only [lines_of_some h, List.headD_cons, List.tail_cons, true_and]
    exact (length_fgetsLine h).le

/-- The pointer to the second separator of a line is null unless it has two. -/
theorem where_eq_none_iff {l : Line} :
    ((strstr l separator).bind fun p => strstr (p.drop 3) separator) = none ↔
      ¬ HasTwice l separator := by
  cases h : strstr l separator with
  | none => simp [not_hasTwice_of_strstr h]
  | some p =>
    rw [← isSome_strstr_drop h, Option.not_isSome_iff_eq_none]
    rfl

/-- The branch for the first format goes on only if the line has two separators. -/
theorem sanitizeSpec_spec (s : State) : s.sanitizeSpec.input = s.input ∧
    (HasTwice s.line separator → s.sanitizeSpec.control = s.control) ∧
    (¬ HasTwice s.line separator → s.sanitizeSpec.control = .nullPassed) := by
  unfold sanitizeSpec
  dsimp only
  cases h : (strstr s.line separator).bind fun p => strstr (p.drop 3) separator with
  | none => exact ⟨rfl, fun htwice => absurd htwice (where_eq_none_iff.mp h), fun _ => rfl⟩
  | some p =>
    refine ⟨rfl, fun _ => rfl, fun htwice => ?_⟩
    rw [where_eq_none_iff.mpr htwice] at h
    cases h

/-- From where `main` ends cleanly. -/
def Accepts (s : State) : Prop :=
  match s.control with
  | .outer => CompleteLog (lines s.input)
  | .inner => InnerComplete s.line (lines s.input)
  | .returned => True
  | .nullPassed => False

/-- What the outer loop accepts. -/
theorem accepts_outer (hs : s.control = .outer) : s.Accepts ↔ CompleteLog (lines s.input) := by
  simp only [Accepts, hs]

/-- What the inner loop accepts. -/
theorem accepts_inner (hs : s.control = .inner) :
    s.Accepts ↔ InnerComplete s.line (lines s.input) := by
  simp only [Accepts, hs]

/-- Output does not matter for what is accepted. -/
theorem accepts_print (s : State) (text : Line) : (s.print text).Accepts ↔ s.Accepts := Iff.rfl

/-- A round of the outer loop neither completes a log nor cuts it off. -/
theorem accepts_outerStep (hs : s.control = .outer) : s.Accepts ↔ s.outerStep.Accepts := by
  rw [accepts_outer hs]
  unfold outerStep
  cases h : fgetsLine s.input with
  | none =>
    rw [lines_of_none h]
    exact iff_of_true .nil trivial
  | some r =>
    obtain ⟨l, rest⟩ := r
    rw [lines_of_some h]
    dsimp only
    split_ifs with hspec hmarker
    · obtain ⟨hinput, htwo, hnull⟩ := sanitizeSpec_spec { s with line := l, input := rest }
      rw [completeLog_spec_iff (strstr_eq_self.mp hspec)]
      by_cases htwice : HasTwice l separator
      · rw [accepts_outer ((htwo htwice).trans hs), hinput]
        exact and_iff_right htwice
      · simp only [Accepts, hnull htwice, htwice, false_and]
    · obtain ⟨hline, hinput, -, -⟩ := fgets_spec { s with line := l, input := rest }
      rw [accepts_inner rfl, completeLog_record_iff (isSome_strstr.mp hmarker)
        fun hspec' => hspec (strstr_eq_self.mpr hspec')]
      dsimp only
      rw [hline, hinput]
    · rw [accepts_print, accepts_outer (s := { s with line := l, input := rest }) hs,
        completeLog_plain_iff fun hmarker' => hmarker (isSome_strstr.mpr hmarker')]

/-- Nor does a round of the inner loop. -/
theorem accepts_innerStep (hs : s.control = .inner) : s.Accepts ↔ s.innerStep.Accepts := by
  obtain ⟨hline, hinput, hcontrol, -⟩ := fgets_spec s
  obtain ⟨-, hinput₂, -, -⟩ := fgets_spec s.fgets
  obtain ⟨-, hinput₃, -, -⟩ := fgets_spec s.fgets.fgets
  rw [accepts_inner hs]
  unfold innerStep
  dsimp only
  split_ifs with h₁ h₂
  · rw [isSome_strstr, hline] at h₁
    rw [innerComplete_of_objects1 h₁, accepts_outer rfl]
    dsimp only
    rw [hinput₂, hinput]
  · rw [isSome_strstr, hline] at h₁ h₂
    rw [innerComplete_of_objects2 h₁ h₂, accepts_outer rfl]
    dsimp only
    rw [hinput₃, hinput₂, hinput]
  · rw [isSome_strstr, hline] at h₁ h₂
    set line := setNulIf s.fgets.line (strchr s.fgets.line newline) with hcut
    have hprefix : line <+: (lines s.input).headD s.line :=
      hline ▸ setNulIf_prefix s.fgets.line (strchr s.fgets.line newline)
    rw [accepts_print, accepts_inner (s := { s.fgets with line := line }) (hcontrol.trans hs),
      innerComplete_of_text (not_or.mpr ⟨h₁, h₂⟩) hprefix]
    dsimp only
    rw [hinput]

/-! ## When `main` returns -/

/-- What is left of the input counts, and then where `main` is. -/
def rank (s : State) : ℕ :=
  3 * s.input.length +
    match s.control with
    | .outer => 1
    | .inner => 2
    | .returned => 0
    | .nullPassed => 0

/-- A bound by the length of the input. -/
theorem rank_le (s : State) : rank s ≤ 3 * s.input.length + 2 := by
  unfold rank
  cases s.control <;> simp

/-- A round that reads something leaves less to do. -/
theorem rank_lt_of_length {s' : State} (hs : s.control = .outer ∨ s.control = .inner)
    (h : s'.input.length < s.input.length) : rank s' < rank s := by
  have hle := rank_le s'
  have hone : 3 * s.input.length + 1 ≤ rank s := by
    unfold rank
    rcases hs with hs | hs
    · simp [hs]
    · simp [hs]
  omega

/-- The outer loop lowers the rank. -/
theorem rank_outerStep (hs : s.control = .outer) : rank s.outerStep < rank s := by
  cases h : fgetsLine s.input with
  | none => simp [outerStep, h, rank, hs]
  | some r =>
    obtain ⟨l, rest⟩ := r
    refine rank_lt_of_length (.inl hs) (lt_of_le_of_lt ?_ (length_fgetsLine h))
    simp only [outerStep, h]
    split_ifs
    · exact (congrArg List.length (sanitizeSpec_spec _).1).le
    · exact (fgets_spec _).2.2.2
    · exact le_rfl

/-- The inner loop makes progress as long as something is left, and otherwise ends if the
line in the buffer names objects. -/
theorem rank_innerStep (hs : s.control = .inner)
    (h : InnerComplete s.line (lines s.input)) : rank s.innerStep < rank s := by
  cases hread : fgetsLine s.input with
  | none =>
    have hsame : s.fgets = s := by rw [fgets, hread]
    rw [lines_of_none hread, innerComplete_nil_iff, NamesObjects, ← isSome_strstr,
      ← isSome_strstr] at h
    unfold innerStep
    simp only [hsame]
    split_ifs with h₁ h₂
    · simp [rank, hs]
    · simp [rank, hs]
    · exact absurd h (not_or.mpr ⟨h₁, h₂⟩)
  | some r =>
    obtain ⟨l, rest⟩ := r
    have hless : s.fgets.input.length < s.input.length := by
      simp only [fgets, hread]
      exact length_fgetsLine hread
    have hle₂ := (fgets_spec s.fgets).2.2.2
    have hle₃ := (fgets_spec s.fgets.fgets).2.2.2
    refine rank_lt_of_length (.inr hs) ?_
    unfold innerStep
    dsimp only
    split_ifs
    · exact lt_of_le_of_lt hle₂ hless
    · exact lt_of_le_of_lt (hle₃.trans hle₂) hless
    · exact hless

/-- The program fits the criterion for runs that end. -/
theorem criterion : Criterion step Returned Accepts rank where
  stable := by
    intro s s' hstep
    cases hs : s.control with
    | outer =>
      obtain rfl : s.outerStep = s' := by simpa [step, hs] using hstep
      exact accepts_outerStep hs
    | inner =>
      obtain rfl : s.innerStep = s' := by simpa [step, hs] using hstep
      exact accepts_innerStep hs
    | returned => simp [step, hs] at hstep
    | nullPassed => simp [step, hs] at hstep
  progress := by
    intro s s' hstep haccepts
    cases hs : s.control with
    | outer =>
      obtain rfl : s.outerStep = s' := by simpa [step, hs] using hstep
      exact rank_outerStep hs
    | inner =>
      obtain rfl : s.innerStep = s' := by simpa [step, hs] using hstep
      exact rank_innerStep hs ((accepts_inner hs).mp haccepts)
    | returned => simp [step, hs] at hstep
    | nullPassed => simp [step, hs] at hstep
  final := by
    intro s hend
    cases hs : s.control with
    | outer => simp [step, hs] at hend
    | inner => simp [step, hs] at hend
    | returned => simp [Accepts, Returned, hs]
    | nullPassed => simp [Accepts, Returned, hs]

/-- **`main` returns, and passes no null pointer, exactly if** the log is complete. -/
theorem main_returns_iff (line : Line) (input : List UInt8) :
    EndsIn step Returned (start line input) ↔ CompleteLog (lines input) :=
  criterion.endsIn_iff (start line input)

/-- A line of the first format without separators: a null pointer is passed. -/
theorem main_passes_null : ¬ ∀ (line : Line) (input : List UInt8),
    EndsIn step Returned (start line input) := by
  intro hall
  have hstep : step (start [] (specMarker ++ [newline])) =
      some (start [] (specMarker ++ [newline])).outerStep := rfl
  have hcontrol : (start [] (specMarker ++ [newline])).outerStep.control = .nullPassed := by
    decide +kernel
  have hend : step (start [] (specMarker ++ [newline])).outerStep = none := by
    rw [step, hcontrol]
  have hreturned := (endsIn_none hend).mp ((endsIn_step hstep).mp (hall [] _))
  rw [Returned, hcontrol] at hreturned
  cases hreturned

/-- A record that is cut off after its header: `main` does not end. -/
example : ¬ EndsIn step Returned (start [] (marker ++ [newline])) := by
  have hread : fgetsLine (marker ++ [newline]) = some (marker ++ [newline], []) := by
    decide +kernel
  rw [criterion.endsIn_iff, accepts_outer rfl]
  show ¬ CompleteLog (lines (marker ++ [newline]))
  rw [lines_of_some hread, lines_of_none rfl,
    completeLog_record_iff (by decide +kernel) (by decide +kernel), List.tail_nil,
    innerComplete_nil_iff, NamesObjects]
  decide +kernel

end State

end Vulkanite.PrintSanitize
