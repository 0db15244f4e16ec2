/-
# What `printSanitize` prints

A log is made of entries: lines of the application itself, messages in a single line, and
messages in a record of several lines.  `Entry.render` writes an entry the way the
validation layer does.

Of a log that is written so, `main` prints the lines of the application as they are, and
of the other entries the messages and nothing else (`main_shows`).
-/
import Vulkanite.PrintSanitize

namespace Vulkanite.PrintSanitize

open CString Halting StateTransition State

/-! ## Entries -/

/-- A line that `fgets` reads whole, without its end. -/
def IsText (l : Line) : Prop := newline ∉ l ∧ 0 ∉ l ∧ l.length + 1 < LINE_SZ

instance : DecidablePred IsText := fun _ => inferInstanceAs (Decidable (_ ∧ _))

instance : DecidablePred NamesObjects := fun _ => inferInstanceAs (Decidable (_ ∨ _))

/-- `plain` is a line of the application.  `spec` has the message behind the second
separator.  A `record` begins with a header and a line that says which call it is about,
and after the messages lists one or two objects with a line for each. -/
inductive Entry where
  | plain (text : Line)
  | spec (id source message : Line)
  | record (header call : Line) (messages : List Line) (objects : Line) (handles : List Line)

namespace Entry

/-- The lines that are written, without their ends. -/
def lines : Entry → List Line
  | .plain text => [text]
  | .spec id source message =>
    [specMarker ++ id ++ separator ++ (source ++ separator ++ message)]
  | .record header call messages objects handles =>
    header :: call :: (messages ++ objects :: handles)

end Entry

/-- Lines with their ends. -/
def renderLines (ls : List Line) : List UInt8 := ls.flatMap (· ++ [newline])

/-- A message the way it is printed. -/
def colored (text : Line) : List UInt8 := OWL_TERMINAL_LIGHT_BLUE ++ text ++ OWL_TERMINAL_RESET

namespace Entry

def render (e : Entry) : List UInt8 := renderLines e.lines

/-- What is to be seen of an entry. -/
def shown : Entry → List UInt8
  | .plain text => text ++ [newline]
  | .spec _ _ message => colored message
  | .record _ _ messages _ _ => messages.flatMap colored

/-- The markers and separators are where the reader looks for them, and nowhere before. -/
def Marked : Entry → Prop
  | .plain text => ¬ marker <:+: text
  | .spec id source _ => ¬ separator <:+: specMarker ++ id ++ separator.dropLast ∧
      ¬ separator <:+: source ++ separator.dropLast
  | .record header _ messages objects handles =>
    marker <:+: header ∧ ¬ specMarker <+: header ∧ (∀ m ∈ messages, ¬ NamesObjects m) ∧
      ((objects1 <:+: objects ∧ handles.length = 1) ∨
        (¬ objects1 <:+: objects ∧ objects2 <:+: objects ∧ handles.length = 2))

instance : DecidablePred Marked
  | .plain text => inferInstanceAs (Decidable (¬ marker <:+: text))
  | .spec _ _ _ => inferInstanceAs (Decidable (_ ∧ _))
  | .record _ _ _ _ _ => inferInstanceAs (Decidable (_ ∧ _ ∧ _ ∧ _))

/-- Moreover all lines fit the buffer. -/
def WellFormed (e : Entry) : Prop := (∀ l ∈ e.lines, IsText l) ∧ e.Marked

instance : DecidablePred WellFormed := fun _ => inferInstanceAs (Decidable (_ ∧ _))

end Entry

/-! ## Reading a line -/

section Lines

variable {l : Line} (hl : IsText l)
include hl

theorem fgetsLine_line (rest : List UInt8) :
    fgetsLine (l ++ newline :: rest) = some (l ++ [newline], rest) := by
  obtain ⟨hnewline, hnul, hlength⟩ := hl
  refine fgets_line hnewline (fun h => ?_) hlength rest
  rcases List.mem_append.mp h with h | h
  · exact hnul h
  · exact absurd (List.mem_singleton.mp h) (by decide)

theorem fgets_text (c : Control) (line : Line) (rest out : List UInt8) :
    (State.mk c line (l ++ newline :: rest) out).fgets = ⟨c, l ++ [newline], rest, out⟩ := by
  rw [State.fgets, fgetsLine_line hl]

end Lines

theorem renderLines_cons (l : Line) (ls : List Line) (rest : List UInt8) :
    renderLines (l :: ls) ++ rest = l ++ newline :: (renderLines ls ++ rest) := by
  simp [renderLines]

/-- The end of a line holds no marker. -/
theorem isSome_strstr_line (needle l : Line) (hnewline : newline ∉ needle) (hne : needle ≠ []) :
    (strstr (l ++ [newline]) needle).isSome ↔ needle <:+: l := by
  rw [isSome_strstr, infix_concat_iff hnewline hne]

theorem specMarker_prefix_line {l : Line} : specMarker <+: l ++ [newline] ↔ specMarker <+: l := by
  rw [List.prefix_concat_iff, or_iff_right]
  intro heq
  have hmem : newline ∈ specMarker := by simp [heq]
  exact absurd hmem (by decide)

/-- One round of the outer loop, when there is a line. -/
theorem step_line {l : Line} (hl : IsText l) (line : Line) (rest out : List UInt8) :
    step ⟨.outer, line, l ++ newline :: rest, out⟩ =
      let s : State := ⟨.outer, l ++ [newline], rest, out⟩
      if specMarker <+: l then some s.sanitizeSpec
      else if marker <:+: l then some { s.fgets with control := .inner }
      else some (s.print (l ++ [newline])) := by
  have hmarker := isSome_strstr_line marker l (by decide) (by decide)
  simp only [step, outerStep, fgetsLine_line hl, strstr_eq_self, specMarker_prefix_line, hmarker]
  split_ifs <;> rfl

/-! ## One entry -/

/-- The branch for the first format prints what is behind the second separator. -/
theorem sanitizeSpec_line {s : State} {a b c : Line} (ha : ¬ separator <:+: a ++ separator.dropLast)
    (hb : ¬ separator <:+: b ++ separator.dropLast)
    (hline : s.line = a ++ separator ++ (b ++ separator ++ (c ++ [newline]))) :
    s.sanitizeSpec = s.print (colored c) := by
  have hfirst : strstr s.line separator =
      some (separator ++ (b ++ separator ++ (c ++ [newline]))) :=
    hline ▸ strstr_append (by decide) ha _
  have hsecond : strstr (b ++ separator ++ (c ++ [newline])) separator =
      some (separator ++ c ++ [newline]) := by
    rw [strstr_append (by decide) hb, List.append_assoc]
  have hskip : ∀ l : Line, (separator ++ l).drop 3 = l := fun l => rfl
  simp only [sanitizeSpec, hfirst, Option.bind_some, hskip, hsecond, strrchr_concat, setNulIf,
    setNul_append, colored]

/-- The inner loop prints the messages. -/
theorem reaches_messages {messages : List Line} (hlines : ∀ m ∈ messages, IsText m)
    (hnames : ∀ m ∈ messages, ¬ NamesObjects m) (line : Line) (rest out : List UInt8) :
    ∃ line', Reaches step ⟨.inner, line, renderLines messages ++ rest, out⟩
      ⟨.inner, line', rest, out ++ messages.flatMap colored⟩ := by
  induction messages generalizing line out with
  | nil => exact ⟨line, by simpa [renderLines] using .refl⟩
  | cons m messages ih =>
    rw [List.forall_mem_cons] at hlines hnames
    have hone := isSome_strstr_line objects1 m (by decide) (by decide)
    have htwo := isSome_strstr_line objects2 m (by decide) (by decide)
    obtain ⟨hone', htwo'⟩ := not_or.mp hnames.1
    obtain ⟨line', hreaches⟩ := ih hlines.2 hnames.2 m (out ++ colored m)
    have hstep : step ⟨.inner, line, renderLines (m :: messages) ++ rest, out⟩ =
        some ⟨.inner, m, renderLines messages ++ rest, out ++ colored m⟩ := by
      simp only [step, innerStep, renderLines_cons, fgets_text hlines.1, hone, htwo, if_neg hone',
        if_neg htwo', strchr_concat hlines.1.1, setNulIf, setNul_append, State.print, colored]
    rw [List.append_assoc] at hreaches
    exact ⟨line', .head hstep hreaches⟩

/-- It ends at the list of objects. -/
theorem step_objects {objects : Line} {handles : List Line} (hlines : IsText objects)
    (hhandles : ∀ l ∈ handles, IsText l)
    (hnames : (objects1 <:+: objects ∧ handles.length = 1) ∨
      (¬ objects1 <:+: objects ∧ objects2 <:+: objects ∧ handles.length = 2))
    (line : Line) (rest out : List UInt8) :
    ∃ line', step ⟨.inner, line, renderLines (objects :: handles) ++ rest, out⟩ =
      some ⟨.outer, line', rest, out⟩ := by
  have hone := isSome_strstr_line objects1 objects (by decide) (by decide)
  have htwo := isSome_strstr_line objects2 objects (by decide) (by decide)
  rcases hnames with ⟨hone', hlength⟩ | ⟨hone', htwo', hlength⟩
  · obtain ⟨l, rfl⟩ := List.length_eq_one_iff.mp hlength
    refine ⟨l ++ [newline], ?_⟩
    simp only [step, innerStep, renderLines_cons, fgets_text hlines, hone, if_pos hone',
      fgets_text (hhandles l (by simp))]
    rfl
  · obtain ⟨l, l', rfl⟩ := List.length_eq_two.mp hlength
    refine ⟨l' ++ [newline], ?_⟩
    simp only [step, innerStep, renderLines_cons, fgets_text hlines, hone, htwo, if_neg hone',
      if_pos htwo', fgets_text (hhandles l (by simp)), fgets_text (hhandles l' (by simp))]
    rfl

/-- **Step lemma**: of each entry `main` prints what is to be seen, and goes on behind it. -/
theorem reaches_entry {e : Entry} (h : e.WellFormed) (line : Line) (rest out : List UInt8) :
    ∃ line', Reaches step ⟨.outer, line, e.render ++ rest, out⟩
      ⟨.outer, line', rest, out ++ e.shown⟩ := by
  obtain ⟨hlines, hmarked⟩ := h
  cases e with
  | plain text =>
    have hspec : ¬ specMarker <+: text := fun hspec => hmarked (marker_of_specMarker hspec)
    refine ⟨text ++ [newline], .single ?_⟩
    rw [Entry.render, Entry.lines, renderLines_cons,
      step_line (hlines text (List.mem_singleton_self _)), if_neg hspec, if_neg hmarked]
    rfl
  | spec id source message =>
    obtain ⟨hid, hsource⟩ := hmarked
    have hspec : specMarker <+:
        specMarker ++ id ++ separator ++ (source ++ separator ++ message) := by
      simp only [List.append_assoc]
      exact List.prefix_append _ _
    refine ⟨specMarker ++ id ++ separator ++ (source ++ separator ++ message) ++ [newline],
      .single ?_⟩
    rw [Entry.render, Entry.lines, renderLines_cons,
      step_line (hlines _ (List.mem_singleton_self _)), if_pos hspec,
      sanitizeSpec_line hid hsource (c := message) (by simp only [List.append_assoc])]
    rfl
  | record header call messages objects handles =>
    obtain ⟨hmarker, hspec, hnames, hobjects⟩ := hmarked
    simp only [Entry.lines, List.forall_mem_cons, List.forall_mem_append] at hlines
    obtain ⟨hheader, hcall, hmessages, hlist, hhandles⟩ := hlines
    have hheaderStep : step ⟨.outer, line,
        (Entry.record header call messages objects handles).render ++ rest, out⟩ =
        some ⟨.inner, call ++ [newline],
          renderLines messages ++ (renderLines (objects :: handles) ++ rest), out⟩ := by
      rw [Entry.render, Entry.lines, renderLines_cons, step_line hheader, if_neg hspec,
        if_pos hmarker, renderLines_cons, fgets_text hcall]
      simp [renderLines]
    obtain ⟨line', hprinted⟩ := reaches_messages hmessages hnames (call ++ [newline])
      (renderLines (objects :: handles) ++ rest) out
    obtain ⟨line'', hend⟩ := step_objects hlist hhandles hobjects line' rest
      (out ++ messages.flatMap colored)
    exact ⟨line'', .head hheaderStep (hprinted.tail hend)⟩

/-! ## The whole log -/

theorem reaches_log {entries : List Entry} (h : ∀ e ∈ entries, e.WellFormed) (line : Line)
    (out : List UInt8) : ∃ line', Reaches step ⟨.outer, line, entries.flatMap Entry.render, out⟩
      ⟨.outer, line', [], out ++ entries.flatMap Entry.shown⟩ := by
  induction entries generalizing line out with
  | nil => exact ⟨line, by simpa using .refl⟩
  | cons e entries ih =>
    rw [List.forall_mem_cons] at h
    obtain ⟨line₁, hfirst⟩ := reaches_entry h.1 line (entries.flatMap Entry.render) out
    obtain ⟨line₂, hrest⟩ := ih h.2 line₁ (out ++ e.shown)
    refine ⟨line₂, ?_⟩
    simp only [List.flatMap_cons, ← List.append_assoc]
    exact hfirst.trans hrest

/-- **`main` prints what is to be seen of the log**, and returns. -/
theorem main_shows {entries : List Entry} (h : ∀ e ∈ entries, e.WellFormed) (line : Line) :
    EndsIn step (fun s => Returned s ∧ s.output = entries.flatMap Entry.shown)
      (start line (entries.flatMap Entry.render)) := by
  obtain ⟨line', hreaches⟩ := reaches_log h line []
  have hend : step ⟨.outer, line', [], entries.flatMap Entry.shown⟩ =
      some ⟨.returned, line', [], entries.flatMap Entry.shown⟩ := rfl
  rw [start, endsIn_of_reaches hreaches, List.nil_append, endsIn_step hend, endsIn_none rfl]
  exact ⟨rfl, rfl⟩

/-- A log with an entry of each kind. -/
def sampleLog : List Entry :=
  [.plain (chars "frame 0"),
   .spec (chars " 0x4fe1fef9") (chars "vkCmdTraceRaysKHR()") (chars "pixel 3 4"),
   .record (chars "Validation: VVL-DEBUG-PRINTF") (chars "vkQueueSubmit():")
     [chars "pixel 5 6", chars "pixel 7 8"] (chars "Objects: 2")
     [chars "[0] VkDevice 0x1", chars "[1] VkPipeline 0x2"]]

theorem main_shows_sampleLog :
    EndsIn step (fun s => Returned s ∧ s.output =
        chars "frame 0" ++ [newline] ++ colored (chars "pixel 3 4") ++
          colored (chars "pixel 5 6") ++ colored (chars "pixel 7 8"))
      (start [] (sampleLog.flatMap Entry.render)) := by
  have h := main_shows (show ∀ e ∈ sampleLog, e.WellFormed by decide +kernel) []
  have hshown : sampleLog.flatMap Entry.shown =
      chars "frame 0" ++ [newline] ++ colored (chars "pixel 3 4") ++
        colored (chars "pixel 5 6") ++ colored (chars "pixel 7 8") := by
    decide +kernel
  rwa [hshown] at h

end Vulkanite.PrintSanitize
