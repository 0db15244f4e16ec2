/-
# Frames

A *frame* is a nonempty list whose first element says how long it is.  A stream of
frames is their concatenation; `decode` cuts a list into frames from the front and
fails if the list ends inside a frame or an element announces no length at all.

`decode_eq_some_iff` is the round trip: a list decodes to `fs` exactly when it is the
concatenation of `fs`.
-/
import Mathlib.Tactic

/-- A head that announces `len head` elements, itself included, and the others. -/
structure Frame {α : Type*} (len : α → ℕ) where
  head : α
  tail : List α
  length_eq : tail.length + 1 = len head

namespace Frame

variable {α : Type*} {len : α → ℕ}

/-- The elements of the frame. -/
def words (f : Frame len) : List α := f.head :: f.tail

/-- The elements of the frames, in order. -/
def encode (fs : List (Frame len)) : List α := fs.flatMap words

@[simp] theorem encode_nil : encode ([] : List (Frame len)) = [] := rfl

theorem encode_cons (f : Frame len) (fs : List (Frame len)) :
    encode (f :: fs) = f.words ++ encode fs := List.flatMap_cons

/-- The element `a` announces a frame that fits before the end of the list `a :: ws`. -/
def Fits (len : α → ℕ) (a : α) (ws : List α) : Prop := 1 ≤ len a ∧ len a ≤ ws.length + 1

instance (a : α) (ws : List α) : Decidable (Fits len a ws) := instDecidableAnd

/-- The frame that `a` announces. -/
def take (a : α) (ws : List α) (h : Fits len a ws) : Frame len where
  head := a
  tail := ws.take (len a - 1)
  length_eq := by
    obtain ⟨hpos, hle⟩ := h
    rw [List.length_take]
    omega

/-- The frames of a list, if it is cut up exactly. -/
def decode (len : α → ℕ) (ws : List α) : Option (List (Frame len)) :=
  match ws with
  | [] => some []
  | a :: ws =>
    if h : Fits len a ws then (decode len (ws.drop (len a - 1))).map (take a ws h :: ·) else none
  termination_by ws.length
  decreasing_by
    rw [List.length_drop, List.length_cons]
    omega

@[simp] theorem decode_nil : decode len ([] : List α) = some [] := by rw [decode]

theorem decode_cons_of_not_fits {a : α} {ws : List α} (h : ¬ Fits len a ws) :
    decode len (a :: ws) = none := by
  rw [decode, dif_neg h]

theorem decode_cons_of_fits {a : α} {ws : List α} (h : Fits len a ws) :
    decode len (a :: ws) = (decode len (ws.drop (len a - 1))).map (take a ws h :: ·) := by
  rw [decode, dif_pos h]

/-- A whole frame in front is the first one decoded. -/
theorem decode_words_append (f : Frame len) (ws : List α) :
    decode len (f.words ++ ws) = (decode len ws).map (f :: ·) := by
  obtain ⟨a, tail, hlen⟩ := f
  have hfits : Fits len a (tail ++ ws) := by
    unfold Fits
    rw [List.length_append]
    omega
  have htail : len a - 1 = tail.length := by omega
  show decode len (a :: (tail ++ ws)) = _
  rw [decode_cons_of_fits hfits, htail, List.drop_left]
  congr 2
  simp only [take, htail, List.take_left]

/-- Frames that follow one another are decoded again. -/
theorem decode_encode (fs : List (Frame len)) : decode len (encode fs) = some fs := by
  induction fs with
  | nil => exact decode_nil
  | cons f fs ih => rw [encode_cons, decode_words_append, ih, Option.map_some]

/-- What was decoded is the whole list. -/
theorem encode_of_decode {ws : List α} {fs : List (Frame len)} (h : decode len ws = some fs) :
    encode fs = ws := by
  induction ws using (measure List.length).wf.induction generalizing fs with
  | h ws ih =>
    cases ws with
    | nil =>
      rw [decode_nil] at h
      obtain rfl := Option.some.inj h
      rfl
    | cons a ws =>
      by_cases hfits : Fits len a ws
      · rw [decode_cons_of_fits hfits, Option.map_eq_some_iff] at h
        obtain ⟨fs, hfs, rfl⟩ := h
        have hlt : (ws.drop (len a - 1)).length < (a :: ws).length := by
          rw [List.length_drop, List.length_cons]
          omega
        rw [encode_cons, ih _ hlt hfs]
        show a :: (ws.take (len a - 1) ++ ws.drop (len a - 1)) = a :: ws
        rw [List.take_append_drop]
      · rw [decode_cons_of_not_fits hfits] at h
        cases h

/-- **Round trip.** -/
theorem decode_eq_some_iff {ws : List α} {fs : List (Frame len)} :
    decode len ws = some fs ↔ encode fs = ws := by
  constructor
  · exact encode_of_decode
  · rintro rfl
    exact decode_encode fs

end Frame
