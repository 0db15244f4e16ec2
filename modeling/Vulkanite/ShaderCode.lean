/-
# The code of a shader module

`ShaderModule::ShaderModule` passes SPIR-V code to Vulkan as a vector of 32-bit
words, after `stripStoragePushConstant8` (`ShaderModule.cpp`) has removed one
capability from it.  SPIR-V code is five header words and a stream of instructions;
the high half of an instruction's first word counts its words, the low half is the
opcode.

The instructions are the frames of the stream, and the loop of the source, which
works on positions, is shown to be a filter on them.  Positions are natural numbers:
a vector has fewer than `2^62` words, so `i + wordCount` does not wrap in `size_t`.
-/
import Vulkanite.Lib.Frames

namespace Vulkanite

/-- `op`: the low half of an instruction's first word. -/
def opcode (w : UInt32) : UInt16 := (w &&& 0xffff).toUInt16

/-- `wordCount`: its high half. -/
def wordCount (w : UInt32) : ℕ := (w >>> 16).toUInt16.toNat

/-- An instruction, as the words it consists of. -/
abbrev Instruction : Type := Frame wordCount

/-- `OpCapability StoragePushConstant8`, an instruction of two words. -/
def IsStoragePushConstant8 (i : Instruction) : Prop := opcode i.head = 17 ∧ i.tail = [4450]

instance : DecidablePred IsStoragePushConstant8 := fun _ => instDecidableAnd

/-! ## The loop -/

/-- The loop of `stripStoragePushConstant8` from position `i` on: what it leaves in
`stripped` and `removed`, unless it returns early. -/
def stripLoop (code : List UInt32) (i : ℕ) (stripped : List UInt32) (removed : Bool) :
    Option (List UInt32 × Bool) :=
  if h : i < code.length then
    let op := opcode code[i]
    let count := wordCount code[i]
    if hcount : count = 0 ∨ code.length < i + count then none
    else if op = 17 ∧ count = 2 ∧ code[i + 1]? = some 4450 then
      stripLoop code (i + count) stripped true
    else stripLoop code (i + count) (stripped ++ (code.drop i).take count) removed
  else some (stripped, removed)
  termination_by code.length - i
  decreasing_by all_goals omega

/-- `stripStoragePushConstant8`: its result and the vector it leaves. -/
def stripStoragePushConstant8 (code : List UInt32) : Bool × List UInt32 :=
  if code.length < 5 then (false, code)
  else
    match stripLoop code 5 (code.take 5) false with
    | none => (false, code)
    | some (stripped, removed) => (removed, if removed then stripped else code)

/-! ## The loop is a filter -/

open Frame

/-- The instructions that are kept. -/
def keep (is : List Instruction) : List Instruction :=
  is.filter fun i => ¬ IsStoragePushConstant8 i

theorem encode_keep_cons (i : Instruction) (is : List Instruction) :
    encode (keep (i :: is)) = (if IsStoragePushConstant8 i then [] else i.words) ++
      encode (keep is) := by
  unfold keep
  split_ifs with h
  · rw [List.filter_cons_of_neg (by simpa using h), List.nil_append]
  · rw [List.filter_cons_of_pos (by simpa using h), encode_cons]

/-- At position `i` the loop looks at the first instruction of what is left. -/
theorem fits_iff {code : List UInt32} {i : ℕ} (h : i < code.length) :
    Fits wordCount code[i] (code.drop (i + 1)) ↔
      ¬ (wordCount code[i] = 0 ∨ code.length < i + wordCount code[i]) := by
  unfold Fits
  rw [List.length_drop]
  omega

theorem drop_drop_count {code : List UInt32} {i count : ℕ} (h : 1 ≤ count) :
    (code.drop (i + 1)).drop (count - 1) = code.drop (i + count) := by
  rw [List.drop_drop]
  congr 1
  omega

/-- The test of the loop is the test on the instruction. -/
theorem isStoragePushConstant8_take {code : List UInt32} {i : ℕ} (h : i < code.length)
    (hfits : Fits wordCount code[i] (code.drop (i + 1))) :
    IsStoragePushConstant8 (take code[i] (code.drop (i + 1)) hfits) ↔
      opcode code[i] = 17 ∧ wordCount code[i] = 2 ∧ code[i + 1]? = some 4450 := by
  have hlen := (take code[i] (code.drop (i + 1)) hfits).length_eq
  unfold IsStoragePushConstant8
  simp only [take] at hlen ⊢
  constructor
  · rintro ⟨hop, htail⟩
    rw [htail] at hlen
    have hcount : wordCount code[i] = 2 := hlen.symm
    refine ⟨hop, hcount, ?_⟩
    have hget : ((code.drop (i + 1)).take (wordCount code[i] - 1))[0]? = some 4450 := by
      rw [htail]
      rfl
    rwa [hcount, List.getElem?_take_of_lt Nat.zero_lt_one, List.getElem?_drop] at hget
  · rintro ⟨hop, hcount, hget⟩
    refine ⟨hop, ?_⟩
    obtain ⟨hlt, hget⟩ := List.getElem?_eq_some_iff.mp hget
    rw [hcount, List.drop_eq_getElem_cons hlt, hget]
    rfl

/-- From `i` on the loop decodes the instructions, and fails where decoding fails. -/
theorem stripLoop_eq (code : List UInt32) (i : ℕ) (stripped : List UInt32) (removed : Bool) :
    stripLoop code i stripped removed = (decode wordCount (code.drop i)).map fun is =>
      (stripped ++ encode (keep is), removed || is.any fun i => IsStoragePushConstant8 i) := by
  induction i, stripped, removed using stripLoop.induct code with
  | case1 i stripped removed h count hcount =>
    have hfits : ¬ Fits wordCount code[i] (code.drop (i + 1)) := by
      rw [fits_iff h]
      exact not_not_intro hcount
    rw [stripLoop, dif_pos h, dif_pos hcount, List.drop_eq_getElem_cons h,
      decode_cons_of_not_fits hfits]
    rfl
  | case2 i stripped removed h op count hcount hstrip ih =>
    have hfits := (fits_iff h).mpr hcount
    have hinstr := (isStoragePushConstant8_take h hfits).mpr hstrip
    rw [stripLoop, dif_pos h, dif_neg hcount, if_pos hstrip, ih, List.drop_eq_getElem_cons h,
      decode_cons_of_fits hfits, drop_drop_count hfits.1, Option.map_map]
    congr 1
    funext is
    simp [encode_keep_cons, hinstr]
  | case3 i stripped removed h op count hcount hstrip ih =>
    have hfits := (fits_iff h).mpr hcount
    have hinstr := (isStoragePushConstant8_take h hfits).not.mpr hstrip
    have hwords : (code.drop i).take count =
        (take code[i] (code.drop (i + 1)) hfits).words := by
      obtain ⟨k, hk⟩ : ∃ k, count = k + 1 := ⟨count - 1, by have := hfits.1; omega⟩
      rw [List.drop_eq_getElem_cons h, hk, List.take_succ_cons]
      show _ = code[i] :: (code.drop (i + 1)).take (count - 1)
      rw [hk, Nat.add_sub_cancel]
    rw [stripLoop, dif_pos h, dif_neg hcount, if_neg hstrip, ih, hwords,
      List.drop_eq_getElem_cons h, decode_cons_of_fits hfits, drop_drop_count hfits.1,
      Option.map_map]
    congr 1
    funext is
    simp [encode_keep_cons, hinstr]
  | case4 i stripped removed h =>
    rw [stripLoop, dif_neg h, List.drop_eq_nil_of_le (by omega), decode_nil]
    simp [keep]

/-! ## What `stripStoragePushConstant8` does -/

/-- The code is a header and a stream of whole instructions. -/
def IsInstructionStream (code : List UInt32) (is : List Instruction) : Prop :=
  5 ≤ code.length ∧ decode wordCount (code.drop 5) = some is

/-- On any other vector nothing happens. -/
theorem strip_of_not_stream {code : List UInt32} (h : ∀ is, ¬ IsInstructionStream code is) :
    stripStoragePushConstant8 code = (false, code) := by
  unfold stripStoragePushConstant8
  split_ifs with hlen
  · rfl
  · have hnone : decode wordCount (code.drop 5) = none := by
      rw [Option.eq_none_iff_forall_ne_some]
      exact fun is his => h is ⟨by omega, his⟩
    rw [stripLoop_eq, hnone]
    rfl

/-- On a stream of instructions the capability goes. -/
theorem strip_of_stream {code : List UInt32} {is : List Instruction}
    (h : IsInstructionStream code is) :
    stripStoragePushConstant8 code =
      (is.any fun i => IsStoragePushConstant8 i, code.take 5 ++ encode (keep is)) := by
  obtain ⟨hlen, hdecode⟩ := h
  unfold stripStoragePushConstant8
  rw [if_neg (by omega), stripLoop_eq, hdecode]
  show (_, if (false || is.any fun i => IsStoragePushConstant8 i) = true then _ else code) = _
  rw [Bool.false_or]
  split_ifs with hany
  · rfl
  · -- nothing was removed, so what was collected is the vector itself
    have hkeep : keep is = is := by
      unfold keep
      rw [List.filter_eq_self]
      simpa using hany
    rw [hkeep, encode_of_decode hdecode, List.take_append_drop]

theorem IsInstructionStream.length_header {code : List UInt32} {is : List Instruction}
    (h : IsInstructionStream code is) : (code.take 5).length = 5 := by
  rw [List.length_take]
  exact min_eq_left h.1

/-- What is left is a stream of instructions again. -/
theorem IsInstructionStream.strip {code : List UInt32} {is : List Instruction}
    (h : IsInstructionStream code is) :
    IsInstructionStream (stripStoragePushConstant8 code).2 (keep is) := by
  rw [strip_of_stream h]
  constructor
  · rw [List.length_append, h.length_header]
    omega
  · rw [List.drop_left' h.length_header, decode_encode]

/-- **Only the capability is removed.**  On a header and a stream of whole instructions
the header stays, the instructions are the same without the capability, and the
result says whether there was one.  Every other vector stays as it is, with result
`false`.  A second call returns `false`. -/
theorem stripStoragePushConstant8_spec (code : List UInt32) :
    (∀ is, IsInstructionStream code is →
      (stripStoragePushConstant8 code).2.take 5 = code.take 5 ∧
        IsInstructionStream (stripStoragePushConstant8 code).2
          (is.filter fun i => ¬ IsStoragePushConstant8 i) ∧
        ((stripStoragePushConstant8 code).1 = true ↔ ∃ i ∈ is, IsStoragePushConstant8 i)) ∧
      ((∀ is, ¬ IsInstructionStream code is) → stripStoragePushConstant8 code = (false, code)) ∧
      (stripStoragePushConstant8 (stripStoragePushConstant8 code).2).1 = false := by
  refine ⟨fun is his => ⟨?_, his.strip, ?_⟩, strip_of_not_stream, ?_⟩
  · rw [strip_of_stream his, List.take_left' his.length_header]
  · rw [strip_of_stream his]
    simp
  · by_cases h : ∃ is, IsInstructionStream code is
    · obtain ⟨is, his⟩ := h
      rw [strip_of_stream his.strip]
      simp [keep]
    · push Not at h
      rw [strip_of_not_stream h, strip_of_not_stream h]

/-- `OpCapability Shader` stays, `OpCapability StoragePushConstant8` goes. -/
def sampleCode : List UInt32 := [0x07230203, 0x00010600, 0, 7, 0, 0x00020011, 1, 0x00020011, 4450]

theorem stripStoragePushConstant8_spec_sampleCode :
    (stripStoragePushConstant8 sampleCode).2.take 5 = [0x07230203, 0x00010600, 0, 7, 0] ∧
      decode wordCount ((stripStoragePushConstant8 sampleCode).2.drop 5) =
        some [⟨0x00020011, [1], by decide⟩] ∧
      (stripStoragePushConstant8 sampleCode).1 = true := by
  obtain ⟨htake, hstream, hresult⟩ := (stripStoragePushConstant8_spec sampleCode).1
    [⟨0x00020011, [1], by decide⟩, ⟨0x00020011, [4450], by decide⟩]
    ⟨by decide, decode_eq_some_iff.mpr rfl⟩
  refine ⟨htake, hstream.2, hresult.mpr ?_⟩
  exact ⟨_, List.mem_cons_of_mem _ List.mem_cons_self, by decide⟩

end Vulkanite
