/-
# Embedded device code

A compiled shader module gets into a program as text: `vulkanite_bin2c.cmake` writes the
bytes of the file as the braced initializer of a `std::vector<uint8_t>`, the C++ compiler
reads it, and at run time `ShaderModule::ShaderModule` makes the words for Vulkan from the
bytes.

`embedded_iff` goes from the file to Vulkan: what arrives are the words of the file, the
last one filled up with zeros, without the capability that `stripStoragePushConstant8`
takes away.  It also says which files do not get that far.
-/
import Vulkanite.Lib.HexBytes
import Vulkanite.ShaderCode
import Vulkanite.UserGeomBuild

namespace Vulkanite

open Frame

/-! ## The script -/

/-- Whether `if` takes the value of a variable for false, in CMake. -/
def cmakeIsFalse (value : List Char) : Bool :=
  ["", "0", "N", "NO", "OFF", "FALSE", "IGNORE", "NOTFOUND"].any
      (fun constant => constant.toList = value.map Char.toUpper) ||
    "-NOTFOUND".toList.isSuffixOf (value.map Char.toUpper)

/-- The class `[0-9a-f]`. -/
def InClass (c : Char) : Prop := ('0' ≤ c ∧ c ≤ '9') ∨ ('a' ≤ c ∧ c ≤ 'f')

instance : DecidablePred InClass := fun _ => instDecidableOr

/-- `string(REGEX REPLACE "([0-9a-f][0-9a-f])" "0x\\1," ..)`, which replaces the matches
from left to right. -/
def regexReplace : List Char → List Char
  | a :: b :: rest =>
    if InClass a ∧ InClass b then '0' :: 'x' :: a :: b :: ',' :: regexReplace rest
    else a :: regexReplace (b :: rest)
  | rest => rest

/-- The initializer that the script writes, unless it stops with an error. -/
def bin2c (file : List UInt8) : Option (List Char) :=
  let filedata := HexBytes.encode file
  if cmakeIsFalse filedata then none
  else some ('{' :: (regexReplace filedata ++ ['}', ';', '\n']))

/-! ## The compiler -/

/-- A character of a hexadecimal literal. -/
def isHexDigit (c : Char) : Bool := (HexBytes.value c).isSome

/-- The value of a hexadecimal literal, which must not be narrowed. -/
def byteLiteral (digits : List Char) : Option UInt8 := do
  let n ← HexBytes.number digits
  if digits ≠ [] ∧ n < 256 then some (UInt8.ofNat n) else none

/-- The elements of an initializer list up to its brace, and what follows: hexadecimal
literals, of which each takes as many digits as there are.  There may be a comma behind
the last one. -/
def elements : List Char → Option (List UInt8 × List Char)
  | '}' :: rest => some ([], rest)
  | '0' :: 'x' :: rest => do
    let b ← byteLiteral (rest.takeWhile isHexDigit)
    match _h : rest.dropWhile isHexDigit with
    | ',' :: rest' => (elements rest').map fun r => (b :: r.1, r.2)
    | '}' :: rest' => some ([b], rest')
    | _ => none
  | _ => none
  termination_by text => text.length
  decreasing_by
    have hle := (List.dropWhile_sublist isHexDigit (l := rest)).length_le
    rw [_h, List.length_cons] at hle
    simp only [List.length_cons]
    omega

/-- The vector that a braced initializer makes. -/
def initializer : List Char → Option (List UInt8)
  | '{' :: text => do
    let (bytes, rest) ← elements text
    if rest = [';', '\n'] then some bytes else none
  | _ => none

/-! ## The constructor -/

/-- The words in memory, the lowest byte of each first. -/
def words : List UInt8 → List UInt32
  | a :: b :: c :: d :: rest =>
    UInt32.ofNat (a.toNat + 2 ^ 8 * b.toNat + 2 ^ 16 * c.toNat + 2 ^ 24 * d.toNat) :: words rest
  | _ => []

/-- `dwordAlignedCode` in `ShaderModule::ShaderModule`.  There is none if the vector cannot
be made, or if the `memcpy` would write behind it. -/
def dwordAlignedCode (byteCode : List UInt8) : Option (List UInt32) :=
  let numUIntsForCode := (divRoundUp (UInt64.ofNat byteCode.length) 4).toUInt32.toInt32.toInt
  if numUIntsForCode < 0 then none
  else
    (ByteMemory.write (List.replicate (4 * numUIntsForCode.toNat) 0) 0 byteCode).map words

/-- The code that `ShaderModule::ShaderModule` creates the module with. -/
def shaderModuleCode (byteCode : List UInt8) : Option (List UInt32) :=
  (dwordAlignedCode byteCode).map fun code => (stripStoragePushConstant8 code).2

/-- From the file to Vulkan. -/
def embedded (file : List UInt8) : Option (List UInt32) := do
  let text ← bin2c file
  let byteCode ← initializer text
  shaderModuleCode byteCode

/-! ## From the file to the bytes -/

theorem inClass_digit : ∀ n < 16, InClass (HexBytes.digit n) := by decide

theorem isHexDigit_digit {n : ℕ} (hn : n < 16) : isHexDigit (HexBytes.digit n) = true := by
  rw [isHexDigit, HexBytes.value_digit n hn]
  rfl

/-- The digits of one byte are one match. -/
theorem regexReplace_digits (b : UInt8) (rest : List Char) :
    regexReplace (HexBytes.digits b ++ rest) =
      '0' :: 'x' :: (HexBytes.digits b ++ ',' :: regexReplace rest) := by
  have hb := b.toNat_lt
  have hhigh := inClass_digit (b.toNat / 16) (by omega)
  have hlow := inClass_digit (b.toNat % 16) (by omega)
  simp only [HexBytes.digits, List.cons_append, List.nil_append]
  rw [regexReplace, if_pos ⟨hhigh, hlow⟩]

/-- The digits of a literal end at the comma. -/
theorem span_digits (b : UInt8) (rest : List Char) :
    (HexBytes.digits b ++ ',' :: rest).takeWhile isHexDigit = HexBytes.digits b ∧
      (HexBytes.digits b ++ ',' :: rest).dropWhile isHexDigit = ',' :: rest := by
  have hb := b.toNat_lt
  have hhigh := isHexDigit_digit (n := b.toNat / 16) (by omega)
  have hlow := isHexDigit_digit (n := b.toNat % 16) (by omega)
  have hcomma : isHexDigit ',' = false := by decide
  simp [HexBytes.digits, hhigh, hlow, hcomma]

theorem byteLiteral_digits (b : UInt8) : byteLiteral (HexBytes.digits b) = some b := by
  have hne : HexBytes.digits b ≠ [] := List.cons_ne_nil _ _
  simp only [byteLiteral, HexBytes.number_digits, Option.bind_eq_bind, Option.bind_some]
  rw [if_pos ⟨hne, b.toNat_lt⟩, UInt8.ofNat_toNat]

/-- The literal of a byte, with a comma behind it. -/
theorem elements_digits (b : UInt8) (rest : List Char) :
    elements ('0' :: 'x' :: (HexBytes.digits b ++ ',' :: rest)) =
      (elements rest).map fun r => (b :: r.1, r.2) := by
  obtain ⟨htake, hdrop⟩ := span_digits b rest
  rw [elements, htake, byteLiteral_digits, Option.bind_eq_bind, Option.bind_some]
  split
  · rename_i rest' h
    rw [hdrop] at h
    rw [(List.cons.inj h).2]
  · rename_i rest' h
    rw [hdrop] at h
    exact absurd (List.cons.inj h).1 (by decide)
  · rename_i h _
    exact absurd hdrop (h rest)

/-- **The compiler reads the bytes** that the script wrote. -/
theorem elements_regexReplace (file : List UInt8) (rest : List Char) :
    elements (regexReplace (HexBytes.encode file) ++ '}' :: rest) = some (file, rest) := by
  induction file with
  | nil =>
    show elements ('}' :: rest) = some ([], rest)
    rw [elements]
  | cons b file ih =>
    rw [HexBytes.encode_cons, regexReplace_digits, List.cons_append, List.cons_append,
      List.append_assoc, List.cons_append, elements_digits, ih, Option.map_some]

/-- Every constant but these two has a letter that is no digit. -/
theorem exists_letter : ∀ constant ∈
      ["", "0", "N", "NO", "OFF", "FALSE", "IGNORE", "NOTFOUND"],
    constant = "" ∨ constant = "0" ∨ ∃ c ∈ ['L', 'N', 'O'], c ∈ constant.toList := by
  intro constant hmem
  simp only [List.mem_cons, List.not_mem_nil, or_false] at hmem
  rcases hmem with rfl | rfl | rfl | rfl | rfl | rfl | rfl | rfl
  · exact Or.inl rfl
  · exact Or.inr (Or.inl rfl)
  · exact Or.inr (Or.inr ⟨'N', by decide, by decide⟩)
  · exact Or.inr (Or.inr ⟨'N', by decide, by decide⟩)
  · exact Or.inr (Or.inr ⟨'O', by decide, by decide⟩)
  · exact Or.inr (Or.inr ⟨'L', by decide, by decide⟩)
  · exact Or.inr (Or.inr ⟨'N', by decide, by decide⟩)
  · exact Or.inr (Or.inr ⟨'N', by decide, by decide⟩)

/-- A file whose digits are a constant of CMake is empty. -/
theorem cmakeIsFalse_encode (file : List UInt8) :
    cmakeIsFalse (HexBytes.encode file) = true ↔ file = [] := by
  have hupper : ∀ n < 16, (HexBytes.digit n).toUpper ∉ ['L', 'N', 'O'] := by decide
  have hletter : ∀ c ∈ ['L', 'N', 'O'], c ∉ (HexBytes.encode file).map Char.toUpper := by
    intro c hc hmem
    obtain ⟨c', hc', rfl⟩ := List.mem_map.mp hmem
    obtain ⟨n, hn, rfl⟩ := HexBytes.exists_digit hc'
    exact hupper n hn hc
  have hlength : ((HexBytes.encode file).map Char.toUpper).length = 2 * file.length := by
    rw [List.length_map, HexBytes.length_encode]
  constructor
  · intro h
    rw [cmakeIsFalse, Bool.or_eq_true, List.any_eq_true, List.isSuffixOf_iff_suffix] at h
    rcases h with ⟨constant, hmem, heq⟩ | hsuffix
    · have hconstant := of_decide_eq_true heq
      rw [← hconstant] at hlength hletter
      rcases exists_letter constant hmem with rfl | rfl | ⟨c, hc, hin⟩
      · apply List.length_eq_zero_iff.mp
        have hzero : 0 = 2 * file.length := hlength
        omega
      · -- the digits are even in number
        have hone : 1 = 2 * file.length := hlength
        omega
      · exact absurd hin (hletter c hc)
    · exact absurd (hsuffix.subset (by decide)) (hletter 'N' (by decide))
  · rintro rfl
    decide

/-- The script stops exactly at an empty file; else the compiler reads the file. -/
theorem bin2c_bind_initializer (file : List UInt8) :
    (bin2c file).bind initializer = if file = [] then none else some file := by
  rw [bin2c]
  by_cases hfile : file = []
  · rw [if_pos hfile, if_pos ((cmakeIsFalse_encode file).mpr hfile)]
    rfl
  · rw [if_neg hfile, if_neg fun h => hfile ((cmakeIsFalse_encode file).mp h), Option.bind_some,
      initializer, elements_regexReplace]
    rfl

example : bin2c [3, 31] = some "\x7b0x03,0x1f,\x7d;\n".toList := by decide

/-! ## From the bytes to the words -/

/-- The bytes of words. -/
def bytesOfWords (ws : List UInt32) : List UInt8 := ws.flatMap fun w => littleEndian 4 w.toNat

theorem length_bytesOfWords (ws : List UInt32) : (bytesOfWords ws).length = 4 * ws.length := by
  induction ws with
  | nil => rfl
  | cons w ws ih =>
    rw [bytesOfWords, List.flatMap_cons, List.length_append, ← bytesOfWords, ih, List.length_cons]
    show 4 + 4 * ws.length = _
    omega

theorem words_bytesOfWords (ws : List UInt32) : words (bytesOfWords ws) = ws := by
  induction ws with
  | nil => rfl
  | cons w ws ih =>
    have hw := w.toNat_lt
    rw [bytesOfWords, List.flatMap_cons, ← bytesOfWords]
    simp only [littleEndian, List.cons_append, List.nil_append, words, ih, List.cons.injEq,
      and_true]
    rw [← UInt32.toNat_inj]
    simp only [UInt32.toNat_ofNat', UInt8.toNat_ofNat']
    omega

/-- The bytes of one word. -/
theorem littleEndian_word (a b c d : UInt8) :
    littleEndian 4 (UInt32.ofNat
      (a.toNat + 2 ^ 8 * b.toNat + 2 ^ 16 * c.toNat + 2 ^ 24 * d.toNat)).toNat = [a, b, c, d] := by
  have ha := a.toNat_lt
  have hb := b.toNat_lt
  have hc := c.toNat_lt
  have hd := d.toNat_lt
  simp only [littleEndian, List.cons.injEq, and_true, ← UInt8.toNat_inj, UInt8.toNat_ofNat',
    UInt32.toNat_ofNat']
  omega

/-- Whole words are all that there is. -/
theorem bytesOfWords_words {bytes : List UInt8} {n : ℕ} (h : bytes.length = 4 * n) :
    bytesOfWords (words bytes) = bytes ∧ (words bytes).length = n := by
  induction n generalizing bytes with
  | zero =>
    rw [List.length_eq_zero_iff.mp h]
    exact ⟨rfl, rfl⟩
  | succ n ih =>
    obtain ⟨a, b, c, d, rest, rfl⟩ : ∃ a b c d rest, bytes = a :: b :: c :: d :: rest := by
      match bytes with
      | a :: b :: c :: d :: rest => exact ⟨a, b, c, d, rest, rfl⟩
      | [] | [_] | [_, _] | [_, _, _] => simp only [List.length_cons, List.length_nil] at h; omega
    have hrest : rest.length = 4 * n := by
      simp only [List.length_cons] at h
      omega
    obtain ⟨hbytes, hlen⟩ := ih hrest
    rw [words, bytesOfWords, List.flatMap_cons, ← bytesOfWords, littleEndian_word, hbytes,
      List.length_cons, hlen]
    exact ⟨rfl, rfl⟩

/-- An `int` from the low half of a `size_t`. -/
theorem toInt_toInt32 (w : UInt32) :
    w.toInt32.toInt = if w.toNat < 2 ^ 31 then (w.toNat : ℤ) else w.toNat - 2 ^ 32 := by
  show w.toBitVec.toInt = _
  rw [BitVec.toInt_eq_toNat_cond, UInt32.toNat_toBitVec]
  split_ifs <;> omega

/-- `numUIntsForCode` is right as long as it is an `int`, and at most an `int` anyway. -/
theorem numUIntsForCode_eq (n : ℕ) :
    (divRoundUp (UInt64.ofNat n) 4).toUInt32.toInt32.toInt < 2 ^ 31 ∧
      (n ≤ 4 * (2 ^ 31 - 1) →
        (divRoundUp (UInt64.ofNat n) 4).toUInt32.toInt32.toInt = ((n + 3) / 4 : ℕ)) := by
  rw [toInt_toInt32, UInt64.toNat_toUInt32]
  constructor
  · split_ifs <;> omega
  · intro hn
    have hofNat : (UInt64.ofNat n).toNat = n := UInt64.toNat_ofNat_of_lt' (hn.trans_lt (by decide))
    have hfour : (4 : UInt64).toNat = 4 := rfl
    have hdiv : (divRoundUp (UInt64.ofNat n) 4).toNat = (n + 3) / 4 := by
      rw [toNat_divRoundUp (by decide) (by omega), hofNat, hfour]
      rfl
    rw [hdiv, if_pos (by omega)]
    omega

/-- Bytes in front of zeros. -/
theorem write_zeros (k : ℕ) (bytes : List UInt8) :
    ByteMemory.write (List.replicate k 0) 0 bytes =
      if bytes.length ≤ k then some (bytes ++ List.replicate (k - bytes.length) 0) else none := by
  simp only [ByteMemory.write, Nat.zero_add, List.length_replicate, List.take_zero,
    List.nil_append, List.drop_replicate]

/-- The words are those of the bytes, the last one filled up with zeros. -/
theorem dwordAlignedCode_eq_some {byteCode : List UInt8} {ws : List UInt32} :
    dwordAlignedCode byteCode = some ws ↔ ws.length < 2 ^ 31 ∧
      ∃ pad < 4, byteCode ++ List.replicate pad 0 = bytesOfWords ws := by
  obtain ⟨hint, hsmall⟩ := numUIntsForCode_eq byteCode.length
  rw [dwordAlignedCode]
  generalize (divRoundUp (UInt64.ofNat byteCode.length) 4).toUInt32.toInt32.toInt = n at hint hsmall
  simp only [write_zeros]
  constructor
  · intro h
    split_ifs at h with hneg hle
    · have hn := hsmall (by omega)
      have hlen : (byteCode ++ List.replicate (4 * n.toNat - byteCode.length) 0).length =
          4 * n.toNat := by
        rw [List.length_append, List.length_replicate]
        omega
      obtain ⟨hbytes, hcount⟩ := bytesOfWords_words hlen
      rw [Option.some.inj h] at hbytes hcount
      exact ⟨by omega, 4 * n.toNat - byteCode.length, by omega, hbytes.symm⟩
    · cases h
  · rintro ⟨hws, pad, hpad, hbytes⟩
    have hlen := congrArg List.length hbytes
    rw [List.length_append, List.length_replicate, length_bytesOfWords] at hlen
    have hn : n = ws.length := by
      rw [hsmall (by omega)]
      omega
    have hfilled : 4 * n.toNat - byteCode.length = pad := by omega
    rw [if_neg (by omega), if_pos (by omega), hfilled, hbytes, Option.map_some,
      words_bytesOfWords]

/-! ## From the file to Vulkan -/

/-- The code without the capability, if it is a header and a stream of instructions. -/
def IsStripped (ws code : List UInt32) : Prop :=
  (∃ is, IsInstructionStream ws is ∧
      code = ws.take 5 ++ encode (is.filter fun i => ¬ IsStoragePushConstant8 i)) ∨
    (∀ is, ¬ IsInstructionStream ws is) ∧ code = ws

theorem isStripped_iff (ws code : List UInt32) :
    IsStripped ws code ↔ (stripStoragePushConstant8 ws).2 = code := by
  by_cases h : ∃ is, IsInstructionStream ws is
  · obtain ⟨is, his⟩ := h
    have hunique : ∀ is', IsInstructionStream ws is' → is' = is := fun is' his' =>
      Option.some.inj (his'.2.symm.trans his.2)
    rw [strip_of_stream his]
    constructor
    · rintro (⟨is', his', rfl⟩ | ⟨hnone, -⟩)
      · rw [hunique is' his', keep]
      · exact absurd his (hnone is)
    · rintro rfl
      exact Or.inl ⟨is, his, rfl⟩
  · push Not at h
    rw [strip_of_not_stream h]
    constructor
    · rintro (⟨is, his, -⟩ | ⟨-, rfl⟩)
      · exact absurd his (h is)
      · rfl
    · rintro rfl
      exact Or.inr ⟨h, rfl⟩

/-- **What Vulkan gets is the file**: its words, the last one filled up with zeros, and
without the capability.  There is nothing for it if the file is empty, or does not fit in
fewer than `2 ^ 31` words. -/
theorem embedded_iff (file : List UInt8) (code : List UInt32) :
    embedded file = some code ↔ file ≠ [] ∧ ∃ ws : List UInt32, ws.length < 2 ^ 31 ∧
      (∃ pad < 4, file ++ List.replicate pad 0 = bytesOfWords ws) ∧ IsStripped ws code := by
  have hbytes : embedded file = (if file = [] then none else some file).bind shaderModuleCode := by
    rw [← bin2c_bind_initializer, Option.bind_assoc]
    rfl
  rw [hbytes]
  by_cases hfile : file = []
  · simp [hfile]
  · rw [if_neg hfile, Option.bind_some, shaderModuleCode, Option.map_eq_some_iff]
    simp only [dwordAlignedCode_eq_some, isStripped_iff, and_assoc]
    exact (and_iff_right hfile).symm

end Vulkanite
