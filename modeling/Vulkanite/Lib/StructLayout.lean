/-
# Struct layouts

The rule by which C++ on an LP64 host and the scalar block layout on a device place
the scalars of a struct: each at the next multiple of its size, and the struct padded
to a multiple of its largest scalar.  A layout is the list of those sizes, in bytes.

Memory is made of 32-bit words, little-endian, and addressed in bytes; a scalar is one
or two words.  `storeArray_apply` says what an array of structs of one-word scalars
leaves in memory.
-/
import Mathlib.Data.List.GetD
import Mathlib.Tactic

namespace StructLayout

/-- A struct, as the sizes of its scalars. -/
abbrev Layout : Type := List ℕ

/-- The next multiple of `a`. -/
def alignUp (a n : ℕ) : ℕ := (n + a - 1) / a * a

/-- The offsets of the scalars, if the first `n` bytes are taken. -/
def offsetsFrom : ℕ → Layout → List ℕ
  | _, [] => []
  | n, s :: ss => alignUp s n :: offsetsFrom (alignUp s n + s) ss

/-- The end of the last scalar. -/
def endFrom : ℕ → Layout → ℕ
  | n, [] => n
  | n, s :: ss => endFrom (alignUp s n + s) ss

/-- The offset of a scalar. -/
def offset (l : Layout) (k : ℕ) : ℕ := (offsetsFrom 0 l).getD k 0

/-- The size of the struct, which is the stride of an array of it. -/
def size (l : Layout) : ℕ := alignUp (l.foldr max 1) (endFrom 0 l)

/-- The 32-bit words; the word `j` has the address `4 * j`. -/
abbrev Memory : Type := ℕ → UInt32

def load32 (m : Memory) (addr : ℕ) : UInt32 := m (addr / 4)

def load64 (m : Memory) (addr : ℕ) : UInt64 :=
  UInt64.ofNat ((m (addr / 4)).toNat + 2 ^ 32 * (m (addr / 4 + 1)).toNat)

def store32 (m : Memory) (addr : ℕ) (v : UInt32) : Memory := Function.update m (addr / 4) v

/-- Stores the scalars of a struct at their offsets. -/
def storeStruct (l : Layout) (m : Memory) (addr : ℕ) (vs : List UInt32) : Memory :=
  ((offsetsFrom 0 l).zip vs).foldl (fun m p => store32 m (addr + p.1) p.2) m

/-- Stores the structs of an array one after the other. -/
def storeArray (l : Layout) (m : Memory) (rs : List (List UInt32)) : Memory :=
  rs.zipIdx.foldl (fun m r => storeStruct l m (r.2 * size l) r.1) m

/-! ## Structs of one-word scalars -/

theorem alignUp_four (k : ℕ) : alignUp 4 (4 * k) = 4 * k := by
  unfold alignUp
  omega

theorem endFrom_replicate (w k : ℕ) : endFrom (4 * k) (List.replicate w 4) = 4 * (k + w) := by
  induction w generalizing k with
  | zero => rfl
  | succ w ih =>
    rw [List.replicate_succ, endFrom, alignUp_four, show 4 * k + 4 = 4 * (k + 1) by omega, ih]
    omega

theorem size_replicate {w : ℕ} (hw : w ≠ 0) : size (List.replicate w 4) = 4 * w := by
  have hmax : (List.replicate w 4).foldr max 1 = 4 := by
    obtain ⟨w, rfl⟩ := Nat.exists_eq_succ_of_ne_zero hw
    induction w with
    | zero => rfl
    | succ w ih => rw [List.replicate_succ, List.foldr_cons, ih (Nat.succ_ne_zero w), max_self]
  have hend := endFrom_replicate w 0
  rw [Nat.zero_add, Nat.mul_zero] at hend
  rw [size, hmax, hend, alignUp_four]

/-- The scalars fill the words from `a + k` on. -/
theorem foldl_store32_apply (vs : List UInt32) (a k : ℕ) (m : Memory) (j : ℕ) :
    ((offsetsFrom (4 * k) (List.replicate vs.length 4)).zip vs).foldl
        (fun m p => store32 m (4 * a + p.1) p.2) m j =
      if a + k ≤ j ∧ j < a + k + vs.length then vs.getD (j - (a + k)) 0 else m j := by
  induction vs generalizing k m with
  | nil =>
    rw [if_neg (by rw [List.length_nil]; omega)]
    rfl
  | cons v vs ih =>
    have haddr : (4 * a + 4 * k) / 4 = a + k := by omega
    rw [List.length_cons, List.replicate_succ, offsetsFrom, alignUp_four,
      show 4 * k + 4 = 4 * (k + 1) by omega, List.zip_cons_cons, List.foldl_cons, ih, store32,
      haddr, Function.update_apply]
    by_cases hj : j = a + k
    · subst hj
      rw [if_neg (by omega), if_pos rfl, if_pos (by omega), Nat.sub_self, List.getD_cons_zero]
    · by_cases hin : a + (k + 1) ≤ j ∧ j < a + (k + 1) + vs.length
      · rw [if_pos hin, if_pos (by omega), show j - (a + k) = j - (a + (k + 1)) + 1 by omega,
          List.getD_cons_succ]
      · rw [if_neg hin, if_neg hj, if_neg (by omega)]

theorem storeStruct_apply {w : ℕ} {vs : List UInt32} (hvs : vs.length = w) (m : Memory)
    (a j : ℕ) :
    storeStruct (List.replicate w 4) m (4 * a) vs j =
      if a ≤ j ∧ j < a + w then vs.getD (j - a) 0 else m j := by
  subst hvs
  exact foldl_store32_apply vs a 0 m j

/-- **An array of structs of `w` one-word scalars** fills the words up to its end. -/
theorem storeArray_apply {w : ℕ} (hw : w ≠ 0) {rs : List (List UInt32)}
    (hrs : ∀ r ∈ rs, r.length = w) (m : Memory) (j : ℕ) :
    storeArray (List.replicate w 4) m rs j =
      if j < w * rs.length then (rs.getD (j / w) []).getD (j % w) 0 else m j := by
  induction rs using List.reverseRecOn with
  | nil => rfl
  | append_singleton rs r ih =>
    have hr : r.length = w := hrs r (by simp)
    have ih := ih fun r' hr' => hrs r' (by simp [hr'])
    have hlast : storeArray (List.replicate w 4) m (rs ++ [r]) =
        storeStruct (List.replicate w 4) (storeArray (List.replicate w 4) m rs)
          (4 * (w * rs.length)) r := by
      have hsize : (0 + rs.length) * size (List.replicate w 4) = 4 * (w * rs.length) := by
        rw [size_replicate hw]
        ring
      unfold storeArray
      rw [List.zipIdx_append, List.foldl_append, List.zipIdx_singleton, List.foldl_cons,
        List.foldl_nil, hsize]
    rw [hlast, storeStruct_apply hr, ih, List.length_append, List.length_singleton, Nat.mul_succ]
    by_cases hlow : j < w * rs.length
    · have hdiv : j / w < rs.length := Nat.div_lt_of_lt_mul hlow
      rw [if_neg (by omega), if_pos hlow, if_pos (by omega), List.getD_append _ _ _ _ hdiv]
    by_cases hhigh : j < w * rs.length + w
    · -- a word of the last struct
      have hdiv : j / w = rs.length := by
        apply Nat.div_eq_of_lt_le
        · rw [Nat.mul_comm]
          omega
        · rw [Nat.mul_comm, Nat.mul_succ]
          omega
      have hmod : j - w * rs.length = j % w := by
        rw [← hdiv]
        exact Nat.mod_eq_sub_mul_div.symm
      rw [if_pos (by omega), if_pos hhigh, hdiv, hmod,
        List.getD_append_right _ _ _ _ le_rfl, Nat.sub_self, List.getD_cons_zero]
    · rw [if_neg (by omega), if_neg hlow, if_neg hhigh]

/-- The word `k` of the struct that `x` became. -/
theorem storeArray_map_apply {β : Type*} {f : β → List UInt32} {w : ℕ} (hw : w ≠ 0)
    (hf : ∀ x, (f x).length = w) (m : Memory) {xs : List β} {i k : ℕ} (hi : i < xs.length)
    (hk : k < w) :
    storeArray (List.replicate w 4) m (xs.map f) (w * i + k) = (f xs[i]).getD k 0 := by
  have hrs : ∀ r ∈ xs.map f, r.length = w := by
    intro r hr
    obtain ⟨x, -, rfl⟩ := List.mem_map.mp hr
    exact hf x
  have hlt : w * i + k < w * (xs.map f).length := by
    rw [List.length_map]
    calc w * i + k < w * i + w := by omega
      _ = w * (i + 1) := (Nat.mul_succ w i).symm
      _ ≤ w * xs.length := Nat.mul_le_mul_left w hi
  have hdiv : (w * i + k) / w = i := by
    rw [Nat.mul_add_div (Nat.pos_of_ne_zero hw), Nat.div_eq_of_lt hk, Nat.add_zero]
  have hmod : (w * i + k) % w = k := by
    rw [Nat.mul_add_mod, Nat.mod_eq_of_lt hk]
  have hget : (xs.map f).getD i [] = f xs[i] := by
    rw [List.getD_eq_getElem (xs.map f) [] (by rw [List.length_map]; exact hi), List.getElem_map]
  rw [storeArray_apply hw hrs, if_pos hlt, hdiv, hmod, hget]

end StructLayout
