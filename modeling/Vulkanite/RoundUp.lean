/-
# The round-up helpers

Four functions round a 64-bit value up to a multiple of an alignment.  `alignAddress` of
`vkn-common.h` clears the low bits; `nextMultipleOf` and `roundUpToMultipleOf` of
`Context.cpp` divide and multiply.  The `alignAddress` of `Buffer.h` is meant to do that
too, but for want of parentheses it multiplies first, and the division takes the
multiplication back.

Three of them always return the least multiple that is at least the value; the fourth does
only for values that are one above a multiple (`helpersAgree_iff`).
-/
import Vulkanite.Lib.Alignment
import Vulkanite.SizeT

namespace Vulkanite

open Alignment

/-- A `void *`, as the 64-bit number that it is cast to. -/
abbrev VoidPtr := UInt64

abbrev VkDeviceAddress := UInt64

/-- `alignAddress(void*,size_t)` of `vkn-common.h`. -/
def VoidPtr.alignAddress (ptr : VoidPtr) (alignment : UInt64) : VoidPtr :=
  let v : UInt64 := ptr
  (v + alignment - 1) &&& ~~~(alignment - 1)

/-- `alignAddress(VkDeviceAddress,size_t)` of `Buffer.h`: the product comes first. -/
def VkDeviceAddress.alignAddress (addr : VkDeviceAddress) (align : UInt64) : VkDeviceAddress :=
  let asInt : UInt64 := addr
  align * (asInt + align - 1) / align

/-- `x` is the least multiple of `a` that is at least `v`. -/
def IsRoundedUp (a v x : UInt64) : Prop := IsLeast (multiplesFrom a.toNat v.toNat) x.toNat

/-- All helpers return `x`. -/
structure AllReturn (a v x : UInt64) : Prop where
  voidPtr : VoidPtr.alignAddress v a = x
  deviceAddress : VkDeviceAddress.alignAddress v a = x
  nextMultipleOf : nextMultipleOf a v = x
  roundUpToMultipleOf : roundUpToMultipleOf a v = x

/-- All helpers return the least multiple of `a` that is at least `v`. -/
def HelpersAgree (a v : UInt64) : Prop := ∃ x, IsRoundedUp a v x ∧ AllReturn a v x

variable {a v : UInt64}

theorem pos_of_two_pow (ha : ∃ e, a.toNat = 2 ^ e) : 0 < a.toNat := by
  obtain ⟨e, he⟩ := ha
  rw [he]
  exact Nat.two_pow_pos e

/-! ## Dividing and multiplying -/

/-- **`nextMultipleOf` rounds up**, to powers of two and to other numbers. -/
theorem isRoundedUp_nextMultipleOf (ha : 0 < a.toNat) (hv : v.toNat + a.toNat - 1 < 2 ^ 64) :
    IsRoundedUp a v (nextMultipleOf a v) := by
  rw [IsRoundedUp, toNat_nextMultipleOf ha (by omega), ← Nat.ceilDiv_eq_add_pred_div]
  exact isLeast_mul_ceilDiv ha v.toNat

/-! ## Masking -/

theorem VoidPtr.toNat_alignAddress (ha : ∃ e, a.toNat = 2 ^ e) :
    (VoidPtr.alignAddress v a).toNat = a.toNat * ((v + a - 1).toNat / a.toNat) :=
  toNat_and_not_pred (a := a.toBitVec) ha (v + a - 1).toBitVec

/-- Masking does the same as dividing and multiplying. -/
theorem VoidPtr.alignAddress_eq (ha : ∃ e, a.toNat = 2 ^ e)
    (hv : v.toNat + a.toNat - 1 < 2 ^ 64) : VoidPtr.alignAddress v a = nextMultipleOf a v := by
  have hpos := pos_of_two_pow ha
  rw [← UInt64.toNat_inj, toNat_alignAddress ha, toNat_nextMultipleOf hpos (by omega),
    toNat_add_pred hpos (by omega)]

/-! ## Multiplying and dividing -/

/-- What is left of `v + a - 1` is what the product does not lose. -/
theorem VkDeviceAddress.toNat_alignAddress {e : ℕ} (he : a.toNat = 2 ^ e) :
    (VkDeviceAddress.alignAddress v a).toNat = (v + a - 1).toNat % 2 ^ (64 - e) := by
  have hab : a.toNat * 2 ^ (64 - e) = 2 ^ 64 := by
    rw [he]
    exact pow_mul_pow_sub 2 (lt_of_eq_two_pow (a := a.toBitVec) he).le
  exact toNat_mul_div_self (a := a.toBitVec) hab (v + a - 1).toBitVec

/-- **Multiplying first rounds up exactly if** nothing is lost and `v` is one above a
multiple. -/
theorem VkDeviceAddress.alignAddress_eq_iff (ha : ∃ e, a.toNat = 2 ^ e)
    (hv : v.toNat + a.toNat - 1 < 2 ^ 64) :
    VkDeviceAddress.alignAddress v a = nextMultipleOf a v ↔
      a.toNat * (v.toNat + a.toNat - 1) < 2 ^ 64 ∧ v.toNat % a.toNat = 1 % a.toNat := by
  have hpos := pos_of_two_pow ha
  obtain ⟨e, he⟩ := ha
  have hlt : e < 64 := lt_of_eq_two_pow (a := a.toBitVec) he
  have heven : a.toNat = 1 ∨ 2 ∣ a.toNat := by
    rw [he]
    rcases Nat.eq_zero_or_pos e with rfl | hepos
    · exact Or.inl rfl
    · exact Or.inr (dvd_pow_self 2 hepos.ne')
  have hfits : a.toNat * (v.toNat + a.toNat - 1) < 2 ^ 64 ↔
      v.toNat + a.toNat - 1 < 2 ^ (64 - e) := by
    have hword : 2 ^ 64 = a.toNat * 2 ^ (64 - e) := by
      rw [he, pow_mul_pow_sub 2 hlt.le]
    rw [hword, Nat.mul_lt_mul_left hpos]
  rw [hfits, ← add_pred_mod_eq_iff (dvd_pow_self 2 (Nat.sub_pos_of_lt hlt).ne')
    (Nat.two_pow_pos _) heven hpos, ← UInt64.toNat_inj, toNat_alignAddress he,
    toNat_nextMultipleOf hpos (by omega), toNat_add_pred hpos (by omega),
    Nat.ceilDiv_eq_add_pred_div]

/-! ## When the helpers agree -/

/-- **The helpers agree on the least multiple exactly if** the product that is formed first
does not overflow and `v` is one above a multiple of `a`. -/
theorem helpersAgree_iff (ha : ∃ e, a.toNat = 2 ^ e) (hv : v.toNat + a.toNat - 1 < 2 ^ 64) :
    HelpersAgree a v ↔
      a.toNat * (v.toNat + a.toNat - 1) < 2 ^ 64 ∧ v.toNat % a.toNat = 1 % a.toNat := by
  rw [← VkDeviceAddress.alignAddress_eq_iff ha hv]
  constructor
  · rintro ⟨x, -, h⟩
    exact h.deviceAddress.trans h.nextMultipleOf.symm
  · intro h
    exact ⟨nextMultipleOf a v, isRoundedUp_nextMultipleOf (pos_of_two_pow ha) hv,
      VoidPtr.alignAddress_eq ha hv, h, rfl, rfl⟩

/-- 33 is one above a multiple of 16. -/
theorem helpersAgree_iff_sample : HelpersAgree 16 33 :=
  (helpersAgree_iff ⟨4, rfl⟩ (by decide)).mpr ⟨by decide, by decide⟩

/-- A multiple of 16 is not rounded to itself: 16 becomes 31. -/
theorem not_helpersAgree : ¬ ∀ a v : UInt64, (∃ e, a.toNat = 2 ^ e) →
    v.toNat + a.toNat - 1 < 2 ^ 64 → HelpersAgree a v := by
  intro hall
  obtain ⟨x, -, h⟩ := hall 16 16 ⟨4, rfl⟩ (by decide)
  have hnext : VkDeviceAddress.alignAddress 16 16 = nextMultipleOf 16 16 :=
    h.deviceAddress.trans h.nextMultipleOf.symm
  exact absurd hnext (by decide)

end Vulkanite
