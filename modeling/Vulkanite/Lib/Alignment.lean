/-
# Rounding up to multiples

To round `v` up to `a` is to find the least multiple of `a` that is at least `v`.  On
words of `w` bits it is done in two ways: by clearing the low bits of `v + a - 1`, if `a`
is a power of two, or by dividing `v + a - 1` by `a` and multiplying again.

`toNat_and_not_pred` says what the first one computes.  `toNat_mul_div_self` is about the
second one in the wrong order: a product that is divided again is the number itself,
without the bits that the product lost.  This is the least multiple only by chance
(`add_pred_mod_eq_iff`).
-/
import Mathlib.Algebra.Order.Floor.Div
import Mathlib.Tactic

namespace Alignment

/-! ## Multiples -/

/-- The multiples of `a` that are at least `v`. -/
def multiplesFrom (a v : ℕ) : Set ℕ := {m | a ∣ m ∧ v ≤ m}

variable {a b v : ℕ}

theorem isLeast_mul_ceilDiv (ha : 0 < a) (v : ℕ) :
    IsLeast (multiplesFrom a v) (a * (v ⌈/⌉ a)) := by
  refine ⟨⟨Nat.dvd_mul_right a _, le_smul_ceilDiv ha⟩, ?_⟩
  rintro _ ⟨⟨c, rfl⟩, hle⟩
  exact Nat.mul_le_mul_left a ((ceilDiv_le_iff_le_mul ha).mpr hle)

theorem add_pred_mod_eq_zero_iff (ha : 0 < a) : (v + a - 1) % a = 0 ↔ v % a = 1 % a := by
  have hmod : v + a ≡ v [MOD a] := Nat.add_modEq_right
  have hpred : v + a = (v + a - 1) + 1 := by omega
  constructor
  · intro hzero
    have hone : (v + a - 1) + 1 ≡ 0 + 1 [MOD a] := Nat.ModEq.add_right 1 hzero
    rw [← hpred] at hone
    exact hmod.symm.trans hone
  · intro hone
    have hsum : (v + a - 1) + 1 ≡ 0 + 1 [MOD a] := by
      rw [← hpred]
      exact hmod.trans hone
    exact Nat.ModEq.add_right_cancel' 1 hsum

/-- The least multiple is reached by adding `a - 1` only right above a multiple. -/
theorem add_pred_eq_iff (ha : 0 < a) : v + a - 1 = a * (v ⌈/⌉ a) ↔ v % a = 1 % a := by
  have hdiv := Nat.div_add_mod (v + a - 1) a
  rw [← add_pred_mod_eq_zero_iff ha, Nat.ceilDiv_eq_add_pred_div]
  omega

/-- A remainder of `v + a - 1` is the least multiple only if it leaves nothing out. -/
theorem lt_of_add_pred_mod_eq (hb : 2 ∣ b) (hbpos : 0 < b) (ha : a = 1 ∨ 2 ∣ a) (hapos : 0 < a)
    (h : (v + a - 1) % b = a * (v ⌈/⌉ a)) : v + a - 1 < b := by
  by_contra hge
  rw [not_lt] at hge
  have hmod := Nat.mod_lt (v + a - 1) hbpos
  have hsub : (v + a - 1) % b ≤ v + a - 1 - b := by
    rw [Nat.mod_eq_sub_mod hge]
    exact Nat.mod_le _ _
  have hdiv := Nat.div_add_mod (v + a - 1) a
  have hlast := Nat.mod_lt (v + a - 1) hapos
  rw [Nat.ceilDiv_eq_add_pred_div] at h
  rcases Nat.eq_zero_or_pos v with rfl | hv
  · -- `a - 1` is odd and no multiple of `b`
    have hzero : (0 + a - 1) / a = 0 := Nat.div_eq_of_lt (by omega)
    rw [hzero, Nat.mul_zero] at h
    have hdvd := hb.trans (Nat.dvd_of_mod_eq_zero h)
    omega
  · -- the multiple is at least `a`, and too close to `v + a - 1`
    have hone : 1 ≤ (v + a - 1) / a := (Nat.one_le_div_iff hapos).mpr (by omega)
    have hmul := Nat.mul_le_mul_left a hone
    omega

theorem add_pred_mod_eq_iff (hb : 2 ∣ b) (hbpos : 0 < b) (ha : a = 1 ∨ 2 ∣ a) (hapos : 0 < a) :
    (v + a - 1) % b = a * (v ⌈/⌉ a) ↔ v + a - 1 < b ∧ v % a = 1 % a := by
  rw [← add_pred_eq_iff hapos]
  constructor
  · intro h
    have hlt := lt_of_add_pred_mod_eq hb hbpos ha hapos h
    exact ⟨hlt, (Nat.mod_eq_of_lt hlt).symm.trans h⟩
  · rintro ⟨hlt, h⟩
    rw [Nat.mod_eq_of_lt hlt, h]

/-! ## Words -/

section Words

variable {w : ℕ} {a : BitVec w}

/-- A power of two in a word is one of its bits. -/
theorem lt_of_eq_two_pow {e : ℕ} (he : a.toNat = 2 ^ e) : e < w := by
  have hlt := a.isLt
  rw [he] at hlt
  exact (Nat.pow_lt_pow_iff_right (by decide)).mp hlt

theorem dvd_two_pow (ha : ∃ e, a.toNat = 2 ^ e) : a.toNat ∣ 2 ^ w := by
  obtain ⟨e, he⟩ := ha
  rw [he]
  exact Nat.pow_dvd_pow 2 (lt_of_eq_two_pow he).le

/-- One less than a power of two is the mask of the bits below. -/
theorem getLsbD_pred {e : ℕ} (he : a.toNat = 2 ^ e) (i : ℕ) :
    (a - 1#w).getLsbD i = decide (i < e) := by
  have hlt := a.isLt
  have hpos := Nat.two_pow_pos e
  have hone : (1#w).toNat = 1 := by
    rw [BitVec.toNat_ofNat, Nat.mod_eq_of_lt (by omega)]
  have hpred : (a - 1#w).toNat = 2 ^ e - 1 := by
    rw [BitVec.toNat_sub, he, hone, Nat.mod_eq_sub_mod (by omega), Nat.mod_eq_of_lt (by omega)]
    omega
  rw [← BitVec.testBit_toNat, hpred, Nat.testBit_two_pow_sub_one]

/-- **Clearing the low bits rounds down.** -/
theorem toNat_and_not_pred (ha : ∃ e, a.toNat = 2 ^ e) (x : BitVec w) :
    (x &&& ~~~(a - 1#w)).toNat = a.toNat * (x.toNat / a.toNat) := by
  obtain ⟨e, he⟩ := ha
  apply Nat.eq_of_testBit_eq
  intro i
  rw [BitVec.testBit_toNat, BitVec.getLsbD_and, BitVec.getLsbD_not, getLsbD_pred he, he,
    Nat.testBit_two_pow_mul, Nat.testBit_div_two_pow, BitVec.testBit_toNat]
  by_cases hi : i < e
  · -- a low bit is cleared
    rw [decide_eq_true hi, decide_eq_false (Nat.not_le.mpr hi)]
    simp
  · -- the others stay; beyond the word there are none
    have hle := Nat.not_lt.mp hi
    rw [decide_eq_false hi, decide_eq_true hle, Nat.sub_add_cancel hle]
    by_cases hw : i < w
    · simp [hw]
    · simp [BitVec.getLsbD_of_ge x i (Nat.not_lt.mp hw)]

/-- **A product that is divided again loses its high bits.** -/
theorem toNat_mul_div_self {b : ℕ} (hab : a.toNat * b = 2 ^ w) (x : BitVec w) :
    (a * x / a).toNat = x.toNat % b := by
  have hpos : 0 < a.toNat := Nat.pos_of_mul_pos_right (hab ▸ Nat.two_pow_pos w)
  rw [BitVec.toNat_udiv, BitVec.toNat_mul, ← hab, Nat.mul_mod_mul_left,
    Nat.mul_div_cancel_left _ hpos]

end Words

end Alignment
