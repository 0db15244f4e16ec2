/-
# `size_t` arithmetic, the `int` conversions and the round-up helpers

The host code stores sizes, device addresses and SBT indices in `size_t` and
`VkDeviceAddress` (both 64 bit, LP64), and hands some of them around as `int`.
`size_t` is `UInt64`, whose operations wrap; an `int` is an integer, and the
two conversions between them are the reductions C++ prescribes.

`divRoundUp`, `nextMultipleOf` and `roundUpToMultipleOf` are the helpers of
`vkn-common.h` and `Context.cpp`.  They wrap as the code does;
`toNat_nextMultipleOf` is the exact value as long as nothing overflows.
-/
import Mathlib.Tactic

namespace Vulkanite

/-- `INT_MAX`, the largest `int`. -/
def intMax : ℕ := 2147483647

/-! ## Conversions -/

/-- `(int)x` for a `size_t` `x`: reduction modulo `2^32` into the range of `int`. -/
def intOfSize (x : UInt64) : ℤ := Int.bmod x.toNat (2 ^ 32)

/-- `(size_t)i` for an `int` `i`: reduction modulo `2^64`. -/
def sizeOfInt (i : ℤ) : UInt64 := UInt64.ofNat (i % 2 ^ 64).toNat

/-- `(uint32_t)i` for an `int` `i`: reduction modulo `2^32`. -/
def uint32OfInt (i : ℤ) : UInt32 := UInt32.ofNat (i % 2 ^ 32).toNat

/-- Reduction into the range of `int` leaves the values of that range alone. -/
theorem bmod_of_le_intMax {n : ℕ} (h : n ≤ intMax) : Int.bmod n (2 ^ 32) = n := by
  have hlt : n < 2 ^ 31 := Nat.lt_succ_of_le h
  rw [Int.bmod_def]
  omega

/-- A `size_t` within the range of `int` converts to its own value. -/
theorem intOfSize_of_le {x : UInt64} (h : x.toNat ≤ intMax) : intOfSize x = x.toNat :=
  bmod_of_le_intMax h

/-- A natural number below `2^64` survives the conversion to `size_t`. -/
theorem toNat_sizeOfInt_natCast {n : ℕ} (h : n < 2 ^ 64) : (sizeOfInt (n : ℤ)).toNat = n := by
  rw [sizeOfInt, UInt64.toNat_ofNat']
  omega

/-- An index times a size, as long as the product does not overflow. -/
theorem toNat_sizeOfInt_mul {n : ℕ} {s : UInt64} (h : n * s.toNat < 2 ^ 64) :
    (sizeOfInt (n : ℤ) * s).toNat = n * s.toNat := by
  have hn : (sizeOfInt (n : ℤ)).toNat = n % 2 ^ 64 := by
    rw [sizeOfInt, UInt64.toNat_ofNat']
    omega
  rw [UInt64.toNat_mul, hn, Nat.mod_mul_mod, Nat.mod_eq_of_lt h]

/-- `(size_t)-1`, the begin that an accel without SBT entries carries, is the
largest `size_t`. -/
theorem toNat_sizeOfInt_neg_one : (sizeOfInt (-1)).toNat = 2 ^ 64 - 1 := by decide

/-- Reduction into the range of `int` keeps the residue modulo `2^32`. -/
theorem toNat_bmod_emod (n : ℕ) :
    (Int.bmod n (2 ^ 32) % 2 ^ 32).toNat % 2 ^ 32 = n % 2 ^ 32 := by
  have hpow : (2 : ℤ) ^ 32 = ((2 ^ 32 : ℕ) : ℤ) := by norm_cast
  rw [hpow, Int.bmod_emod, ← Int.natCast_emod, Int.toNat_natCast, Nat.mod_mod]

/-- A `size_t` that goes through `int` to `uint32_t` keeps its low 32 bits. -/
theorem toNat_uint32OfInt_intOfSize (x : UInt64) :
    (uint32OfInt (intOfSize x)).toNat = x.toNat % 2 ^ 32 := by
  unfold uint32OfInt intOfSize
  rw [UInt32.toNat_ofNat']
  exact toNat_bmod_emod _

/-! ## Order facts in `ℕ` -/

theorem toNat_max (a b : UInt64) : (max a b).toNat = max a.toNat b.toNat := by
  show (if a ≤ b then b else a).toNat = _
  split
  · rename_i h
    rw [UInt64.le_iff_toNat_le] at h
    omega
  · rename_i h
    rw [UInt64.le_iff_toNat_le] at h
    omega

/-- A sum that stays below `2^64` is exact. -/
theorem toNat_add_of_lt {a b : UInt64} (h : a.toNat + b.toNat < 2 ^ 64) :
    (a + b).toNat = a.toNat + b.toNat := by
  rw [UInt64.toNat_add, Nat.mod_eq_of_lt h]

/-- A product that stays below `2^64` is exact. -/
theorem toNat_mul_of_lt {a b : UInt64} (h : a.toNat * b.toNat < 2 ^ 64) :
    (a * b).toNat = a.toNat * b.toNat := by
  rw [UInt64.toNat_mul, Nat.mod_eq_of_lt h]

/-! ## Divisors of `2 ^ 64`

Such a divisor survives the wrapping. -/

theorem dvd_toNat_add {d : ℕ} (hd : d ∣ 2 ^ 64) {a b : UInt64} (ha : d ∣ a.toNat)
    (hb : d ∣ b.toNat) : d ∣ (a + b).toNat := by
  rw [UInt64.toNat_add, Nat.dvd_mod_iff hd]
  exact Nat.dvd_add ha hb

theorem dvd_toNat_mul {d : ℕ} (hd : d ∣ 2 ^ 64) {a b : UInt64} (h : d ∣ a.toNat * b.toNat) :
    d ∣ (a * b).toNat := by
  rw [UInt64.toNat_mul, Nat.dvd_mod_iff hd]
  exact h

/-! ## The round-up helpers -/

/-- `divRoundUp(size_t,size_t)` of `vkn-common.h`. -/
def divRoundUp (a b : UInt64) : UInt64 := (a + b - 1) / b

/-- `divRoundUp(int,int)` of `vkn-common.h`, for a positive divisor.  There is no result
if a sum leaves the range of `int`. -/
def divRoundUpInt (a b : ℤ) : Option ℤ :=
  if a + b ≤ intMax then some ((a + b - 1).tdiv b) else none

/-- `roundUpToMultipleOf` of `Context.cpp`. -/
def roundUpToMultipleOf (a b : UInt64) : UInt64 := a * divRoundUp b a

/-- `nextMultipleOf` of `Context.cpp`. -/
def nextMultipleOf (a b : UInt64) : UInt64 := a * divRoundUp b a

/-- The sum may be `2 ^ 64`: taking 1 away then wraps it back. -/
theorem toNat_add_pred {a b : UInt64} (hb : 0 < b.toNat) (h : a.toNat + b.toNat ≤ 2 ^ 64) :
    (a + b - 1).toNat = a.toNat + b.toNat - 1 := by
  rw [UInt64.toNat_sub, UInt64.toNat_add, UInt64.toNat_one]
  omega

/-- Without overflow `divRoundUp` is the quotient rounded up. -/
theorem toNat_divRoundUp {a b : UInt64} (hb : 0 < b.toNat) (h : a.toNat + b.toNat ≤ 2 ^ 64) :
    (divRoundUp a b).toNat = (a.toNat + b.toNat - 1) / b.toNat := by
  rw [divRoundUp, UInt64.toNat_div, toNat_add_pred hb h]

/-- `divRoundUp(int,int)` of two numbers that are not negative has a result exactly if
their sum is an `int`, and this is the quotient rounded up. -/
theorem divRoundUpInt_eq_some {a b : ℕ} (hb : 0 < b) {q : ℤ} :
    divRoundUpInt a b = some q ↔ a + b ≤ intMax ∧ q = ((a + b - 1) / b : ℕ) := by
  have hpred : (a : ℤ) + b - 1 = (a + b - 1 : ℕ) := by omega
  have hdiv : ((a : ℤ) + b - 1).tdiv b = ((a + b - 1) / b : ℕ) := by
    rw [hpred, Int.ofNat_tdiv]
  have hle : (a : ℤ) + b ≤ intMax ↔ a + b ≤ intMax := by omega
  simp only [divRoundUpInt, hdiv, hle]
  split_ifs with h
  · simp [h, eq_comm]
  · simp [h]

/-- Rounding up loses nothing and adds less than one multiple. -/
theorem mul_ceilDiv_bounds {a b : ℕ} (ha : 0 < a) :
    b ≤ a * ((b + a - 1) / a) ∧ a * ((b + a - 1) / a) ≤ b + a - 1 := by
  have hdiv := Nat.div_add_mod (b + a - 1) a
  have hmod := Nat.mod_lt (b + a - 1) ha
  omega

/-- Without overflow `nextMultipleOf` is the exact product. -/
theorem toNat_nextMultipleOf {a b : UInt64} (ha : 0 < a.toNat) (h : b.toNat + a.toNat ≤ 2 ^ 64) :
    (nextMultipleOf a b).toNat = a.toNat * ((b.toNat + a.toNat - 1) / a.toNat) := by
  have hdiv := toNat_divRoundUp ha h
  have hle := (mul_ceilDiv_bounds (b := b.toNat) ha).2
  rw [nextMultipleOf, toNat_mul_of_lt, hdiv]
  rw [hdiv]
  omega

/-- Without overflow `nextMultipleOf a b` is at least `b`. -/
theorem le_toNat_nextMultipleOf {a b : UInt64} (ha : 0 < a.toNat)
    (h : b.toNat + a.toNat ≤ 2 ^ 64) : b.toNat ≤ (nextMultipleOf a b).toNat := by
  rw [toNat_nextMultipleOf ha h]
  exact (mul_ceilDiv_bounds ha).1

end Vulkanite
