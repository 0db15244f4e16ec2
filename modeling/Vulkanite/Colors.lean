/-
# Colours in words

The device header packs the channels of a colour into the bytes of a word.  A channel `f`
becomes `int(f * 256.f)`, between 0 and 255.

A byte `b` of a word stands for the number `b / 255`.  `make_rgba_spec` says that packing
these numbers, up to rounding, gives the bytes back, and that packing any channels between 0
and 1 gives bytes that stand for them up to `1 / 256`.  No texture of the library gives such
channels for its bytes: the formats of bytes that it knows are all sRGB.

`int(..)` of a number that no `int` holds is undefined; there is no result then.
-/
import Vulkanite.FloatHits
import Vulkanite.SizeT

namespace Vulkanite

/-! ## The model -/

/-- The value of a float, if it is a number. -/
def rational (f : UInt32) : Option ℚ := Prime.binary32.rational f.toNat

/-- Rounding towards zero. -/
def truncate (q : ℚ) : ℤ := if 0 ≤ q then ⌊q⌋ else ⌈q⌉

/-- `int(f * 256.f)`.  The product is exact, see `exists_product`. -/
def intOfTimes256 (f : UInt32) : Option ℤ := do
  let q ← rational f
  let i := truncate (2 ^ 8 * q)
  if -2 ^ 31 ≤ i ∧ i < 2 ^ 31 then some i else none

/-- `make_8bit`. -/
def make_8bit (f : UInt32) : Option UInt32 :=
  (intOfTimes256 f).map fun i => uint32OfInt (min 255 (max 0 i))

/-- The sum of four channels in their places. -/
def packed (a b c d : UInt32) : UInt32 := (a <<< 0) + (b <<< 8) + (c <<< 16) + (d <<< 24)

/-- `float3`. -/
structure Float3 where
  x : UInt32
  y : UInt32
  z : UInt32
  deriving DecidableEq, Repr

/-- `float4`. -/
structure Float4 where
  x : UInt32
  y : UInt32
  z : UInt32
  w : UInt32
  deriving DecidableEq, Repr

/-- `make_rgba` of a `float3`. -/
def Float3.make_rgba (color : Float3) : Option UInt32 := do
  return packed (← make_8bit color.x) (← make_8bit color.y) (← make_8bit color.z) 0xff

/-- `make_rgba` of a `float4`. -/
def Float4.make_rgba (color : Float4) : Option UInt32 := do
  return packed (← make_8bit color.x) (← make_8bit color.y) (← make_8bit color.z)
    (← make_8bit color.w)

/-- `make_bgra` of a `float3`. -/
def Float3.make_bgra (color : Float3) : Option UInt32 := do
  return packed (← make_8bit color.z) (← make_8bit color.y) (← make_8bit color.x) 0xff

/-- `make_bgra` of a `float4`. -/
def Float4.make_bgra (color : Float4) : Option UInt32 := do
  return packed (← make_8bit color.z) (← make_8bit color.y) (← make_8bit color.x)
    (← make_8bit color.w)

/-- The bytes of a word in memory. -/
def bytesOf (word : UInt32) : List ℕ :=
  [word.toNat % 256, word.toNat / 256 % 256, word.toNat / 256 ^ 2 % 256, word.toNat / 256 ^ 3]

/-! ## One channel -/

/-- Rounding towards zero stays in the range of a number, and comes from there. -/
theorem truncate_range {p : ℚ} {n : ℤ} (hpos : 0 < n) (hlt : |p| < n) :
    -n ≤ truncate p ∧ truncate p < n := by
  obtain ⟨hlow, hhigh⟩ := abs_lt.mp hlt
  unfold truncate
  split_ifs with hp
  · exact ⟨(neg_nonpos.mpr hpos.le).trans (Int.floor_nonneg.mpr hp), Int.floor_lt.mpr hhigh⟩
  · refine ⟨?_, (Int.ceil_le.mpr ?_).trans_lt hpos⟩
    · exact_mod_cast hlow.le.trans (Int.le_ceil p)
    · exact_mod_cast (not_le.mp hp).le

theorem abs_lt_of_truncate {p : ℚ} {n : ℤ} (hlow : -n ≤ truncate p) (hhigh : truncate p < n) :
    |p| < n + 1 := by
  have hlow' : -(n : ℚ) ≤ truncate p := by exact_mod_cast hlow
  have hhigh' : (truncate p : ℚ) + 1 ≤ n := by exact_mod_cast hhigh
  unfold truncate at hlow' hhigh'
  split_ifs at hlow' hhigh' with hp
  · rw [abs_of_nonneg hp]
    linarith [Int.lt_floor_add_one p]
  · rw [abs_of_neg (not_le.mp hp)]
    linarith [Int.ceil_lt_add_one p]

theorem max_truncate (p : ℚ) : max 0 (truncate p) = ⌊p⌋₊ := by
  unfold truncate
  split_ifs with hp
  · rw [max_eq_right (Int.floor_nonneg.mpr hp), ← Int.floor_toNat,
      Int.toNat_of_nonneg (Int.floor_nonneg.mpr hp)]
  · have hceil : ⌈p⌉ ≤ 0 := Int.ceil_le.mpr (by exact_mod_cast (not_le.mp hp).le)
    rw [max_eq_left hceil, Nat.floor_of_nonpos (not_le.mp hp).le, Nat.cast_zero]

/-- The product is a float. -/
theorem exists_product {f : UInt32} {i : ℤ} (h : intOfTimes256 f = some i) :
    ∃ q g, rational f = some q ∧ rational g = some (2 ^ 8 * q) := by
  obtain ⟨q, hq, h⟩ := Option.bind_eq_some_iff.mp h
  dsimp only at h
  split_ifs at h with hrange
  have hlt := abs_lt_of_truncate hrange.1 hrange.2
  have htop : ((2 ^ 31 : ℤ) : ℚ) + 1 <
      Prime.binary32.units Prime.binary32.infinity * Prime.binary32.unit := by decide +kernel
  obtain ⟨g, hword, hg⟩ := Prime.binary32.exists_rational_two_pow_mul hq (hlt.trans htop)
  have hword : g < 2 ^ 32 := hword
  refine ⟨q, UInt32.ofNat g, hq, ?_⟩
  rw [rational, UInt32.toNat_ofNat', Nat.mod_eq_of_lt hword]
  exact hg

/-- A channel whose value is not too large. -/
theorem make_8bit_eq {f : UInt32} {q : ℚ} (hq : rational f = some q) (hlt : |2 ^ 8 * q| < 2 ^ 31) :
    make_8bit f = some (UInt32.ofNat (min 255 ⌊2 ^ 8 * q⌋₊)) := by
  have hrange := truncate_range (p := 2 ^ 8 * q) (n := 2 ^ 31) (by decide)
    (by exact_mod_cast hlt)
  have hmin : ((min 255 (⌊2 ^ 8 * q⌋₊ : ℤ)) % 2 ^ 32).toNat = min 255 ⌊2 ^ 8 * q⌋₊ := by omega
  simp only [make_8bit, intOfTimes256, hq, Option.bind_eq_bind, Option.bind_some, if_pos hrange,
    Option.map_some, max_truncate, uint32OfInt, hmin]

/-- A channel that stands for a byte becomes that byte. -/
theorem make_8bit_of_near {f : UInt32} {q : ℚ} {b : ℕ} (hq : rational f = some q) (hb : b < 256)
    (hnear : |q - b / 255| ≤ 1 / 2 ^ 16) : make_8bit f = some (UInt32.ofNat b) := by
  obtain ⟨hlow, hhigh⟩ := abs_le.mp hnear
  have hb' : (b : ℚ) ≤ 255 := by exact_mod_cast Nat.le_of_lt_succ hb
  have hlt : |2 ^ 8 * q| < 2 ^ 31 := by
    have hpos : (0 : ℚ) ≤ b := Nat.cast_nonneg b
    rw [abs_lt]
    constructor <;> linarith
  rw [make_8bit_eq hq hlt]
  refine congrArg (fun n => some (UInt32.ofNat n)) ?_
  rcases Nat.eq_or_lt_of_le (Nat.le_of_lt_succ hb) with rfl | hb
  · refine min_eq_left (Nat.le_floor ?_)
    push_cast at hlow ⊢
    linarith
  · have hb' : (b : ℚ) ≤ 254 := by exact_mod_cast Nat.le_of_lt_succ hb
    have hfloor : ⌊2 ^ 8 * q⌋₊ = b := by
      rcases Nat.eq_zero_or_pos b with rfl | hpos
      · rw [Nat.floor_eq_zero]
        push_cast at hhigh
        linarith
      · have hpos' : (1 : ℚ) ≤ b := by exact_mod_cast hpos
        rw [Nat.floor_eq_iff' hpos.ne']
        constructor <;> linarith
    rw [hfloor]
    exact min_eq_right hb.le

/-- The byte of a channel between 0 and 1 stands for it. -/
theorem make_8bit_near {f : UInt32} {q : ℚ} (hq : rational f = some q) (hpos : 0 ≤ q)
    (hle : q ≤ 1) : ∃ b < 256, make_8bit f = some (UInt32.ofNat b) ∧ |q - b / 255| ≤ 1 / 2 ^ 8 := by
  have hlt : |2 ^ 8 * q| < 2 ^ 31 := by
    rw [abs_lt]
    constructor <;> linarith
  refine ⟨min 255 ⌊2 ^ 8 * q⌋₊, by omega, make_8bit_eq hq hlt, ?_⟩
  have hfloor : (⌊2 ^ 8 * q⌋₊ : ℚ) ≤ 2 ^ 8 * q := Nat.floor_le (by linarith)
  have hceil := Nat.lt_floor_add_one (2 ^ 8 * q)
  generalize ⌊2 ^ 8 * q⌋₊ = n at hfloor hceil ⊢
  have hn : (0 : ℚ) ≤ n := Nat.cast_nonneg n
  rcases Nat.lt_or_ge n 256 with hlt | hge
  · have hlt' : (n : ℚ) ≤ 255 := by exact_mod_cast Nat.le_of_lt_succ hlt
    rw [min_eq_right (Nat.le_of_lt_succ hlt), abs_le]
    constructor <;> linarith
  · -- only the channel 1 is cut off
    have hge' : (256 : ℚ) ≤ n := by exact_mod_cast hge
    rw [min_eq_left (by omega), abs_le]
    push_cast
    constructor <;> linarith

/-! ## Words -/

/-- The channels do not carry into each other. -/
theorem toNat_packed {a b c d : ℕ} (ha : a < 256) (hb : b < 256) (hc : c < 256) (hd : d < 256) :
    (packed (UInt32.ofNat a) (UInt32.ofNat b) (UInt32.ofNat c) (UInt32.ofNat d)).toNat =
      a + 256 * b + 256 ^ 2 * c + 256 ^ 3 * d := by
  have h8 : 2 ^ ((8 : UInt32).toNat % 32) = 256 := by decide
  have h16 : 2 ^ ((16 : UInt32).toNat % 32) = 256 ^ 2 := by decide
  have h24 : 2 ^ ((24 : UInt32).toNat % 32) = 256 ^ 3 := by decide
  simp only [packed, UInt32.toNat_add, UInt32.toNat_shiftLeft, UInt32.toNat_ofNat',
    Nat.shiftLeft_eq, h8, h16, h24, UInt32.toNat_zero, Nat.zero_mod, Nat.pow_zero]
  omega

theorem bytesOf_packed {a b c d : ℕ} (ha : a < 256) (hb : b < 256) (hc : c < 256) (hd : d < 256) :
    bytesOf (packed (UInt32.ofNat a) (UInt32.ofNat b) (UInt32.ofNat c) (UInt32.ofNat d)) =
      [a, b, c, d] := by
  rw [bytesOf, toNat_packed ha hb hc hd]
  simp only [List.cons.injEq, and_true]
  omega

/-- A word is made of its bytes. -/
theorem eq_packed (word : UInt32) : ∃ a < 256, ∃ b < 256, ∃ c < 256, ∃ d < 256,
    word = packed (UInt32.ofNat a) (UInt32.ofNat b) (UInt32.ofNat c) (UInt32.ofNat d) := by
  have hword := word.toNat_lt
  refine ⟨word.toNat % 256, by omega, word.toNat / 256 % 256, by omega,
    word.toNat / 256 ^ 2 % 256, by omega, word.toNat / 256 ^ 3, by omega, ?_⟩
  rw [← UInt32.toNat_inj, toNat_packed (by omega) (by omega) (by omega) (by omega)]
  omega

/-- The channel stands for the byte, up to `ε`. -/
def NearByte (ε : ℚ) (f : UInt32) (b : ℕ) : Prop := ∃ q, rational f = some q ∧ |q - b / 255| ≤ ε

/-- The channels. -/
def Float4.channels (color : Float4) : List UInt32 := [color.x, color.y, color.z, color.w]

/-- **Packing.**  Channels near the numbers that the bytes of a word stand for are packed into
this word; and channels between 0 and 1 are packed into bytes that stand for them. -/
theorem make_rgba_spec (color : Float4) :
    (∀ word, List.Forall₂ (NearByte (1 / 2 ^ 16)) color.channels (bytesOf word) →
      color.make_rgba = some word) ∧
    ((∀ f ∈ color.channels, ∃ q, rational f = some q ∧ 0 ≤ q ∧ q ≤ 1) →
      ∃ word, color.make_rgba = some word ∧
        List.Forall₂ (NearByte (1 / 2 ^ 8)) color.channels (bytesOf word)) := by
  constructor
  · intro word hnear
    obtain ⟨a, ha, b, hb, c, hc, d, hd, rfl⟩ := eq_packed word
    rw [bytesOf_packed ha hb hc hd] at hnear
    simp only [Float4.channels, List.forall₂_cons, List.Forall₂.nil, and_true] at hnear
    obtain ⟨⟨_, hx, hnearx⟩, ⟨_, hy, hneary⟩, ⟨_, hz, hnearz⟩, ⟨_, hw, hnearw⟩⟩ := hnear
    simp only [Float4.make_rgba, make_8bit_of_near hx ha hnearx, make_8bit_of_near hy hb hneary,
      make_8bit_of_near hz hc hnearz, make_8bit_of_near hw hd hnearw, Option.bind_eq_bind,
      Option.bind_some, Option.pure_def]
  · intro hunit
    have hchannel : ∀ f ∈ color.channels,
        ∃ b < 256, make_8bit f = some (UInt32.ofNat b) ∧ NearByte (1 / 2 ^ 8) f b := by
      intro f hf
      obtain ⟨q, hq, hpos, hle⟩ := hunit f hf
      obtain ⟨b, hb, hmake, hnear⟩ := make_8bit_near hq hpos hle
      exact ⟨b, hb, hmake, q, hq, hnear⟩
    obtain ⟨a, ha, hx, hnearx⟩ := hchannel color.x (by simp [Float4.channels])
    obtain ⟨b, hb, hy, hneary⟩ := hchannel color.y (by simp [Float4.channels])
    obtain ⟨c, hc, hz, hnearz⟩ := hchannel color.z (by simp [Float4.channels])
    obtain ⟨d, hd, hw, hnearw⟩ := hchannel color.w (by simp [Float4.channels])
    refine ⟨packed (UInt32.ofNat a) (UInt32.ofNat b) (UInt32.ofNat c) (UInt32.ofNat d), ?_, ?_⟩
    · simp only [Float4.make_rgba, hx, hy, hz, hw, Option.bind_eq_bind, Option.bind_some,
        Option.pure_def]
    · rw [bytesOf_packed ha hb hc hd]
      exact .cons hnearx (.cons hneary (.cons hnearz (.cons hnearw .nil)))

/-- Of 1, 128 / 255, 0 and 1 the bytes are 255, 128, 0 and 255. -/
theorem make_rgba_spec_sample :
    (⟨0x3f800000, 0x3f008081, 0, 0x3f800000⟩ : Float4).make_rgba = some 0xff0080ff :=
  (make_rgba_spec _).1 _ (.cons ⟨1, by decide +kernel, by decide +kernel⟩
    (.cons ⟨8421505 / 2 ^ 24, by decide +kernel, by decide +kernel⟩
    (.cons ⟨0, by decide +kernel, by decide +kernel⟩
    (.cons ⟨1, by decide +kernel, by decide +kernel⟩ .nil))))

end Vulkanite
