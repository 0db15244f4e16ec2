/-
# Binary floats in their order

A word of a binary interchange format has a sign bit, an exponent and a fraction.  What
matters here is the order of the values.

Words are sorted by their magnitudes, and in the opposite way if the sign bit is set.
`place` is the position of a word in this order, in which the two zeros have one place;
values are ordered as places are (`value_lt_iff`), and `nextafter` moves by one place
(`at_nextafter`).  The words that are numbers are closed under products with powers of two,
below infinity (`exists_rational_two_pow_mul`).
-/
import Mathlib.Order.WithBot
import Mathlib.Tactic

namespace BinaryFloats

/-- The widths of the exponent and of the fraction. -/
structure Format where
  exponentBits : ℕ
  fractionBits : ℕ
  exponentBits_pos : 0 < exponentBits

namespace Format

variable (f : Format)

/-- The word with only the sign bit, which is a zero. -/
def signBit : ℕ := 2 ^ (f.exponentBits + f.fractionBits)

/-- The word of infinity: the exponent has all bits, the fraction none. -/
def infinity : ℕ := (2 ^ f.exponentBits - 1) * 2 ^ f.fractionBits

/-- The words of the format. -/
def IsWord (x : ℕ) : Prop := x < 2 * f.signBit

def Negative (x : ℕ) : Prop := f.signBit ≤ x

/-- The word without its sign bit. -/
def magnitude (x : ℕ) : ℕ := x % f.signBit

def IsNaN (x : ℕ) : Prop := f.infinity < f.magnitude x

instance (x : ℕ) : Decidable (f.IsWord x) := inferInstanceAs (Decidable (_ < _))
instance (x : ℕ) : Decidable (f.Negative x) := inferInstanceAs (Decidable (_ ≤ _))
instance (x : ℕ) : Decidable (f.IsNaN x) := inferInstanceAs (Decidable (_ < _))

/-- The value of a finite magnitude, in units of the least positive one.  An exponent of zero
stands for the same scale as one, without the leading bit. -/
def units (m : ℕ) : ℕ :=
  if m / 2 ^ f.fractionBits = 0 then m % 2 ^ f.fractionBits
  else (2 ^ f.fractionBits + m % 2 ^ f.fractionBits) * 2 ^ (m / 2 ^ f.fractionBits - 1)

/-- The least positive value. -/
def unit : ℚ := 2 ^ (2 - 2 ^ (f.exponentBits - 1) - (f.fractionBits : ℤ))

/-- The value of a word that is not a NaN. -/
def value (x : ℕ) : WithBot (WithTop ℚ) :=
  if f.magnitude x = f.infinity then if f.Negative x then ⊥ else ((⊤ : WithTop ℚ) : WithBot _)
  else
    let v := f.units (f.magnitude x) * f.unit
    ((if f.Negative x then -v else v : ℚ) : WithTop ℚ)

/-- The position of a word in the order of the values. -/
def place (x : ℕ) : ℤ := if f.Negative x then -(f.magnitude x : ℤ) else f.magnitude x

/-- `nextafter`: the next value after `x` in the direction of `y`. -/
def nextafter (x y : ℕ) : ℕ :=
  if f.IsNaN x then x
  else if f.IsNaN y then y
  else if f.value x = f.value y then y
  else if f.magnitude x = 0 then if f.value x < f.value y then 1 else f.signBit + 1
  else if f.value x < f.value y ↔ ¬ f.Negative x then x + 1  -- away from zero
  else x - 1

/-! ## The order -/

theorem infinity_pos : 0 < f.infinity :=
  Nat.mul_pos (Nat.sub_pos_of_lt (Nat.one_lt_two_pow f.exponentBits_pos.ne')) (Nat.two_pow_pos _)

/-- The sign bit is above all magnitudes. -/
theorem infinity_lt_signBit : f.infinity < f.signBit := by
  unfold infinity signBit
  rw [pow_add, Nat.sub_mul, Nat.one_mul]
  exact Nat.sub_lt (Nat.mul_pos (Nat.two_pow_pos _) (Nat.two_pow_pos _)) (Nat.two_pow_pos _)

/-- The value of an exponent and a fraction. -/
theorem units_eq {e m : ℕ} (hm : m < 2 ^ f.fractionBits) :
    f.units (e * 2 ^ f.fractionBits + m) =
      if e = 0 then m else (2 ^ f.fractionBits + m) * 2 ^ (e - 1) := by
  have hpos : 0 < 2 ^ f.fractionBits := Nat.two_pow_pos _
  have hdiv : (e * 2 ^ f.fractionBits + m) / 2 ^ f.fractionBits = e := by
    rw [Nat.mul_comm, Nat.mul_add_div hpos, Nat.div_eq_of_lt hm, Nat.add_zero]
  have hmod : (e * 2 ^ f.fractionBits + m) % 2 ^ f.fractionBits = m := by
    rw [Nat.mul_comm, Nat.mul_add_mod, Nat.mod_eq_of_lt hm]
  rw [units, hdiv, hmod]

/-- One more is more, also where the exponent changes. -/
theorem units_lt_succ (m : ℕ) : f.units m < f.units (m + 1) := by
  obtain ⟨e, r, hr, rfl⟩ : ∃ e r, r < 2 ^ f.fractionBits ∧ m = e * 2 ^ f.fractionBits + r :=
    ⟨m / 2 ^ f.fractionBits, m % 2 ^ f.fractionBits, Nat.mod_lt _ (Nat.two_pow_pos _),
      (Nat.div_add_mod' m _).symm⟩
  rw [f.units_eq hr]
  rcases Nat.lt_or_ge (r + 1) (2 ^ f.fractionBits) with hlt | hge
  · rw [Nat.add_assoc, f.units_eq hlt]
    split_ifs
    · exact Nat.lt_succ_self r
    · exact Nat.mul_lt_mul_of_pos_right (by omega) (Nat.two_pow_pos _)
  · have hnext : e * 2 ^ f.fractionBits + r + 1 = (e + 1) * 2 ^ f.fractionBits + 0 := by
      rw [Nat.succ_mul]
      omega
    rw [hnext, f.units_eq (Nat.two_pow_pos _), if_neg (Nat.succ_ne_zero e), Nat.add_sub_cancel,
      Nat.add_zero]
    split_ifs with he
    · rw [he, Nat.pow_zero, Nat.mul_one]
      exact hr
    · calc (2 ^ f.fractionBits + r) * 2 ^ (e - 1)
          < (2 ^ f.fractionBits * 2) * 2 ^ (e - 1) :=
            Nat.mul_lt_mul_of_pos_right (by omega) (Nat.two_pow_pos _)
        _ = 2 ^ f.fractionBits * 2 ^ e := by
            rw [Nat.mul_assoc, ← Nat.pow_succ', Nat.succ_eq_add_one, Nat.sub_add_cancel
              (Nat.one_le_iff_ne_zero.mpr he)]

/-- Finite magnitudes count more units, the larger they are. -/
theorem units_strictMono : StrictMono f.units := strictMono_nat_of_lt_succ f.units_lt_succ

theorem units_zero : f.units 0 = 0 := by
  rw [units, Nat.zero_div, Nat.zero_mod, if_pos rfl]

theorem unit_pos : 0 < f.unit := zpow_pos (by norm_num) _

/-! ## Places -/

/-- The finite value at a place, counted in the least positive one. -/
def unitsAt (z : ℤ) : ℤ := z.sign * f.units z.natAbs

theorem unitsAt_natCast (n : ℕ) : f.unitsAt n = f.units n := by
  cases n with
  | zero => simp [unitsAt, f.units_zero]
  | succ n =>
    rw [unitsAt, Int.sign_natCast_of_ne_zero n.succ_ne_zero, Int.one_mul, Int.natAbs_natCast]

/-- The places are symmetric to zero. -/
theorem unitsAt_neg (z : ℤ) : f.unitsAt (-z) = -f.unitsAt z := by
  rw [unitsAt, Int.sign_neg, Int.natAbs_neg, Int.neg_mul, unitsAt]

/-- The places count more units, the higher they are. -/
theorem unitsAt_strictMono : StrictMono f.unitsAt := by
  intro z z' hlt
  rcases le_or_gt 0 z with hz | hz
  · obtain ⟨n, rfl⟩ := Int.eq_ofNat_of_zero_le hz
    obtain ⟨n', rfl⟩ := Int.eq_ofNat_of_zero_le (hz.trans hlt.le)
    rw [unitsAt_natCast, unitsAt_natCast]
    exact Int.ofNat_lt.mpr (f.units_strictMono (Int.ofNat_lt.mp hlt))
  · obtain ⟨n, hn⟩ := Int.eq_ofNat_of_zero_le (show 0 ≤ -z by omega)
    obtain rfl : z = -n := by omega
    rw [unitsAt_neg, unitsAt_natCast]
    have hpos := f.units_strictMono (show 0 < n by omega)
    rw [f.units_zero] at hpos
    rcases le_or_gt 0 z' with hz' | hz'
    · obtain ⟨n', rfl⟩ := Int.eq_ofNat_of_zero_le hz'
      rw [unitsAt_natCast]
      omega
    · obtain ⟨n', hn'⟩ := Int.eq_ofNat_of_zero_le (show 0 ≤ -z' by omega)
      obtain rfl : z' = -n' := by omega
      rw [unitsAt_neg, unitsAt_natCast]
      have hunits := f.units_strictMono (show n' < n by omega)
      omega

/-- The value at a place. -/
def valueAt (z : ℤ) : WithBot (WithTop ℚ) :=
  if z ≤ -(f.infinity : ℤ) then ⊥
  else if (f.infinity : ℤ) ≤ z then ((⊤ : WithTop ℚ) : WithBot _)
  else ((f.unitsAt z * f.unit : ℚ) : WithTop ℚ)

/-- The places that values have. -/
def IsPlace (z : ℤ) : Prop := z.natAbs ≤ f.infinity

/-- Values are ordered as their places. -/
theorem valueAt_strictMonoOn : StrictMonoOn f.valueAt {z | f.IsPlace z} := by
  intro z hz z' hz' hlt
  have hz : z.natAbs ≤ f.infinity := hz
  have hz' : z'.natAbs ≤ f.infinity := hz'
  have hpos := f.infinity_pos
  unfold valueAt
  rw [if_neg (show ¬ z' ≤ -(f.infinity : ℤ) by omega),
    if_neg (show ¬ (f.infinity : ℤ) ≤ z by omega)]
  split_ifs with hbot htop htop
  · exact WithBot.bot_lt_coe _
  · exact WithBot.bot_lt_coe _
  · exact WithBot.coe_lt_coe.mpr (WithTop.coe_lt_top _)
  · rw [WithBot.coe_lt_coe, WithTop.coe_lt_coe]
    exact mul_lt_mul_of_pos_right (Int.cast_lt.mpr (f.unitsAt_strictMono hlt)) f.unit_pos

/-- The place of a word that is not a NaN. -/
theorem isPlace_place {x : ℕ} (hx : ¬ f.IsNaN x) : f.IsPlace (f.place x) := by
  have hle : f.magnitude x ≤ f.infinity := not_lt.mp hx
  unfold IsPlace place
  split_ifs
  · rwa [Int.natAbs_neg, Int.natAbs_natCast]
  · rwa [Int.natAbs_natCast]

/-- The value of a word is that at its place. -/
theorem value_eq {x : ℕ} (hx : ¬ f.IsNaN x) : f.value x = f.valueAt (f.place x) := by
  have hle : f.magnitude x ≤ f.infinity := not_lt.mp hx
  have hpos := f.infinity_pos
  unfold value place valueAt
  by_cases hneg : f.Negative x
  · simp only [if_pos hneg]
    by_cases hinf : f.magnitude x = f.infinity
    · rw [if_pos hinf, if_pos (by omega)]
    · rw [if_neg hinf, if_neg (by omega), if_neg (by omega), unitsAt_neg, unitsAt_natCast,
        Int.cast_neg, Int.cast_natCast, neg_mul]
  · simp only [if_neg hneg]
    by_cases hinf : f.magnitude x = f.infinity
    · rw [if_pos hinf, if_neg (by omega), if_pos (by omega)]
    · rw [if_neg hinf, if_neg (by omega), if_neg (by omega), unitsAt_natCast, Int.cast_natCast]

/-- **Words are ordered as their places.** -/
theorem value_lt_iff {x y : ℕ} (hx : ¬ f.IsNaN x) (hy : ¬ f.IsNaN y) :
    f.value x < f.value y ↔ f.place x < f.place y := by
  rw [f.value_eq hx, f.value_eq hy]
  exact f.valueAt_strictMonoOn.lt_iff_lt (f.isPlace_place hx) (f.isPlace_place hy)

/-- Two words have the same value if they have the same place. -/
theorem value_eq_iff {x y : ℕ} (hx : ¬ f.IsNaN x) (hy : ¬ f.IsNaN y) :
    f.value x = f.value y ↔ f.place x = f.place y := by
  rw [f.value_eq hx, f.value_eq hy]
  exact f.valueAt_strictMonoOn.injOn.eq_iff (f.isPlace_place hx) (f.isPlace_place hy)

/-- Values are ordered as places are. -/
theorem value_le_iff {x y : ℕ} (hx : ¬ f.IsNaN x) (hy : ¬ f.IsNaN y) :
    f.value x ≤ f.value y ↔ f.place x ≤ f.place y := by
  rw [← not_lt, f.value_lt_iff hy hx, not_lt]

/-! ## The next word -/

/-- A word without and one with the sign bit. -/
theorem word_cases {x : ℕ} (hx : f.IsWord x) :
    x < f.signBit ∨ ∃ m < f.signBit, x = f.signBit + m := by
  have hx : x < 2 * f.signBit := hx
  rcases Nat.lt_or_ge x f.signBit with hlt | hge
  · exact Or.inl hlt
  · exact Or.inr ⟨x - f.signBit, by omega, by omega⟩

/-- The words without the sign bit. -/
theorem positive_word {m : ℕ} (hm : m < f.signBit) :
    f.IsWord m ∧ ¬ f.Negative m ∧ f.magnitude m = m ∧ f.place m = m := by
  have hneg : ¬ f.Negative m := not_le.mpr hm
  have hmag : f.magnitude m = m := Nat.mod_eq_of_lt hm
  refine ⟨?_, hneg, hmag, by rw [place, if_neg hneg, hmag]⟩
  show m < 2 * f.signBit
  omega

/-- The words with the sign bit. -/
theorem negative_word {m : ℕ} (hm : m < f.signBit) :
    f.IsWord (f.signBit + m) ∧ f.Negative (f.signBit + m) ∧ f.magnitude (f.signBit + m) = m ∧
      f.place (f.signBit + m) = -m := by
  have hneg : f.Negative (f.signBit + m) := Nat.le_add_right _ _
  have hmag : f.magnitude (f.signBit + m) = m := by
    rw [magnitude, Nat.add_mod_left, Nat.mod_eq_of_lt hm]
  refine ⟨?_, hneg, hmag, by rw [place, if_pos hneg, hmag]⟩
  show f.signBit + m < 2 * f.signBit
  omega

/-- The word has that place. -/
structure At (x : ℕ) (z : ℤ) : Prop where
  word : f.IsWord x
  notNaN : ¬ f.IsNaN x
  place : f.place x = z

theorem at_natCast {m : ℕ} (hm : m ≤ f.infinity) : f.At m m := by
  obtain ⟨hword, -, hmag, hplace⟩ := f.positive_word (hm.trans_lt f.infinity_lt_signBit)
  exact ⟨hword, by rw [IsNaN, hmag]; exact hm.not_gt, hplace⟩

theorem at_neg {m : ℕ} (hm : m ≤ f.infinity) : f.At (f.signBit + m) (-m) := by
  obtain ⟨hword, -, hmag, hplace⟩ := f.negative_word (hm.trans_lt f.infinity_lt_signBit)
  exact ⟨hword, by rw [IsNaN, hmag]; exact hm.not_gt, hplace⟩

/-- Every place has a word. -/
theorem exists_at {z : ℤ} (hz : f.IsPlace z) : ∃ x, f.At x z := by
  have hz : z.natAbs ≤ f.infinity := hz
  rcases le_or_gt 0 z with hpos | hneg
  · exact ⟨z.natAbs, by simpa [Int.natAbs_of_nonneg hpos] using f.at_natCast hz⟩
  · refine ⟨f.signBit + z.natAbs, ?_⟩
    have hat := f.at_neg hz
    rwa [show -(z.natAbs : ℤ) = z by omega] at hat

/-- **`nextafter` moves by one place**, in the direction of its second argument. -/
theorem at_nextafter {x y : ℕ} (hx : f.IsWord x) (hy : f.IsWord y) (hxn : ¬ f.IsNaN x)
    (hyn : ¬ f.IsNaN y) :
    f.At (f.nextafter x y) (if f.place x < f.place y then f.place x + 1
      else if f.place y < f.place x then f.place x - 1 else f.place y) := by
  have hypl : (f.place y).natAbs ≤ f.infinity := f.isPlace_place hyn
  have hpos := f.infinity_pos
  unfold nextafter
  rw [if_neg hxn, if_neg hyn]
  simp only [f.value_eq_iff hxn hyn, f.value_lt_iff hxn hyn]
  by_cases heq : f.place x = f.place y
  · rw [if_pos heq, if_neg heq.not_lt, if_neg heq.not_gt]
    exact ⟨hy, hyn, rfl⟩
  rw [if_neg heq]
  rcases f.word_cases hx with hm | ⟨m, hm, rfl⟩
  · obtain ⟨-, hneg, hmag, hplace⟩ := f.positive_word hm
    have hle : x ≤ f.infinity := by
      rw [IsNaN, hmag] at hxn
      exact not_lt.mp hxn
    simp only [hplace, hmag, hneg, not_false_eq_true, iff_true] at heq ⊢
    by_cases hlt : (x : ℤ) < f.place y
    · have hat := f.at_natCast (m := x + 1) (by omega)
      rw [if_pos hlt, if_pos hlt, if_pos hlt]
      split_ifs with hzero
      · subst hzero
        exact hat
      · exact hat
    · have hgt : f.place y < x := by omega
      rw [if_neg hlt, if_neg hlt, if_neg hlt, if_pos hgt]
      split_ifs with hzero
      · subst hzero
        exact f.at_neg (m := 1) (by omega)
      · have hat := f.at_natCast (m := x - 1) (by omega)
        rwa [Nat.cast_pred (Nat.pos_of_ne_zero hzero)] at hat
  · obtain ⟨-, hneg, hmag, hplace⟩ := f.negative_word hm
    have hle : m ≤ f.infinity := by
      rw [IsNaN, hmag] at hxn
      exact not_lt.mp hxn
    simp only [hplace, hmag, hneg, not_true_eq_false, iff_false] at heq ⊢
    by_cases hlt : -(m : ℤ) < f.place y
    · rw [if_pos hlt, if_pos hlt, if_neg (not_not.mpr hlt)]
      split_ifs with hzero
      · subst hzero
        exact f.at_natCast (m := 1) (by omega)
      · have hat := f.at_neg (m := m - 1) (by omega)
        rw [Nat.cast_pred (Nat.pos_of_ne_zero hzero)] at hat
        rw [Nat.add_sub_assoc (Nat.pos_of_ne_zero hzero)]
        rwa [show -(m : ℤ) + 1 = -((m : ℤ) - 1) by ring]
    · have hgt : f.place y < -(m : ℤ) := by omega
      have hat := f.at_neg (m := m + 1) (by omega)
      rw [if_neg hlt, if_neg hlt, if_pos hlt, if_pos hgt]
      rw [show -(m : ℤ) - 1 = -((m + 1 : ℕ) : ℤ) by push_cast; ring]
      split_ifs with hzero
      · subst hzero
        exact hat
      · exact hat

/-! ## Numbers -/

/-- The value of a word as a number, if it is one. -/
def rational (x : ℕ) : Option ℚ :=
  if f.magnitude x < f.infinity then some (f.unitsAt (f.place x) * f.unit) else none

/-- Doubling a fraction or the exponent doubles the value. -/
theorem exists_units_two_mul (m : ℕ) : ∃ m', f.units m' = 2 * f.units m := by
  obtain ⟨e, r, hr, rfl⟩ : ∃ e r, r < 2 ^ f.fractionBits ∧ m = e * 2 ^ f.fractionBits + r :=
    ⟨m / 2 ^ f.fractionBits, m % 2 ^ f.fractionBits, Nat.mod_lt _ (Nat.two_pow_pos _),
      (Nat.div_add_mod' m _).symm⟩
  rw [f.units_eq hr]
  by_cases he : e = 0
  · rw [if_pos he]
    rcases Nat.lt_or_ge (2 * r) (2 ^ f.fractionBits) with hlt | hge
    · refine ⟨0 * 2 ^ f.fractionBits + 2 * r, ?_⟩
      rw [f.units_eq hlt, if_pos rfl]
    · refine ⟨1 * 2 ^ f.fractionBits + (2 * r - 2 ^ f.fractionBits), ?_⟩
      rw [f.units_eq (by omega), if_neg Nat.one_ne_zero, Nat.sub_self, Nat.pow_zero]
      omega
  · refine ⟨(e + 1) * 2 ^ f.fractionBits + r, ?_⟩
    rw [f.units_eq hr, if_neg (Nat.succ_ne_zero e), if_neg he, Nat.add_sub_cancel]
    calc (2 ^ f.fractionBits + r) * 2 ^ e
        = (2 ^ f.fractionBits + r) * (2 ^ (e - 1) * 2) := by
          rw [← Nat.pow_succ, Nat.succ_eq_add_one, Nat.sub_add_cancel
            (Nat.one_le_iff_ne_zero.mpr he)]
      _ = 2 * ((2 ^ f.fractionBits + r) * 2 ^ (e - 1)) := by ring

/-- Powers of two times a finite magnitude. -/
theorem exists_units_two_pow_mul (m k : ℕ) : ∃ m', f.units m' = 2 ^ k * f.units m := by
  induction k with
  | zero => exact ⟨m, by rw [Nat.pow_zero, Nat.one_mul]⟩
  | succ k ih =>
    obtain ⟨m', hm'⟩ := ih
    obtain ⟨m'', hm''⟩ := f.exists_units_two_mul m'
    exact ⟨m'', by rw [hm'', hm', Nat.pow_succ]; ring⟩

/-- The magnitude is the distance of the place from zero. -/
theorem natAbs_place (x : ℕ) : (f.place x).natAbs = f.magnitude x := by
  unfold place
  split_ifs
  · rw [Int.natAbs_neg, Int.natAbs_natCast]
  · rw [Int.natAbs_natCast]

/-- Powers of two times a finite value. -/
theorem exists_unitsAt_two_pow_mul (z : ℤ) (k : ℕ) :
    ∃ z', f.unitsAt z' = 2 ^ k * f.unitsAt z := by
  obtain ⟨m, hm⟩ := f.exists_units_two_pow_mul z.natAbs k
  rcases le_or_gt 0 z with hz | hz
  · obtain ⟨n, rfl⟩ := Int.eq_ofNat_of_zero_le hz
    refine ⟨m, ?_⟩
    rw [unitsAt_natCast, unitsAt_natCast, hm]
    norm_cast
  · obtain ⟨n, rfl⟩ : ∃ n : ℕ, z = -n := ⟨z.natAbs, by omega⟩
    refine ⟨-m, ?_⟩
    rw [unitsAt_neg, unitsAt_neg, unitsAt_natCast, unitsAt_natCast, hm, Int.natAbs_neg,
      Int.natAbs_natCast]
    push_cast
    ring

/-- **Products with powers of two are exact**, below infinity. -/
theorem exists_rational_two_pow_mul {x k : ℕ} {q : ℚ} (h : f.rational x = some q)
    (hlt : |2 ^ k * q| < f.units f.infinity * f.unit) :
    ∃ y, f.IsWord y ∧ f.rational y = some (2 ^ k * q) := by
  unfold rational at h
  split_ifs at h
  obtain rfl := Option.some.inj h
  obtain ⟨z, hz⟩ := f.exists_unitsAt_two_pow_mul (f.place x) k
  have hprod : (2 : ℚ) ^ k * (f.unitsAt (f.place x) * f.unit) = f.unitsAt z * f.unit := by
    rw [hz]
    push_cast
    ring
  rw [hprod, abs_mul, abs_of_pos f.unit_pos] at hlt
  have hunits : |f.unitsAt z| < f.units f.infinity := by
    exact_mod_cast lt_of_mul_lt_mul_right hlt f.unit_pos.le
  rw [← f.unitsAt_natCast, abs_lt, ← f.unitsAt_neg, f.unitsAt_strictMono.lt_iff_lt,
    f.unitsAt_strictMono.lt_iff_lt] at hunits
  obtain ⟨y, hword, -, hplace⟩ := f.exists_at (show z.natAbs ≤ f.infinity by omega)
  have hmag := f.natAbs_place y
  rw [hplace] at hmag
  exact ⟨y, hword, by rw [rational, if_pos (by omega), hplace, hprod]⟩

end Format

end BinaryFloats
