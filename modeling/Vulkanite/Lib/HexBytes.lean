/-
# Bytes as hexadecimal digits

`encode` writes two digits for every byte, in lower case.  `number` reads digits of
either case, and `number_encode` says that the digits of a byte stand for it.
-/
import Mathlib.Tactic

namespace HexBytes

/-- The digit of a number below 16. -/
def digit (n : ℕ) : Char := "0123456789abcdef".toList.getD n '0'

/-- The value of a digit. -/
def value (c : Char) : Option ℕ :=
  if '0' ≤ c ∧ c ≤ '9' then some (c.toNat - '0'.toNat)
  else if 'a' ≤ c ∧ c ≤ 'f' then some (c.toNat - 'a'.toNat + 10)
  else if 'A' ≤ c ∧ c ≤ 'F' then some (c.toNat - 'A'.toNat + 10)
  else none

/-- The two digits of a byte. -/
def digits (b : UInt8) : List Char := [digit (b.toNat / 16), digit (b.toNat % 16)]

/-- The digits of the bytes. -/
def encode (bytes : List UInt8) : List Char := bytes.flatMap digits

/-- The number that digits stand for. -/
def number (cs : List Char) : Option ℕ :=
  cs.foldlM (fun n c => (value c).map (16 * n + ·)) 0

theorem value_digit : ∀ n < 16, value (digit n) = some n := by decide

theorem encode_cons (b : UInt8) (bytes : List UInt8) :
    encode (b :: bytes) = digits b ++ encode bytes := List.flatMap_cons

theorem length_encode (bytes : List UInt8) : (encode bytes).length = 2 * bytes.length := by
  induction bytes with
  | nil => rfl
  | cons b bytes ih =>
    rw [encode_cons, List.length_append, ih, digits, List.length_cons, List.length_cons,
      List.length_cons, List.length_nil]
    omega

/-- Every character is one of the 16 digits. -/
theorem exists_digit {bytes : List UInt8} {c : Char} (h : c ∈ encode bytes) :
    ∃ n < 16, c = digit n := by
  obtain ⟨b, -, hc⟩ := List.mem_flatMap.mp h
  have hb := b.toNat_lt
  rcases List.mem_cons.mp hc with rfl | hlow
  · exact ⟨b.toNat / 16, by omega, rfl⟩
  · exact ⟨b.toNat % 16, by omega, List.mem_singleton.mp hlow⟩

/-- The digits of a byte stand for it. -/
theorem number_digits (b : UInt8) : number (digits b) = some b.toNat := by
  have hb := b.toNat_lt
  have hhigh := value_digit (b.toNat / 16) (by omega)
  have hlow := value_digit (b.toNat % 16) (by omega)
  simp only [number, digits, List.foldlM_cons, List.foldlM_nil, hhigh, hlow, Option.map_some,
    Option.bind_eq_bind, Option.bind_some, Option.pure_def, Option.some.injEq]
  omega

end HexBytes
