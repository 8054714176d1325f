import Mathlib.Data.List.Basic
import Mathlib.Data.Nat.Bitwise
import Mathlib.Tactic.Ring
import Mathlib.Tactic.SplitIfs

/-! Leading zeros of 32-bit and 64-bit words, by a table over bytes. -/

set_option autoImplicit false

namespace ThetaSketch

def byteLeadingZerosTable : List ℕ :=
  [8, 7, 6, 6] ++ List.replicate 4 5 ++ List.replicate 8 4 ++ List.replicate 16 3 ++
    List.replicate 32 2 ++ List.replicate 64 1 ++ List.replicate 128 0

def byteLeadingZeros (byte : ℕ) : ℕ := byteLeadingZerosTable.getD (byte &&& 0xff) 0

def countLeadingZerosInU64 (input : ℕ) : ℕ :=
  if 0x00ffffffffffffff < input then byteLeadingZeros (input >>> 56)
  else if 0x0000ffffffffffff < input then 8 + byteLeadingZeros (input >>> 48)
  else if 0x000000ffffffffff < input then 16 + byteLeadingZeros (input >>> 40)
  else if 0x00000000ffffffff < input then 24 + byteLeadingZeros (input >>> 32)
  else if 0x0000000000ffffff < input then 32 + byteLeadingZeros (input >>> 24)
  else if 0x000000000000ffff < input then 40 + byteLeadingZeros (input >>> 16)
  else if 0x00000000000000ff < input then 48 + byteLeadingZeros (input >>> 8)
  else 56 + byteLeadingZeros input

def countLeadingZerosInU32 (input : ℕ) : ℕ :=
  if 0x00ffffff < input then byteLeadingZeros (input >>> 24)
  else if 0x0000ffff < input then 8 + byteLeadingZeros (input >>> 16)
  else if 0x000000ff < input then 16 + byteLeadingZeros (input >>> 8)
  else 24 + byteLeadingZeros input

theorem byteLeadingZeros_spec {byte : ℕ} (small : byte < 256) :
    byteLeadingZeros byte ≤ 8 ∧ byte < 2 ^ (8 - byteLeadingZeros byte) ∧
      (0 < byte → byteLeadingZeros byte < 8 ∧ 2 ^ (7 - byteLeadingZeros byte) ≤ byte) := by
  have table : ∀ byte < 256, byteLeadingZeros byte ≤ 8 ∧ byte < 2 ^ (8 - byteLeadingZeros byte) ∧
      (0 < byte → byteLeadingZeros byte < 8 ∧ 2 ^ (7 - byteLeadingZeros byte) ≤ byte) := by
    decide +kernel
  exact table byte small

/-- `zeros` is the number of leading zeros of a word of `size` bits. -/
structure LeadingZeros (size input zeros : ℕ) : Prop where
  le : zeros ≤ size
  fits : input < 2 ^ (size - zeros)
  tight : 0 < input → zeros < size ∧ 2 ^ (size - 1 - zeros) ≤ input

/-- The zeros above a byte and those that it starts with are all, unless the byte is zero. -/
theorem leadingZeros_shifted {input : ℕ} (size above shift : ℕ) (small : input < 2 ^ (8 + shift))
    (total : size = above + 8 + shift) (full : 0 < input → 2 ^ shift ≤ input) :
    LeadingZeros size input (above + byteLeadingZeros (input >>> shift)) := by
  have byte : input >>> shift < 256 := by
    rw [Nat.shiftRight_eq_div_pow, Nat.div_lt_iff_lt_mul (Nat.two_pow_pos _)]
    rwa [pow_add] at small
  obtain ⟨most, low, tight⟩ := byteLeadingZeros_spec byte
  refine ⟨by omega, ?_, fun positive => ?_⟩
  · have rest : size - (above + byteLeadingZeros (input >>> shift)) =
        8 - byteLeadingZeros (input >>> shift) + shift := by omega
    rwa [rest, pow_add, ← Nat.div_lt_iff_lt_mul (Nat.two_pow_pos _), ← Nat.shiftRight_eq_div_pow]
  · have some : 0 < input >>> shift := by
      rw [Nat.shiftRight_eq_div_pow]
      exact Nat.div_pos (full positive) (Nat.two_pow_pos _)
    obtain ⟨fewer, high⟩ := tight some
    refine ⟨by omega, ?_⟩
    have rest : size - 1 - (above + byteLeadingZeros (input >>> shift)) =
        7 - byteLeadingZeros (input >>> shift) + shift := by omega
    rwa [rest, pow_add, ← Nat.le_div_iff_mul_le (Nat.two_pow_pos _), ← Nat.shiftRight_eq_div_pow]

theorem countLeadingZerosInU64_spec {input : ℕ} (small : input < 2 ^ 64) :
    LeadingZeros 64 input (countLeadingZerosInU64 input) := by
  unfold countLeadingZerosInU64
  split_ifs
  · have := leadingZeros_shifted 64 0 56 small rfl (by omega)
    rwa [Nat.zero_add] at this
  · exact leadingZeros_shifted 64 8 48 (by omega) rfl (by omega)
  · exact leadingZeros_shifted 64 16 40 (by omega) rfl (by omega)
  · exact leadingZeros_shifted 64 24 32 (by omega) rfl (by omega)
  · exact leadingZeros_shifted 64 32 24 (by omega) rfl (by omega)
  · exact leadingZeros_shifted 64 40 16 (by omega) rfl (by omega)
  · exact leadingZeros_shifted 64 48 8 (by omega) rfl (by omega)
  · exact leadingZeros_shifted 64 56 0 (by omega) rfl (by omega)

theorem countLeadingZerosInU32_spec {input : ℕ} (small : input < 2 ^ 32) :
    LeadingZeros 32 input (countLeadingZerosInU32 input) := by
  unfold countLeadingZerosInU32
  split_ifs
  · have := leadingZeros_shifted 32 0 24 small rfl (by omega)
    rwa [Nat.zero_add] at this
  · exact leadingZeros_shifted 32 8 16 (by omega) rfl (by omega)
  · exact leadingZeros_shifted 32 16 8 (by omega) rfl (by omega)
  · exact leadingZeros_shifted 32 24 0 (by omega) rfl (by omega)

end ThetaSketch
