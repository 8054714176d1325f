import ThetaSketch.Common.Exit
import ThetaSketch.Library.BitSmear

/-! The next power of two above a 32-bit number. -/

set_option autoImplicit false

namespace ThetaSketch

open BitSmear

def ceilingPowerOf2 (n : UInt32) : UInt32 :=
  let n := n - 1
  let n := n ||| n >>> 1
  let n := n ||| n >>> 2
  let n := n ||| n >>> 4
  let n := n ||| n >>> 8
  let n := n ||| n >>> 16
  n + 1

theorem covers_spread {m shift : UInt32} {n width : ℕ} (covers : Covers m.toNat n width)
    (same : shift.toNat = width) (narrow : width < 32) :
    Covers (m ||| m >>> shift).toNat n (2 * width) := by
  rw [UInt32.toNat_or, UInt32.toNat_shiftRight, same, Nat.mod_eq_of_lt narrow]
  exact covers.step

/-- The power of two fits 32 bits as long as the number is at most half of them. -/
theorem toNat_ceilingPowerOf2 {n : UInt32} (positive : 0 < n.toNat) (half : n.toNat ≤ 2 ^ 31) :
    (ceilingPowerOf2 n).toNat = 2 ^ (n.toNat - 1).size := by
  have before : (n - 1).toNat = n.toNat - 1 :=
    UInt32.toNat_sub_of_le n 1 (UInt32.le_iff_toNat_le.mpr positive)
  have start : Covers (n - 1).toNat (n.toNat - 1) 1 := before ▸ covers_self _
  have covers := covers_spread (covers_spread (covers_spread (covers_spread (covers_spread start
    (rfl : (1 : UInt32).toNat = 1) (by decide)) (rfl : (2 : UInt32).toNat = 2) (by decide))
    (rfl : (4 : UInt32).toNat = 4) (by decide)) (rfl : (8 : UInt32).toNat = 8) (by decide))
    (rfl : (16 : UInt32).toNat = 16) (by decide)
  have small : n.toNat - 1 < 2 ^ 31 := by omega
  have smeared := covers.eq (small.trans (by decide))
  have fits : 2 ^ (n.toNat - 1).size ≤ 2 ^ 31 :=
    Nat.pow_le_pow_right Nat.two_pos (Nat.size_le.mpr small)
  have some_power : 0 < 2 ^ (n.toNat - 1).size := Nat.two_pow_pos _
  rw [ceilingPowerOf2, UInt32.toNat_add, smeared, UInt32.toNat_one, Nat.sub_add_cancel some_power,
    Nat.mod_eq_of_lt (lt_of_le_of_lt fits (by decide))]

theorem le_ceilingPowerOf2 {n : UInt32} (half : n.toNat ≤ 2 ^ 31) :
    n.toNat ≤ 2 ^ Nat.log2 (ceilingPowerOf2 n).toNat := by
  rcases Nat.eq_zero_or_pos n.toNat with zero | positive
  · rw [zero]
    exact Nat.zero_le _
  · rw [toNat_ceilingPowerOf2 positive half, Nat.log2_two_pow]
    have := Nat.lt_size_self (n.toNat - 1)
    omega

end ThetaSketch
