import Mathlib.Algebra.Order.Ring.Nat
import Mathlib.Data.Nat.Size

/-! Spreading the bits of a number to the right.

Doubling the distance each time, a number is joined with itself shifted right, until
every bit below its highest one is set.
-/

set_option autoImplicit false

namespace BitSmear

/-- A bit of `m` is set when `n` has one among the `width` bits from there on. -/
def Covers (m n width : ℕ) : Prop :=
  ∀ i, m.testBit i = true ↔ ∃ j, i ≤ j ∧ j < i + width ∧ n.testBit j = true

variable {m n width : ℕ}

theorem covers_self (n : ℕ) : Covers n n 1 := by
  intro i
  refine ⟨fun set => ⟨i, le_rfl, Nat.lt_succ_self i, set⟩, ?_⟩
  rintro ⟨j, low, high, set⟩
  rwa [le_antisymm low (Nat.lt_succ_iff.mp high)]

theorem Covers.step (covers : Covers m n width) : Covers (m ||| m >>> width) n (2 * width) := by
  intro i
  rw [Nat.testBit_or, Nat.testBit_shiftRight, Bool.or_eq_true, covers, covers]
  constructor
  · rintro (⟨j, low, high, set⟩ | ⟨j, low, high, set⟩)
    · exact ⟨j, low, by omega, set⟩
    · exact ⟨j, by omega, by omega, set⟩
  · rintro ⟨j, low, high, set⟩
    rcases Nat.lt_or_ge j (i + width) with near | far
    · exact .inl ⟨j, low, near, set⟩
    · exact .inr ⟨j, by omega, by omega, set⟩

theorem Covers.eq (covers : Covers m n width) (small : n < 2 ^ width) : m = 2 ^ n.size - 1 := by
  refine Nat.eq_of_testBit_eq fun i => ?_
  rw [Nat.testBit_two_pow_sub_one, Bool.eq_iff_iff, covers, decide_eq_true_iff, Nat.lt_size]
  constructor
  · rintro ⟨j, low, _, set⟩
    exact (Nat.pow_le_pow_right Nat.two_pos low).trans (Nat.ge_two_pow_of_testBit set)
  · intro large
    obtain ⟨j, low, set⟩ := Nat.exists_ge_and_testBit_of_ge_two_pow large
    refine ⟨j, low, ?_, set⟩
    have inside : 2 ^ j < 2 ^ width := lt_of_le_of_lt (Nat.ge_two_pow_of_testBit set) small
    have := (Nat.pow_lt_pow_iff_right Nat.one_lt_two).mp inside
    omega

end BitSmear
