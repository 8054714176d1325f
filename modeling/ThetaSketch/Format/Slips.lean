import ThetaSketch.Format.Blocks

/-! The slips of the block routines.

The packer of width 13 and the unpackers of widths 33 and 35 change a value unless some of
its bits happen to be right.
-/

set_option autoImplicit false

namespace ThetaSketch

/-! Unpacking. -/

theorem signed_survives_iff {number : ℕ} (small : number < 2 ^ 33) :
    (if number.testBit 31 then number ||| ((2 ^ 32 - 1) <<< 32) else number) = number ↔
      number.testBit 31 = false := by
  split_ifs with set
  · have high : number.testBit 33 = false := Nat.testBit_lt_two_pow small
    refine ⟨fun same => ?_, fun clear => by rw [set] at clear; cases clear⟩
    have here := congrArg (fun number => number.testBit 33) same
    simp [high] at here
    exact absurd here (by decide)
  · simp [set]

theorem masked_survives_iff {number : ℕ} (small : number < 2 ^ 35) :
    number &&& (2 ^ 35 - 1 - 2 ^ 33) = number ↔ number.testBit 33 = false := by
  have mask : ∀ place < 35, (2 ^ 35 - 1 - 2 ^ 33).testBit place = decide (place ≠ 33) := by
    decide +kernel
  constructor
  · intro same
    rw [← same, Nat.testBit_and, mask 33 (by decide)]
    simp
  · intro clear
    apply Nat.eq_of_testBit_eq
    intro place
    rw [Nat.testBit_and]
    by_cases inside : place < 35
    · rw [mask place inside]
      by_cases here : place = 33
      · rw [here, clear]
        rfl
      · simp [here]
    · rw [Nat.testBit_lt_two_pow (small.trans_le (Nat.pow_le_pow_right Nat.two_pos (not_lt.mp inside)))]
      rfl

theorem unpackSlip_eq_iff {width index number : ℕ} (small : number < 2 ^ width) :
    unpackSlip width index number = number ↔
      (width = 33 ∧ index = 7 → number.testBit 31 = false) ∧
      (width = 35 ∧ index = 2 → number.testBit 33 = false) := by
  unfold unpackSlip
  by_cases signed : width = 33 ∧ index = 7
  · obtain ⟨rfl, rfl⟩ := signed
    simpa using signed_survives_iff small
  · by_cases masked : width = 35 ∧ index = 2
    · obtain ⟨rfl, rfl⟩ := masked
      simpa using masked_survives_iff small
    · simp [signed, masked]

/-! Packing. -/

theorem or_eq_right_iff {left right : ℕ} :
    left ||| right = right ↔ ∀ place, left.testBit place = true → right.testBit place = true := by
  constructor
  · intro same place set
    rw [← same, Nat.testBit_or, set, Bool.true_or]
  · intro covered
    apply Nat.eq_of_testBit_eq
    intro place
    rw [Nat.testBit_or]
    cases set : left.testBit place with
    | false => rw [Bool.false_or]
    | true => rw [covered place set, Bool.true_or]

theorem fourth_survives_iff {number : ℕ} (small : number < 2 ^ 13) :
    (number &&& 0x1ff0) ||| ((number >>> 8) &&& 0xf) = number ↔
      ∀ place < 4, number.testBit place = number.testBit (8 + place) := by
  have low : ∀ place < 4, (0x1ff0).testBit place = false ∧ (0xf).testBit place = true := by decide
  have high : ∀ place < 13, ¬ place < 4 →
      (0x1ff0).testBit place = true ∧ (0xf).testBit place = false := by decide
  have bits : ∀ place, ((number &&& 0x1ff0) ||| ((number >>> 8) &&& 0xf)).testBit place =
      (number.testBit place && (0x1ff0).testBit place ||
        number.testBit (8 + place) && (0xf).testBit place) := fun place => by
    rw [Nat.testBit_or, Nat.testBit_and, Nat.testBit_and, Nat.testBit_shiftRight]
  constructor
  · intro same place inside
    have bit := bits place
    rw [same, (low place inside).1, (low place inside).2] at bit
    simpa using bit
  · intro repeated
    apply Nat.eq_of_testBit_eq
    intro place
    rw [bits]
    by_cases inside : place < 4
    · rw [(low place inside).1, (low place inside).2, ← repeated place inside]
      simp
    · by_cases upper : place < 13
      · rw [(high place upper inside).1, (high place upper inside).2]
        simp
      · have above : ∀ place, 13 ≤ place → number.testBit place = false := fun place beyond =>
          Nat.testBit_lt_two_pow (small.trans_le (Nat.pow_le_pow_right Nat.two_pos beyond))
        rw [above place (by omega), above (8 + place) (by omega)]
        simp

theorem fifth_survives_iff {number spilled : ℕ} :
    number ||| (((spilled >>> 4) &&& 0xf) <<< 9) = number ↔
      ∀ place < 4, spilled.testBit (4 + place) = true → number.testBit (9 + place) = true := by
  have nibble : ∀ place < 4, (0xf).testBit place = true := by decide
  have bits : ∀ place, (((spilled >>> 4) &&& 0xf) <<< 9).testBit place =
      (decide (9 ≤ place) && (spilled.testBit (4 + (place - 9)) && (0xf).testBit (place - 9))) :=
    fun place => by
      rw [Nat.testBit_shiftLeft, Nat.testBit_and, Nat.testBit_shiftRight]
  rw [Nat.or_comm, or_eq_right_iff]
  constructor
  · intro covered place inside set
    refine covered (9 + place) ?_
    rw [bits, Nat.add_sub_cancel_left, nibble place inside, set]
    simp
  · intro covered place set
    rw [bits, Bool.and_eq_true, Bool.and_eq_true, decide_eq_true_eq] at set
    obtain ⟨above, spill, mask⟩ := set
    have inside : place - 9 < 4 := by
      by_contra beyond
      have clear : (0xf).testBit (place - 9) = false := Nat.testBit_lt_two_pow
        ((by decide : 0xf < 2 ^ 4).trans_le (Nat.pow_le_pow_right Nat.two_pos (not_lt.mp beyond)))
      rw [clear] at mask
      cases mask
    have here := covered (place - 9) inside spill
    rwa [Nat.add_sub_cancel' above] at here

theorem packSlip_eq_iff {width : ℕ} {values : List ℕ} (small : ∀ index, values.getD index 0 < 2 ^ width) :
    (∀ index < 8, packSlip width values index = values.getD index 0) ↔
      (width = 13 →
        (∀ place < 4, (values.getD 3 0).testBit place = (values.getD 3 0).testBit (8 + place)) ∧
        ∀ place < 4, (values.getD 3 0).testBit (4 + place) = true →
          (values.getD 4 0).testBit (9 + place) = true) := by
  by_cases slips : width = 13
  · subst slips
    have fourth := fourth_survives_iff (small 3)
    have fifth := @fifth_survives_iff (values.getD 4 0) (values.getD 3 0)
    constructor
    · intro same _
      exact ⟨fourth.mp (same 3 (by decide)), fifth.mp (same 4 (by decide))⟩
    · intro hidden index _
      simp only [packSlip, true_and]
      split_ifs with isFourth isFifth
      · rw [isFourth]
        exact fourth.mpr (hidden rfl).1
      · rw [isFifth]
        exact fifth.mpr (hidden rfl).2
      · rfl
  · simp [packSlip, slips]

end ThetaSketch
