import ThetaSketch.Common.BinomialBounds
import ThetaSketch.Library.BinomialTails

/-! What the exact error bounds are.

For two to 120 samples and a chance that is neither close to one nor very small, the
bounds come from loops that add up chances term by term. They invert two tests: a
number of trials lies outside the bounds only if it makes so many samples, or so few,
no more likely than the wanted confidence allows.
-/

set_option autoImplicit false

namespace ThetaSketch

open TailSums

namespace BinomialBounds

section Loops

variable {k n : ℕ} {p delta : ℚ} {unit : 0 ≤ p ∧ p ≤ 1}

theorem le_specialNStar_iff {small : delta < 1} (positive : 0 < delta)
    (run : specialNStar (k + 1) p delta unit small = .ok n) (trials : ℕ) (enough : k ≤ trials) :
    trials ≤ n ↔ atLeast p trials (k + 1) ≤ delta := by
  obtain ⟨passed, before⟩ := specialNStar_spec run
  have some_trial : k ≤ n := by
    by_contra few
    have rounds : n + 1 - k = 0 := by omega
    rw [rounds, Finset.sum_range_zero] at passed
    exact absurd passed (not_lt.mpr positive.le)
  rw [sum_posterior, show k + (n + 1 - k) = n + 1 by omega] at passed
  constructor
  · intro few
    rcases Nat.eq_or_lt_of_le enough with rfl | more
    · have none_left := sum_posterior k 0 p
      rw [Finset.sum_range_zero, Nat.add_zero] at none_left
      exact none_left ▸ positive.le
    · have surprising := before (trials - k - 1) (by omega)
      rwa [sum_posterior, show k + (trials - k - 1 + 1) = trials by omega] at surprising
  · intro surprising
    by_contra many
    have common := atLeast_mono unit (Nat.succ_le_of_lt (not_le.mp many)) k
    exact absurd (passed.trans_le common) (not_lt.mpr surprising)

theorem specialNPrimeF_le_iff {positive : 0 < delta} (small : delta < 1)
    (run : specialNPrimeF k p delta unit positive = .ok n) (trials : ℕ) (enough : k ≤ trials) :
    n ≤ trials ↔ atMost p trials k ≤ delta := by
  unfold specialNPrimeF at run
  split_ifs at run
  obtain ⟨reached, before⟩ := specialNPrimeB_spec run
  have some_trial : k ≤ n := by
    by_contra few
    have rounds : n - k = 0 := by omega
    rw [rounds, Finset.sum_range_zero] at reached
    linarith
  rw [sum_posterior, show k + (n - k) = n by omega] at reached
  have both := atMost_add_atLeast p trials k
  constructor
  · intro many
    have common := atLeast_mono unit many k
    linarith
  · intro surprising
    by_contra few
    rcases Nat.eq_or_lt_of_le enough with rfl | more
    · have none_left := sum_posterior k 0 p
      rw [Finset.sum_range_zero, Nat.add_zero] at none_left
      linarith
    · have likely := before (trials - k - 1) (by omega)
      rw [sum_posterior, show k + (trials - k - 1 + 1) = trials by omega] at likely
      linarith

end Loops

section Bounds

variable (doubles : Doubles) {numSamples numStdDevs : ℕ} {theta : ℚ}

/-- The range in which the loops are run. -/
structure ExactRange (numSamples : ℕ) (theta : ℚ) (numStdDevs : ℕ) : Prop where
  samples : 2 ≤ numSamples ∧ numSamples ≤ 120
  theta : (numSamples : ℚ) / 360 ≤ theta ∧ theta ≤ 1 - 1e-5
  devs : 1 ≤ numStdDevs ∧ numStdDevs ≤ 3

theorem ExactRange.unit (range : ExactRange numSamples theta numStdDevs) : 0 ≤ theta ∧ theta ≤ 1 := by
  have positive : (0 : ℚ) ≤ (numSamples : ℚ) / 360 := by positivity
  exact ⟨positive.trans range.theta.1, range.theta.2.trans (by norm_num)⟩

theorem getLowerBound_eq (range : ExactRange numSamples theta numStdDevs) :
    ∃ n, specialNStar numSamples theta (deltaOfNumStdDevs numStdDevs) range.unit
        (deltaOfNumStdDevs_lt_one numStdDevs) = .ok n ∧
      getLowerBound doubles numSamples theta numStdDevs =
        .ok (min (numSamples / theta) (max numSamples (n : ℚ))) := by
  obtain ⟨samples, atMost⟩ := range.samples
  obtain ⟨large, small⟩ := range.theta
  obtain ⟨n, run⟩ := specialNStar_returns (by omega) atMost large range.unit
    (deltaOfNumStdDevs_lt_one numStdDevs)
  refine ⟨n, run, ?_⟩
  have below : theta ≠ 1 := fun whole => by norm_num [whole] at small
  rw [getLowerBound_checked doubles numSamples range.unit range.devs, computeApproxBinomialLowerBound,
    if_neg below, if_neg (by omega), if_neg (by omega), if_neg (by omega), if_neg (not_lt.mpr small),
    if_neg (not_lt.mpr large), run]
  rfl

theorem getUpperBound_eq (range : ExactRange numSamples theta numStdDevs) :
    ∃ n, specialNPrimeF numSamples theta (deltaOfNumStdDevs numStdDevs) range.unit
        (deltaOfNumStdDevs_pos numStdDevs) = .ok n ∧
      getUpperBound doubles numSamples theta numStdDevs = .ok (max (numSamples / theta) (n : ℚ)) := by
  obtain ⟨samples, atMost⟩ := range.samples
  obtain ⟨large, small⟩ := range.theta
  obtain ⟨n, run⟩ := specialNPrimeF_returns (by omega) atMost large range.unit
    (deltaOfNumStdDevs_pos numStdDevs)
  refine ⟨n, run, ?_⟩
  have below : theta ≠ 1 := fun whole => by norm_num [whole] at small
  rw [getUpperBound_checked doubles numSamples range.unit range.devs, computeApproxBinomialUpperBound,
    if_neg below, if_neg (by omega), if_neg (by omega), if_neg (not_lt.mpr small),
    if_neg (not_lt.mpr large), run]
  rfl

/-- The bounds enclose the estimate, and beside the estimate and the number of samples
they are the ends of the numbers of trials for which the samples are no surprise. -/
theorem bounds_exact (range : ExactRange numSamples theta numStdDevs) :
    ∃ lower upper : ℚ, ∃ n m : ℕ,
      getLowerBound doubles numSamples theta numStdDevs = .ok lower ∧
      getUpperBound doubles numSamples theta numStdDevs = .ok upper ∧
      lower = min (numSamples / theta) (max numSamples (n : ℚ)) ∧ upper = max (numSamples / theta) (m : ℚ) ∧
      (∀ trials, numSamples ≤ trials + 1 →
        (trials ≤ n ↔ atLeast theta trials numSamples ≤ deltaOfNumStdDevs numStdDevs)) ∧
      ∀ trials, numSamples ≤ trials →
        (m ≤ trials ↔ atMost theta trials numSamples ≤ deltaOfNumStdDevs numStdDevs) := by
  obtain ⟨n, runLower, lower⟩ := getLowerBound_eq doubles range
  obtain ⟨m, runUpper, upper⟩ := getUpperBound_eq doubles range
  refine ⟨_, _, n, m, lower, upper, rfl, rfl, fun trials enough => ?_, fun trials enough => ?_⟩
  · obtain ⟨k, rfl⟩ : ∃ k, numSamples = k + 1 := ⟨numSamples - 1, by have := range.samples.1; omega⟩
    exact le_specialNStar_iff (deltaOfNumStdDevs_pos numStdDevs) runLower trials (by omega)
  · exact specialNPrimeF_le_iff (deltaOfNumStdDevs_lt_one numStdDevs) runUpper trials enough

end Bounds

theorem bounds_exact_two : ∃ doubles : Doubles, ∃ lower upper : ℚ, ∃ n m : ℕ,
    getLowerBound doubles 2 (1 / 2) 1 = .ok lower ∧ getUpperBound doubles 2 (1 / 2) 1 = .ok upper ∧
    lower = min (2 / (1 / 2)) (max 2 (n : ℚ)) ∧ upper = max (2 / (1 / 2)) (m : ℚ) ∧ n < 2 ∧ 6 ≤ m := by
  have range : ExactRange 2 (1 / 2) 1 := ⟨by decide, by norm_num, by decide⟩
  obtain ⟨lower, upper, n, m, runLower, runUpper, isLower, isUpper, few, many⟩ :=
    bounds_exact ⟨fun _ => 0, fun _ => 0, .replicate 363 0, .replicate 363 0, fun _ => ""⟩ range
  refine ⟨_, lower, upper, n, m, runLower, runUpper, by exact_mod_cast isLower,
    by exact_mod_cast isUpper, ?_, ?_⟩
  · by_contra more
    have surprising := (few 2 (by decide)).mp (not_lt.mp more)
    norm_num [atLeast, mass, deltaOfNumStdDevs, Finset.sum_Ico_succ_top] at surprising
  · by_contra less
    have surprising := (many 5 (by decide)).mp (by omega)
    norm_num [atMost, mass, deltaOfNumStdDevs, Finset.sum_range_succ, Nat.choose] at surprising

end BinomialBounds

end ThetaSketch
