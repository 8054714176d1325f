import ThetaSketch.Library.TailSums

/-! Tails of binomial distributions.

Waiting for a success is the same as counting them: the sample number `k + 1` comes
within `n` trials if and only if these hold more than `k` samples. So the loops over
negative binomial terms add up tails of binomial distributions.
-/

set_option autoImplicit false

namespace TailSums

variable {p : ℚ}

def mass (p : ℚ) (n k : ℕ) : ℚ := n.choose k * p ^ k * (1 - p) ^ (n - k)

def atMost (p : ℚ) (n k : ℕ) : ℚ := ∑ i ∈ Finset.range (k + 1), mass p n i

def atLeast (p : ℚ) (n k : ℕ) : ℚ := ∑ i ∈ Finset.Ico k (n + 1), mass p n i

theorem mass_eq_zero {n k : ℕ} (more : n < k) : mass p n k = 0 := by
  rw [mass, Nat.choose_eq_zero_of_lt more]
  simp

theorem mass_nonneg (unit : 0 ≤ p ∧ p ≤ 1) (n k : ℕ) : 0 ≤ mass p n k := by
  have missing : 0 ≤ 1 - p := sub_nonneg.mpr unit.2
  have taken := unit.1
  unfold mass
  positivity

/-- The last trial either adds a sample or not. -/
theorem mass_succ_succ (p : ℚ) (n k : ℕ) :
    mass p (n + 1) (k + 1) = p * mass p n k + (1 - p) * mass p n (k + 1) := by
  rcases Nat.lt_or_ge n (k + 1) with more | less
  · rw [mass_eq_zero more, mass, mass, Nat.choose_succ_succ, Nat.choose_eq_zero_of_lt more,
      Nat.add_sub_add_right]
    push_cast
    ring
  · have steps : n - k = n - (k + 1) + 1 := by omega
    rw [mass, mass, mass, Nat.choose_succ_succ, Nat.add_sub_add_right, steps]
    push_cast
    ring

theorem atMost_succ (p : ℚ) (n k : ℕ) : atMost p (n + 1) k = atMost p n k - p * mass p n k := by
  induction k with
  | zero =>
    simp only [atMost, mass, zero_add, Finset.sum_range_one, Nat.choose_zero_right, Nat.sub_zero]
    push_cast
    ring
  | succ k ih =>
    have last : ∀ trials, atMost p trials (k + 1) = atMost p trials k + mass p trials (k + 1) :=
      fun trials => Finset.sum_range_succ _ _
    rw [last, last, ih, mass_succ_succ]
    ring

theorem sum_mass (p : ℚ) (n : ℕ) : ∑ i ∈ Finset.range (n + 1), mass p n i = 1 := by
  have whole := add_pow p (1 - p) n
  rw [add_sub_cancel, one_pow] at whole
  rw [whole]
  refine Finset.sum_congr rfl fun i _ => ?_
  rw [mass]
  ring

theorem atMost_add_atLeast (p : ℚ) (n k : ℕ) : atMost p n k + atLeast p n (k + 1) = 1 := by
  rcases Nat.lt_or_ge k n with less | all
  · rw [atMost, atLeast, ← sum_mass p n, Finset.range_eq_Ico, Finset.range_eq_Ico]
    exact Finset.sum_Ico_consecutive _ (Nat.zero_le _) (by omega)
  · have none_left : atLeast p n (k + 1) = 0 := by
      rw [atLeast, Finset.Ico_eq_empty (by omega), Finset.sum_empty]
    have beyond : atMost p n k = ∑ i ∈ Finset.range (n + 1), mass p n i := by
      refine (Finset.sum_subset (Finset.range_mono (by omega)) fun i _ outside => ?_).symm
      exact mass_eq_zero (by simpa using outside)
    rw [none_left, beyond, sum_mass, add_zero]

/-- Counting samples and waiting for the next one. -/
theorem sum_posterior (k rounds : ℕ) (p : ℚ) :
    ∑ misses ∈ Finset.range rounds, posterior k p misses = atLeast p (k + rounds) (k + 1) := by
  induction rounds with
  | zero =>
    rw [Finset.range_zero, Finset.sum_empty, atLeast, Finset.Ico_eq_empty (by omega), Finset.sum_empty]
  | succ rounds ih =>
    have before := atMost_add_atLeast p (k + rounds) k
    have after := atMost_add_atLeast p (k + rounds + 1) k
    have step := atMost_succ p (k + rounds) k
    have term : posterior k p rounds = p * mass p (k + rounds) k := by
      rw [posterior, mass, Nat.add_sub_cancel_left, Nat.add_comm rounds k]
      ring
    rw [Finset.sum_range_succ, ih, term, ← Nat.add_assoc]
    linarith

theorem atLeast_mono (unit : 0 ≤ p ∧ p ≤ 1) {n m : ℕ} (fewer : n ≤ m) (k : ℕ) :
    atLeast p n (k + 1) ≤ atLeast p m (k + 1) := by
  induction m, fewer using Nat.le_induction with
  | base => exact le_rfl
  | succ m _ ih =>
    have before := atMost_add_atLeast p m k
    have after := atMost_add_atLeast p (m + 1) k
    have step := atMost_succ p m k
    have positive := mul_nonneg unit.1 (mass_nonneg unit m k)
    linarith

end TailSums
