import Mathlib.Analysis.SpecificLimits.Normed

/-! Loops that add up terms until the total passes a bound.

A loop is given by a test and a step, and comes with the proof that it ends. The
terms here are those of a negative binomial distribution; as they add up to one,
every smaller bound is passed.
-/

set_option autoImplicit false

namespace TailSums

section Loop

variable {State : Type} {goesOn : State → Bool} {next : State → State} {start : State}

def whileLoop (goesOn : State → Bool) (next : State → State) (start : State)
    (ends : ∃ rounds, goesOn (next^[rounds] start) = false) : State :=
  next^[Nat.find ends] start

theorem whileLoop_runs (ends : ∃ rounds, goesOn (next^[rounds] start) = false) :
    ∃ rounds, whileLoop goesOn next start ends = next^[rounds] start ∧
      goesOn (next^[rounds] start) = false ∧
      ∀ earlier < rounds, goesOn (next^[earlier] start) = true := by
  refine ⟨Nat.find ends, rfl, Nat.find_spec ends, fun earlier before => ?_⟩
  exact Bool.of_not_eq_false (Nat.find_min ends before)

end Loop

/-! Negative binomial terms. -/

/-- The chance that the sample number `k + 1` comes after `misses` misses. -/
def posterior (k : ℕ) (p : ℚ) (misses : ℕ) : ℚ :=
  (misses + k).choose k * p ^ (k + 1) * (1 - p) ^ misses

theorem posterior_zero (k : ℕ) (p : ℚ) : posterior k p 0 = p ^ (k + 1) := by
  simp [posterior]

theorem posterior_succ (k : ℕ) (p : ℚ) (misses : ℕ) :
    posterior k p (misses + 1) =
      posterior k p misses * (1 - p) * ((k + 1 + misses : ℕ) : ℚ) / ((misses + 1 : ℕ) : ℚ) := by
  have chosen : (misses + 1 + k).choose k * (misses + 1) = (misses + k).choose k * (k + 1 + misses) := by
    have absorb := Nat.add_one_mul_choose_eq (misses + k) misses
    have flip : (misses + 1 + k).choose k = (misses + k + 1).choose (misses + 1) := by
      rw [show misses + 1 + k = (misses + k) + 1 by omega, Nat.choose_symm_of_eq_add]
      omega
    have flop : (misses + k).choose k = (misses + k).choose misses :=
      Nat.choose_symm_of_eq_add (by omega)
    rw [flip, flop, ← absorb, mul_comm]
    congr 1
    omega
  have positive : ((misses + 1 : ℕ) : ℚ) ≠ 0 := by positivity
  have cast : (((misses + 1 + k).choose k : ℕ) : ℚ) * ((misses + 1 : ℕ) : ℚ) =
      ((misses + k).choose k : ℕ) * ((k + 1 + misses : ℕ) : ℚ) := by exact_mod_cast chosen
  rw [eq_div_iff positive, posterior, posterior]
  calc ((misses + 1 + k).choose k : ℚ) * p ^ (k + 1) * (1 - p) ^ (misses + 1) * ((misses + 1 : ℕ) : ℚ)
      = ((misses + 1 + k).choose k : ℚ) * ((misses + 1 : ℕ) : ℚ) * p ^ (k + 1)
          * (1 - p) ^ (misses + 1) := by ring
    _ = (misses + k).choose k * p ^ (k + 1) * (1 - p) ^ misses * (1 - p)
          * ((k + 1 + misses : ℕ) : ℚ) := by rw [cast]; ring

theorem hasSum_posterior (k : ℕ) {p : ℚ} (positive : 0 < p) (atMost : p ≤ 1) :
    HasSum (fun misses => (posterior k p misses : ℝ)) 1 := by
  have positive' : (0 : ℝ) < p := by exact_mod_cast positive
  have atMost' : (p : ℝ) ≤ 1 := by exact_mod_cast atMost
  have small : ‖(1 - p : ℝ)‖ < 1 := by
    rw [Real.norm_eq_abs, abs_lt]
    constructor <;> linarith
  have series := (hasSum_choose_mul_geometric_of_norm_lt_one k small).mul_left ((p : ℝ) ^ (k + 1))
  have one : (p : ℝ) ^ (k + 1) * (1 / (1 - (1 - (p : ℝ))) ^ (k + 1)) = 1 := by
    rw [sub_sub_cancel]
    exact mul_one_div_cancel (pow_ne_zero _ positive'.ne')
  rw [one] at series
  refine series.congr_fun ?_
  intro misses
  simp only [posterior]
  push_cast
  ring

theorem exists_total_gt (k : ℕ) {p bound : ℚ} (positive : 0 < p) (atMost : p ≤ 1) (below : bound < 1) :
    ∃ rounds, bound < ∑ misses ∈ Finset.range (rounds + 1), posterior k p misses := by
  have limit := (hasSum_posterior k positive atMost).tendsto_sum_nat
  have below' : (bound : ℝ) < 1 := by exact_mod_cast below
  obtain ⟨rounds, passed⟩ := ((limit.comp (Filter.tendsto_add_atTop_nat 1)).eventually
    (lt_mem_nhds below')).exists
  refine ⟨rounds, ?_⟩
  simp only [Function.comp_apply] at passed
  exact_mod_cast passed

end TailSums
