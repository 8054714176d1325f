import Mathlib.Analysis.SpecialFunctions.Log.Deriv
import Mathlib.Analysis.SpecialFunctions.Pow.Real
import Mathlib.Analysis.Complex.ExponentialBounds
import ThetaSketch.Common.Exit

/-! Confidence intervals for the chance behind a number of successes.

The code computes with doubles; here the numbers are those of any ordered field,
with the functions that the mathematical library has on it. Over the real numbers
the interval is inside the unit interval and contains the share of successes.
-/

set_option autoImplicit false

namespace ThetaSketch

/-- What the bounds take from the mathematical library. -/
structure MathLibrary (F : Type) where
  sqrt : F → F
  exp : F → F
  pow : F → F → F

namespace BinomialProportions

section Bounds

variable {F : Type} [Field F] [LinearOrder F] (library : MathLibrary F)

def checkInputs (n k : ℕ) : Run Unit :=
  if n < k then throw (.invalidArg "K cannot exceed N") else return ()

def erfOfNonneg (x : F) : F :=
  let sum := 1 + 0.0705230784 * x + 0.0422820123 * x ^ 2 + 0.0092705272 * x ^ 3
    + 0.0001520143 * x ^ 4 + 0.0002765672 * x ^ 5 + 0.0000430638 * x ^ 6
  1 - 1 / sum ^ 16

def erf (x : F) : F := if x < 0 then -1 * erfOfNonneg (-1 * x) else erfOfNonneg x

def normalCdf (x : F) : F := 0.5 * (1 + erf (x / library.sqrt 2))

def deltaOfNumStdevs (kappa : F) : F := normalCdf library (-1 * kappa)

def abramowitzStegunFormula26p5p22 (a b yp : F) : F :=
  let b2m1 := 2 * b - 1
  let a2m1 := 2 * a - 1
  let lambda := (yp * yp - 3) / 6
  let htmp := 1 / a2m1 + 1 / b2m1
  let h := 2 / htmp
  let term1 := yp * library.sqrt (h + lambda) / h
  let term2 := 1 / b2m1 - 1 / a2m1
  let term3 := lambda + 5 / 6 - 2 / (3 * h)
  let w := term1 - term2 * term3
  a / (a + b * library.exp (2 * w))

def exactUpperBoundOnPKEqZero (n : ℕ) (delta : F) : F := 1 - library.pow delta (1 / n)

def exactLowerBoundOnPKEqN (n : ℕ) (delta : F) : F := library.pow delta (1 / n)

def exactLowerBoundOnPKEq1 (n : ℕ) (delta : F) : F := 1 - library.pow (1 - delta) (1 / n)

def exactUpperBoundOnPKEqMinusone (n : ℕ) (delta : F) : F := library.pow (1 - delta) (1 / n)

def approximateLowerBoundOnP (n k : ℕ) (numStdDevs : F) : Run F := do
  checkInputs n k
  if n = 0 then return 0
  else if k = 0 then return 0
  else if k = 1 then return exactLowerBoundOnPKEq1 library n (deltaOfNumStdevs library numStdDevs)
  else if k = n then return exactLowerBoundOnPKEqN library n (deltaOfNumStdevs library numStdDevs)
  else
    let x := abramowitzStegunFormula26p5p22 library ((n - k : ℕ) + 1) k (-1 * numStdDevs)
    return 1 - x

def approximateUpperBoundOnP (n k : ℕ) (numStdDevs : F) : Run F := do
  checkInputs n k
  if n = 0 then return 1
  else if k = n then return 1
  else if k = n - 1 then
    return exactUpperBoundOnPKEqMinusone library n (deltaOfNumStdevs library numStdDevs)
  else if k = 0 then return exactUpperBoundOnPKEqZero library n (deltaOfNumStdevs library numStdDevs)
  else
    let x := abramowitzStegunFormula26p5p22 library (n - k : ℕ) (k + 1) numStdDevs
    return 1 - x

def estimateUnknownP (n k : ℕ) : Run F := do
  checkInputs n k
  if n = 0 then return 0.5 else return k / n

end Bounds

/-! Successes and failures change places. -/

section Mirror

variable {F : Type} [Field F] [LinearOrder F] [IsStrictOrderedRing F] {library : MathLibrary F}

theorem abramowitzStegun_mirror (positive : ∀ x, 0 < library.exp x)
    (inverse : ∀ x, library.exp (-x) * library.exp x = 1) {a b : F} (someA : 0 < a) (someB : 0 < b)
    (yp : F) :
    abramowitzStegunFormula26p5p22 library b a (-1 * yp) =
      1 - abramowitzStegunFormula26p5p22 library a b yp := by
  simp only [abramowitzStegunFormula26p5p22]
  have squares : -1 * yp * (-1 * yp) = yp * yp := by ring
  rw [squares, add_comm (1 / (2 * b - 1)) (1 / (2 * a - 1))]
  generalize 2 / (1 / (2 * a - 1) + 1 / (2 * b - 1)) = h
  generalize (yp * yp - 3) / 6 = lambda
  have exponent : 2 * (-1 * yp * library.sqrt (h + lambda) / h
      - (1 / (2 * a - 1) - 1 / (2 * b - 1)) * (lambda + 5 / 6 - 2 / (3 * h))) =
      -(2 * (yp * library.sqrt (h + lambda) / h
        - (1 / (2 * b - 1) - 1 / (2 * a - 1)) * (lambda + 5 / 6 - 2 / (3 * h)))) := by ring
  rw [exponent]
  generalize 2 * (yp * library.sqrt (h + lambda) / h
    - (1 / (2 * b - 1) - 1 / (2 * a - 1)) * (lambda + 5 / 6 - 2 / (3 * h))) = w
  have some_exp := positive w
  have some_inverse := positive (-w)
  have one := inverse w
  have whole : a + b * library.exp w ≠ 0 := by positivity
  have whole_mirrored : b + a * library.exp (-w) ≠ 0 := by positivity
  rw [eq_sub_iff_add_eq, div_add_div _ _ whole_mirrored whole, div_eq_one_iff_eq (by positivity)]
  linear_combination (-a * b) * one

/-- The upper bound for some successes is one less the lower bound for as many failures. -/
theorem approximateUpperBoundOnP_eq (positive : ∀ x, 0 < library.exp x)
    (inverse : ∀ x, library.exp (-x) * library.exp x = 1) {n k : ℕ} (le : k ≤ n) (numStdDevs : F) :
    approximateUpperBoundOnP library n k numStdDevs =
      (1 - ·) <$> approximateLowerBoundOnP library n (n - k) numStdDevs := by
  have inputs : checkInputs n k = .ok () := if_neg (not_lt.mpr le)
  have mirrored : checkInputs n (n - k) = .ok () := if_neg (not_lt.mpr (Nat.sub_le n k))
  simp only [approximateUpperBoundOnP, approximateLowerBoundOnP, inputs, mirrored, Run.ok_bind]
  by_cases none_tried : n = 0
  · simp [none_tried]
  by_cases all : k = n
  · simp [all]
  have some_failed : n - k ≠ 0 := by omega
  simp only [if_neg none_tried, if_neg all, if_neg some_failed]
  by_cases one_failed : k = n - 1
  · have one : n - k = 1 := by omega
    simp only [if_pos one_failed, if_pos one]
    exact congrArg Except.ok (sub_sub_cancel 1 _).symm
  have more_failed : n - k ≠ 1 := by omega
  simp only [if_neg one_failed, if_neg more_failed]
  by_cases none_passed : k = 0
  · have all_failed : n - k = n := by omega
    simp only [if_pos none_passed, if_pos all_failed]
    rfl
  have some_passed : n - k ≠ n := by omega
  have back : n - (n - k) = k := by omega
  have failed : (0 : F) < (n - k : ℕ) := by exact_mod_cast Nat.pos_of_ne_zero some_failed
  have passed : (0 : F) < k + 1 := by positivity
  simp only [if_neg none_passed, if_neg some_passed, back,
    abramowitzStegun_mirror positive inverse failed passed]
  exact congrArg Except.ok (congrArg (1 - ·) (sub_sub_cancel 1 _).symm)

end Mirror

/-! Real numbers. -/

noncomputable def realLibrary : MathLibrary ℝ := ⟨Real.sqrt, Real.exp, Real.rpow⟩

section Real

theorem erfOfNonneg_unit {x : ℝ} (nonneg : 0 ≤ x) : 0 ≤ erfOfNonneg x ∧ erfOfNonneg x ≤ 1 := by
  simp only [erfOfNonneg]
  generalize summed : 1 + 0.0705230784 * x + 0.0422820123 * x ^ 2 + 0.0092705272 * x ^ 3
    + 0.0001520143 * x ^ 4 + 0.0002765672 * x ^ 5 + 0.0000430638 * x ^ 6 = sum
  have large : 1 ≤ sum := by
    have rest : 0 ≤ 0.0705230784 * x + 0.0422820123 * x ^ 2 + 0.0092705272 * x ^ 3
      + 0.0001520143 * x ^ 4 + 0.0002765672 * x ^ 5 + 0.0000430638 * x ^ 6 := by positivity
    linarith
  have larger : 1 ≤ sum ^ 16 := one_le_pow₀ large
  have share : 1 / sum ^ 16 ≤ 1 := (div_le_one (by linarith)).mpr larger
  have some_share : 0 ≤ 1 / sum ^ 16 := by positivity
  constructor <;> linarith

theorem erf_neg {x : ℝ} (nonneg : 0 ≤ x) : erf (-1 * x) = -erfOfNonneg x := by
  rcases nonneg.eq_or_lt with rfl | positive
  · norm_num [erf, erfOfNonneg]
  · have flip : -1 * (-1 * x) = x := by ring
    rw [erf, if_pos (by linarith), flip, neg_one_mul]

theorem deltaOfNumStdevs_half {kappa : ℝ} (nonneg : 0 ≤ kappa) :
    0 ≤ deltaOfNumStdevs realLibrary kappa ∧ deltaOfNumStdevs realLibrary kappa ≤ 1 / 2 := by
  have scaled : 0 ≤ kappa / √2 := by positivity
  obtain ⟨low, high⟩ := erfOfNonneg_unit scaled
  have delta : deltaOfNumStdevs realLibrary kappa = 0.5 * (1 + erf (-1 * (kappa / √2))) := by
    rw [← mul_div_assoc]
    rfl
  rw [delta, erf_neg scaled]
  constructor <;> linarith

theorem exp_mul_le {m w : ℝ} (positive : 0 < m) (below : w ≤ 1 / (2 * m + 1)) :
    Real.exp (2 * w) * m ≤ m + 1 := by
  have series := Real.hasSum_log_one_add_inv positive
  have first : 2 * (1 / (2 * m + 1)) ≤ Real.log (1 + m⁻¹) := by
    have term := le_hasSum series 0 fun i _ => by positivity
    simpa using term
  have power : Real.exp (2 * w) ≤ 1 + m⁻¹ := by
    rw [← Real.exp_log (by positivity : 0 < 1 + m⁻¹)]
    exact Real.exp_le_exp.mpr (by linarith)
  calc Real.exp (2 * w) * m ≤ (1 + m⁻¹) * m := by gcongr
    _ = m + 1 := by field_simp

/-- The exponent of the formula below the mean, in terms of the inverses of `a2m1` and `b2m1`. -/
theorem exponent_le {u v kappa : ℝ} (someU : 0 < u) (someV : 0 < v) (u_le : u ≤ 1 / 3) (v_le : v ≤ 1 / 3)
    (nonneg : 0 ≤ kappa) :
    -1 * kappa * √(2 / (u + v) + (-1 * kappa * (-1 * kappa) - 3) / 6) / (2 / (u + v))
      - (v - u) * ((-1 * kappa * (-1 * kappa) - 3) / 6 + 5 / 6 - 2 / (3 * (2 / (u + v)))) ≤ u := by
  have root : kappa / 3 ≤ √(2 / (u + v) + (-1 * kappa * (-1 * kappa) - 3) / 6) := by
    have harmonic : 3 ≤ 2 / (u + v) := by
      rw [le_div_iff₀ (by positivity)]
      linarith
    refine Real.le_sqrt_of_sq_le ?_
    nlinarith [sq_nonneg kappa]
  generalize √(2 / (u + v) + (-1 * kappa * (-1 * kappa) - 3) / 6) = r at root ⊢
  have shape : -1 * kappa * r / (2 / (u + v))
      - (v - u) * ((-1 * kappa * (-1 * kappa) - 3) / 6 + 5 / 6 - 2 / (3 * (2 / (u + v)))) =
      (u - v) * kappa ^ 2 / 6 - kappa * r * (u + v) / 2 + (u - v) * (1 - (u + v)) / 3 := by
    field_simp
    ring
  rw [shape]
  have deviation : (u - v) * kappa ^ 2 / 6 ≤ kappa * r * (u + v) / 2 := by
    calc (u - v) * kappa ^ 2 / 6 ≤ (u + v) * kappa ^ 2 / 6 := by gcongr; linarith
      _ = kappa * (kappa / 3) * (u + v) / 2 := by ring
      _ ≤ kappa * r * (u + v) / 2 := by gcongr
  have skew : (u - v) * (1 - (u + v)) / 3 ≤ u := by
    have rest : 0 ≤ 1 - (u + v) := by linarith
    calc (u - v) * (1 - (u + v)) / 3 ≤ u * (1 - (u + v)) / 3 := by gcongr; linarith
      _ ≤ u * 1 / 3 := by gcongr; linarith
      _ ≤ u := by linarith
  linarith

theorem abramowitzStegun_real {failed passed kappa : ℝ} (some_failed : 1 ≤ failed) (more_passed : 2 ≤ passed)
    (nonneg : 0 ≤ kappa) :
    failed / (failed + passed) ≤
        abramowitzStegunFormula26p5p22 realLibrary (failed + 1) passed (-1 * kappa) ∧
      abramowitzStegunFormula26p5p22 realLibrary (failed + 1) passed (-1 * kappa) ≤ 1 := by
  have same : 2 * (failed + 1) - 1 = 2 * failed + 1 := by ring
  have exponent := @exponent_le (1 / (2 * failed + 1)) (1 / (2 * passed - 1)) kappa (by positivity)
    (one_div_pos.mpr (by linarith)) (one_div_le_one_div_of_le (by norm_num) (by linarith))
    (one_div_le_one_div_of_le (by norm_num) (by linarith)) nonneg
  obtain ⟨w, formula, below⟩ : ∃ w,
      abramowitzStegunFormula26p5p22 realLibrary (failed + 1) passed (-1 * kappa) =
        (failed + 1) / (failed + 1 + passed * Real.exp (2 * w)) ∧ w ≤ 1 / (2 * failed + 1) := by
    simp only [abramowitzStegunFormula26p5p22, same]
    exact ⟨_, rfl, exponent⟩
  have power := exp_mul_le (by linarith) below
  have some_power := Real.exp_pos (2 * w)
  rw [formula, div_le_div_iff₀ (by linarith) (by positivity), div_le_one (by positivity)]
  constructor
  · calc failed * (failed + 1 + passed * Real.exp (2 * w))
        = failed * (failed + 1) + passed * (Real.exp (2 * w) * failed) := by ring
      _ ≤ failed * (failed + 1) + passed * (failed + 1) := by gcongr
      _ = (failed + 1) * (failed + passed) := by ring
  · have : 0 ≤ passed * Real.exp (2 * w) := by positivity
    linarith

theorem exactLowerBound_real {n : ℕ} (tried : n ≠ 0) {delta : ℝ} (nonneg : 0 ≤ delta)
    (half : delta ≤ 1 / 2) :
    0 ≤ exactLowerBoundOnPKEq1 realLibrary n delta ∧
      exactLowerBoundOnPKEq1 realLibrary n delta ≤ 1 / n := by
  have large : (1 : ℝ) ≤ n := by exact_mod_cast Nat.one_le_iff_ne_zero.mpr tried
  have share : (1 : ℝ) / n ≤ 1 := (div_le_one (by linarith)).mpr large
  -- After `n` trials with chance `1 / n` at most half of the chance for none is left.
  have missed : (1 - 1 / n : ℝ) ^ n ≤ 1 - delta := by
    calc (1 - 1 / n : ℝ) ^ n ≤ Real.exp (-(1 / n)) ^ n := by
          refine pow_le_pow_left₀ (by linarith) ?_ n
          linarith [Real.add_one_le_exp (-(1 / (n : ℝ)))]
      _ = Real.exp (-1) := by
          rw [← Real.exp_nat_mul]
          congr 1
          field_simp
      _ ≤ 1 / 2 := by linarith [Real.exp_neg_one_lt_d9]
      _ ≤ 1 - delta := by linarith
  have root : 1 - 1 / (n : ℝ) ≤ (1 - delta) ^ (1 / (n : ℝ)) := by
    calc 1 - 1 / (n : ℝ) = ((1 - 1 / (n : ℝ)) ^ n) ^ (1 / (n : ℝ)) := by
          rw [one_div, Real.pow_rpow_inv_natCast (by rw [← one_div]; linarith) tried]
      _ ≤ (1 - delta) ^ (1 / (n : ℝ)) :=
          Real.rpow_le_rpow (pow_nonneg (by linarith) n) missed (by positivity)
  have below : (1 - delta) ^ (1 / (n : ℝ)) ≤ 1 :=
    Real.rpow_le_one (by linarith) (by linarith) (by positivity)
  change 0 ≤ 1 - (1 - delta) ^ (1 / (n : ℝ)) ∧ 1 - (1 - delta) ^ (1 / (n : ℝ)) ≤ 1 / n
  constructor <;> linarith

theorem failures_div {n k : ℕ} (le : k ≤ n) (tried : n ≠ 0) : ((n - k : ℕ) : ℝ) / n = 1 - k / n := by
  have some_trial : (n : ℝ) ≠ 0 := by exact_mod_cast tried
  rw [Nat.cast_sub le, sub_div, div_self some_trial]

theorem approximateLowerBoundOnP_real {n k : ℕ} (le : k ≤ n) {numStdDevs : ℝ} (nonneg : 0 ≤ numStdDevs) :
    ∃ lower, approximateLowerBoundOnP realLibrary n k numStdDevs = .ok lower ∧ 0 ≤ lower ∧
      lower ≤ k / n := by
  have inputs : checkInputs n k = .ok () := if_neg (not_lt.mpr le)
  obtain ⟨some_delta, half⟩ := deltaOfNumStdevs_half nonneg
  simp only [approximateLowerBoundOnP, inputs, Run.ok_bind]
  by_cases none_tried : n = 0
  · exact ⟨0, by rw [if_pos none_tried, Run.pure_eq], le_rfl, by positivity⟩
  rw [if_neg none_tried]
  by_cases none_passed : k = 0
  · exact ⟨0, by rw [if_pos none_passed, Run.pure_eq], le_rfl, by positivity⟩
  rw [if_neg none_passed]
  have tried : (0 : ℝ) < n := by exact_mod_cast Nat.pos_of_ne_zero none_tried
  by_cases one_passed : k = 1
  · rw [if_pos one_passed, one_passed, Nat.cast_one]
    exact ⟨_, rfl, exactLowerBound_real none_tried some_delta half⟩
  rw [if_neg one_passed]
  by_cases all_passed : k = n
  · rw [if_pos all_passed, all_passed, div_self tried.ne']
    refine ⟨_, rfl, Real.rpow_nonneg some_delta _, ?_⟩
    exact Real.rpow_le_one some_delta (half.trans (by norm_num)) (by positivity)
  rw [if_neg all_passed]
  have some_failed : (1 : ℝ) ≤ (n - k : ℕ) := by
    exact_mod_cast (by omega : 1 ≤ n - k)
  have more_passed : (2 : ℝ) ≤ k := by
    exact_mod_cast (by omega : 2 ≤ k)
  obtain ⟨large, unit⟩ := abramowitzStegun_real some_failed more_passed nonneg
  have count : ((n - k : ℕ) : ℝ) + k = n := by
    rw [Nat.cast_sub le, sub_add_cancel]
  rw [count, failures_div le none_tried] at large
  refine ⟨_, rfl, ?_, ?_⟩ <;> linarith

theorem approximateUpperBoundOnP_real {n k : ℕ} (le : k ≤ n) {numStdDevs : ℝ} (nonneg : 0 ≤ numStdDevs) :
    ∃ upper, approximateUpperBoundOnP realLibrary n k numStdDevs = .ok upper ∧
      approximateLowerBoundOnP realLibrary n (n - k) numStdDevs = .ok (1 - upper) ∧ upper ≤ 1 ∧
      1 - upper ≤ ((n - k : ℕ) : ℝ) / n := by
  have inverse : ∀ x : ℝ, realLibrary.exp (-x) * realLibrary.exp x = 1 := fun x => by
    change Real.exp (-x) * Real.exp x = 1
    rw [← Real.exp_add, neg_add_cancel, Real.exp_zero]
  obtain ⟨mirrored, mirror, unit, above⟩ := approximateLowerBoundOnP_real (Nat.sub_le n k) nonneg
  have upper := approximateUpperBoundOnP_eq Real.exp_pos inverse le numStdDevs
  rw [mirror] at upper
  exact ⟨1 - mirrored, upper, by rw [mirror, sub_sub_cancel], by linarith, by rwa [sub_sub_cancel]⟩

/-- The interval is inside the unit interval and contains the estimate. It is mirrored
when successes and failures change places. -/
theorem interval_contains {n k : ℕ} (le : k ≤ n) {numStdDevs : ℝ} (nonneg : 0 ≤ numStdDevs) :
    ∃ lower estimate upper, approximateLowerBoundOnP realLibrary n k numStdDevs = .ok lower ∧
      estimateUnknownP n k = .ok estimate ∧
      approximateUpperBoundOnP realLibrary n k numStdDevs = .ok upper ∧
      0 ≤ lower ∧ lower ≤ estimate ∧ estimate ≤ upper ∧ upper ≤ 1 ∧
      approximateLowerBoundOnP realLibrary n (n - k) numStdDevs = .ok (1 - upper) ∧
      approximateUpperBoundOnP realLibrary n (n - k) numStdDevs = .ok (1 - lower) := by
  have inputs : checkInputs n k = .ok () := if_neg (not_lt.mpr le)
  obtain ⟨lower, runLower, positive, below⟩ := approximateLowerBoundOnP_real le nonneg
  obtain ⟨upper, runUpper, mirror, unit, above⟩ := approximateUpperBoundOnP_real le nonneg
  obtain ⟨other, runOther, again, _⟩ := approximateUpperBoundOnP_real (Nat.sub_le n k) nonneg
  have same : lower = 1 - other := by
    rw [Nat.sub_sub_self le, runLower] at again
    exact Except.ok.inj again
  have estimated : ∃ estimate : ℝ, estimateUnknownP n k = .ok estimate ∧ lower ≤ estimate ∧
      estimate ≤ upper := by
    simp only [estimateUnknownP, inputs, Run.ok_bind]
    by_cases none_tried : n = 0
    · rw [none_tried, Nat.cast_zero, div_zero] at below above
      exact ⟨0.5, by rw [if_pos none_tried, Run.pure_eq], by linarith, by linarith⟩
    · rw [failures_div le none_tried] at above
      exact ⟨k / n, by rw [if_neg none_tried, Run.pure_eq], below, by linarith⟩
  obtain ⟨estimate, share, low, high⟩ := estimated
  refine ⟨lower, estimate, upper, runLower, share, runUpper, positive, low, high, unit, mirror, ?_⟩
  rw [runOther, same, sub_sub_cancel]

theorem interval_contains_two : ∃ lower estimate upper : ℝ,
    approximateLowerBoundOnP realLibrary 3 2 2 = .ok lower ∧ estimateUnknownP 3 2 = .ok estimate ∧
      approximateUpperBoundOnP realLibrary 3 2 2 = .ok upper ∧ lower ≤ estimate ∧ estimate ≤ upper := by
  obtain ⟨lower, estimate, upper, low, share, high, _, below, above, _⟩ :=
    @interval_contains 3 2 (by decide) 2 (by norm_num)
  exact ⟨lower, estimate, upper, low, share, high, below, above⟩

end Real

end BinomialProportions

end ThetaSketch
