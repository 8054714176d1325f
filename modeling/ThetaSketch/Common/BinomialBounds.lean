import ThetaSketch.Common.Exit
import ThetaSketch.Library.TailSums

/-! Error bounds for an estimate from a sample.

Doubles are taken for rationals: sums, products and comparisons are exact, and what
the mathematical library computes is left open, as are the values of the two tables
of equivalent deviations.
-/

set_option autoImplicit false

namespace ThetaSketch

open TailSums

/-- The mathematical library, the two tables and `operator<<` for doubles. -/
structure Doubles where
  log : ℚ → ℚ
  sqrt : ℚ → ℚ
  lbEquivTable : Vector ℚ 363
  ubEquivTable : Vector ℚ 363
  print : ℚ → String

namespace BinomialBounds

def deltaOfNumStdDevs : ℕ → ℚ
  | 0 => 0.5000000000000000000
  | 1 => 0.1586553191586026479
  | 2 => 0.0227502618904135701
  | _ => 0.0013498126861731796

def checkTheta (theta : ℚ) : Run Unit :=
  if theta < 0 ∨ 1 < theta then throw (.invalidArg "theta must be in [0, 1]")
  else return ()

def checkNumStdDevs (numStdDevs : ℕ) : Run Unit :=
  if numStdDevs < 1 ∨ 3 < numStdDevs then throw (.invalidArg "num_std_devs must be 1, 2 or 3")
  else return ()

def readTable (table : Vector ℚ 363) (index : ℕ) : Run ℚ :=
  if inside : index < 363 then return table[index]
  else throw (.undefined (.outOfBounds index 8))

/-! The loops over posterior probabilities. -/

structure Tail where
  curTerm : ℚ
  tot : ℚ
  m : ℕ

namespace Tail

def first (numSamples : ℕ) (p : ℚ) : Tail := ⟨p ^ numSamples, p ^ numSamples, numSamples⟩

def next (numSamples : ℕ) (q : ℚ) (tail : Tail) : Tail :=
  let curTerm := tail.curTerm * q * tail.m / ((tail.m + 1 - numSamples : ℕ) : ℚ)
  ⟨curTerm, tail.tot + curTerm, tail.m + 1⟩

theorem next_iterate (k : ℕ) (p : ℚ) (rounds : ℕ) :
    (next (k + 1) (1 - p))^[rounds] (first (k + 1) p) =
      ⟨posterior k p rounds, ∑ misses ∈ Finset.range (rounds + 1), posterior k p misses,
        k + 1 + rounds⟩ := by
  induction rounds with
  | zero => simp [first, posterior_zero]
  | succ rounds ih =>
    have steps : k + 1 + rounds + 1 - (k + 1) = rounds + 1 := by omega
    rw [Function.iterate_succ_apply', ih, next, steps, ← posterior_succ,
      Finset.sum_range_succ _ (rounds + 1)]
    rfl

theorem ends (numSamples : ℕ) {p bound : ℚ} (unit : 0 ≤ p ∧ p ≤ 1) (some_chance : 0 < p ^ numSamples)
    (below : bound < 1) :
    ∃ rounds, bound < ((next numSamples (1 - p))^[rounds] (first numSamples p)).tot := by
  cases numSamples with
  | zero => exact ⟨0, by simpa [first] using below⟩
  | succ k =>
    have positive : 0 < p := lt_of_le_of_ne unit.1 fun none_left => by
      rw [← none_left, zero_pow k.succ_ne_zero] at some_chance
      exact lt_irrefl _ some_chance
    obtain ⟨rounds, passed⟩ := exists_total_gt k positive unit.2 below
    exact ⟨rounds, by rw [next_iterate]; exact passed⟩

/-- A loop that tests its total stops after the first round whose total fails the test. -/
theorem whileLoop_spec {k : ℕ} {p : ℚ} (test : ℚ → Bool)
    (ends : ∃ rounds, test ((next (k + 1) (1 - p))^[rounds] (first (k + 1) p)).tot = false) :
    ∃ rounds, (whileLoop (fun tail => test tail.tot) (next (k + 1) (1 - p)) (first (k + 1) p) ends).m =
        k + 1 + rounds ∧
      test (∑ misses ∈ Finset.range (rounds + 1), posterior k p misses) = false ∧
      ∀ earlier < rounds, test (∑ misses ∈ Finset.range (earlier + 1), posterior k p misses) = true := by
  obtain ⟨rounds, reached, stopped, before⟩ := @whileLoop_runs Tail (fun tail => test tail.tot) _ _ ends
  rw [next_iterate] at reached stopped
  refine ⟨rounds, by rw [reached], stopped, fun earlier less => ?_⟩
  have goes := before earlier less
  rwa [next_iterate] at goes

end Tail

def smallestTerm : ℚ := 1 / 10 ^ 100

theorem smallestTerm_pos : 0 < smallestTerm := by
  unfold smallestTerm
  positivity

/-- The quotient `num_samples / p` in the first test is written as a product, so that
it is also right for `p = 0`. -/
def specialNStar (numSamples : ℕ) (p delta : ℚ) (unit : 0 ≤ p ∧ p ≤ 1) (small : delta < 1) : Run ℕ :=
  if 500 * p ≤ numSamples then throw (.invalidArg "out of range")
  else if sanity : p ^ numSamples ≤ smallestTerm then throw (.logicErr "out of range")
  else
    have ends : ∃ rounds, decide (((Tail.next numSamples (1 - p))^[rounds]
        (Tail.first numSamples p)).tot ≤ delta) = false := by
      have some_chance := smallestTerm_pos.trans (not_le.mp sanity)
      obtain ⟨rounds, passed⟩ := Tail.ends numSamples unit some_chance small
      exact ⟨rounds, decide_eq_false (not_le.mpr passed)⟩
    let tail := whileLoop (fun tail => decide (tail.tot ≤ delta)) (Tail.next numSamples (1 - p))
      (Tail.first numSamples p) ends
    return tail.m - 1

def specialNPrimeB (numSamples : ℕ) (p delta : ℚ) (unit : 0 ≤ p ∧ p ≤ 1) (positive : 0 < delta) :
    Run ℕ :=
  if sanity : p ^ numSamples ≤ smallestTerm then throw (.logicErr "out of range")
  else
    have ends : ∃ rounds, decide (((Tail.next numSamples (1 - p))^[rounds]
        (Tail.first numSamples p)).tot < 1 - delta) = false := by
      have some_chance := smallestTerm_pos.trans (not_le.mp sanity)
      obtain ⟨rounds, passed⟩ := Tail.ends numSamples unit some_chance (sub_lt_self 1 positive)
      exact ⟨rounds, decide_eq_false (not_lt.mpr passed.le)⟩
    let tail := whileLoop (fun tail => decide (tail.tot < 1 - delta)) (Tail.next numSamples (1 - p))
      (Tail.first numSamples p) ends
    return tail.m

def specialNPrimeF (numSamples : ℕ) (p delta : ℚ) (unit : 0 ≤ p ∧ p ≤ 1) (positive : 0 < delta) :
    Run ℕ :=
  if 500 * p ≤ numSamples then throw (.invalidArg "out of range")
  else specialNPrimeB (numSamples + 1) p delta unit positive

/-- The largest number of trials that leaves the samples surprising. -/
theorem specialNStar_spec {k : ℕ} {p delta : ℚ} {unit : 0 ≤ p ∧ p ≤ 1} {small : delta < 1} {n : ℕ}
    (run : specialNStar (k + 1) p delta unit small = .ok n) :
    delta < ∑ misses ∈ Finset.range (n + 1 - k), posterior k p misses ∧
      ∀ earlier < n - k, ∑ misses ∈ Finset.range (earlier + 1), posterior k p misses ≤ delta := by
  unfold specialNStar at run
  split_ifs at run
  cases run
  generalize_proofs ends
  obtain ⟨rounds, counted, stopped, before⟩ := Tail.whileLoop_spec (fun total => decide (total ≤ delta)) ends
  have last : k + 1 + rounds - 1 + 1 - k = rounds + 1 := by omega
  rw [counted, last]
  exact ⟨not_le.mp (of_decide_eq_false stopped),
    fun earlier less => of_decide_eq_true (before earlier (by omega))⟩

/-- The smallest number of trials that makes the samples nearly certain. -/
theorem specialNPrimeB_spec {k : ℕ} {p delta : ℚ} {unit : 0 ≤ p ∧ p ≤ 1} {positive : 0 < delta} {n : ℕ}
    (run : specialNPrimeB (k + 1) p delta unit positive = .ok n) :
    1 - delta ≤ ∑ misses ∈ Finset.range (n - k), posterior k p misses ∧
      ∀ fewer < n - (k + 1), ∑ misses ∈ Finset.range (fewer + 1), posterior k p misses < 1 - delta := by
  unfold specialNPrimeB at run
  split_ifs at run
  cases run
  generalize_proofs ends
  obtain ⟨rounds, counted, stopped, before⟩ := Tail.whileLoop_spec (fun total => decide (total < 1 - delta)) ends
  have last : k + 1 + rounds - k = rounds + 1 := by omega
  rw [counted, last]
  exact ⟨not_lt.mp (of_decide_eq_false stopped),
    fun fewer less => of_decide_eq_true (before fewer (by omega))⟩

theorem deltaOfNumStdDevs_pos (numStdDevs : ℕ) : 0 < deltaOfNumStdDevs numStdDevs := by
  unfold deltaOfNumStdDevs
  split <;> norm_num

theorem deltaOfNumStdDevs_lt_one (numStdDevs : ℕ) : deltaOfNumStdDevs numStdDevs < 1 := by
  unfold deltaOfNumStdDevs
  split <;> norm_num

/-! The bounds. -/

section Bounds

variable (doubles : Doubles)

def contClassicLb (numSamples : ℕ) (theta numStdDevs : ℚ) : ℚ :=
  let nHat := (numSamples - 0.5) / theta
  let b := numStdDevs * doubles.sqrt ((1 - theta) / theta)
  let d := 0.5 * b * doubles.sqrt (b * b + 4 * nHat)
  let center := nHat + 0.5 * (b * b)
  center - d

def contClassicUb (numSamples : ℕ) (theta numStdDevs : ℚ) : ℚ :=
  let nHat := (numSamples + 0.5) / theta
  let b := numStdDevs * doubles.sqrt ((1 - theta) / theta)
  let d := 0.5 * b * doubles.sqrt (b * b + 4 * nHat)
  let center := nHat + 0.5 * (b * b)
  center + d

def computeApproxBinomialLowerBound (numSamples : ℕ) (theta : ℚ) (numStdDevs : ℕ)
    (unit : 0 ≤ theta ∧ theta ≤ 1) : Run ℚ :=
  let delta := deltaOfNumStdDevs numStdDevs
  if theta = 1 then return numSamples
  else if numSamples = 0 then return 0
  else if numSamples = 1 then return ⌊doubles.log (1 - delta) / doubles.log (1 - theta)⌋
  else if 120 < numSamples then return contClassicLb doubles numSamples theta numStdDevs - 0.5
  else if 1 - 1e-5 < theta then return numSamples
  else if theta < numSamples / 360 then do
    let equivalent ← readTable doubles.lbEquivTable (3 * numSamples + (numStdDevs - 1))
    return contClassicLb doubles numSamples theta equivalent - 0.5
  else do
    let n ← specialNStar numSamples theta delta unit (deltaOfNumStdDevs_lt_one numStdDevs)
    return n

def computeApproxBinomialUpperBound (numSamples : ℕ) (theta : ℚ) (numStdDevs : ℕ)
    (unit : 0 ≤ theta ∧ theta ≤ 1) : Run ℚ :=
  let delta := deltaOfNumStdDevs numStdDevs
  if theta = 1 then return numSamples
  else if numSamples = 0 then return ⌈doubles.log delta / doubles.log (1 - theta)⌉
  else if 120 < numSamples then return contClassicUb doubles numSamples theta numStdDevs + 0.5
  else if 1 - 1e-5 < theta then return (numSamples + 1 : ℕ)
  else if theta < numSamples / 360 then do
    let equivalent ← readTable doubles.ubEquivTable (3 * numSamples + (numStdDevs - 1))
    return contClassicUb doubles numSamples theta equivalent + 0.5
  else do
    let n ← specialNPrimeF numSamples theta delta unit (deltaOfNumStdDevs_pos numStdDevs)
    return n

theorem unit_of_checkTheta {theta : ℚ} (passed : checkTheta theta = .ok ()) :
    0 ≤ theta ∧ theta ≤ 1 := by
  by_cases outside : theta < 0 ∨ 1 < theta
  · rw [checkTheta, if_pos outside] at passed
    cases passed
  · push Not at outside
    exact outside

def getLowerBound (numSamples : ℕ) (theta : ℚ) (numStdDevs : ℕ) : Run ℚ :=
  match passed : checkTheta theta with
  | .error exit => .error exit
  | .ok () => do
    checkNumStdDevs numStdDevs
    let estimate := numSamples / theta
    let lb ← computeApproxBinomialLowerBound doubles numSamples theta numStdDevs
      (unit_of_checkTheta passed)
    return min estimate (max numSamples lb)

def getUpperBound (numSamples : ℕ) (theta : ℚ) (numStdDevs : ℕ) : Run ℚ :=
  match passed : checkTheta theta with
  | .error exit => .error exit
  | .ok () => do
    checkNumStdDevs numStdDevs
    let estimate := numSamples / theta
    let ub ← computeApproxBinomialUpperBound doubles numSamples theta numStdDevs
      (unit_of_checkTheta passed)
    return max estimate ub

/-! None of the checks fails for a chance between zero and one. -/

theorem power_gt {numSamples : ℕ} {theta : ℚ} (some_sample : 1 ≤ numSamples)
    (atMost : numSamples ≤ 120) (large : (numSamples : ℚ) / 360 ≤ theta) :
    smallestTerm < theta ^ (numSamples + 1) := by
  have table : ∀ n < 121, 1 ≤ n → 360 ^ (n + 1) < n ^ (n + 1) * 10 ^ 100 := by decide +kernel
  have counted : (360 : ℚ) ^ (numSamples + 1) < (numSamples : ℚ) ^ (numSamples + 1) * 10 ^ 100 := by
    exact_mod_cast table numSamples (by omega) some_sample
  calc smallestTerm < ((numSamples : ℚ) / 360) ^ (numSamples + 1) := by
        rw [smallestTerm, div_pow, div_lt_div_iff₀ (by positivity) (by positivity), one_mul]
        exact counted
    _ ≤ theta ^ (numSamples + 1) := pow_le_pow_left₀ (by positivity) large _

theorem not_out_of_range {numSamples : ℕ} {theta : ℚ} (some_sample : 1 ≤ numSamples)
    (large : (numSamples : ℚ) / 360 ≤ theta) : ¬ 500 * theta ≤ numSamples := by
  have positive : (0 : ℚ) < numSamples := by exact_mod_cast (by omega : 0 < numSamples)
  have scaled : (numSamples : ℚ) ≤ 360 * theta := by linarith
  linarith

theorem specialNStar_returns {numSamples : ℕ} {theta delta : ℚ} (some_sample : 1 ≤ numSamples)
    (atMost : numSamples ≤ 120) (large : (numSamples : ℚ) / 360 ≤ theta) (unit : 0 ≤ theta ∧ theta ≤ 1)
    (small : delta < 1) : ∃ n, specialNStar numSamples theta delta unit small = .ok n := by
  have enough : smallestTerm < theta ^ numSamples :=
    (power_gt some_sample atMost large).trans_le (pow_le_pow_of_le_one unit.1 unit.2 (Nat.le_succ _))
  rw [specialNStar, if_neg (not_out_of_range some_sample large), dif_neg (not_le.mpr enough)]
  exact ⟨_, rfl⟩

theorem specialNPrimeF_returns {numSamples : ℕ} {theta delta : ℚ} (some_sample : 1 ≤ numSamples)
    (atMost : numSamples ≤ 120) (large : (numSamples : ℚ) / 360 ≤ theta) (unit : 0 ≤ theta ∧ theta ≤ 1)
    (positive : 0 < delta) : ∃ n, specialNPrimeF numSamples theta delta unit positive = .ok n := by
  have enough := power_gt some_sample atMost large
  rw [specialNPrimeF, if_neg (not_out_of_range some_sample large), specialNPrimeB, dif_neg (not_le.mpr enough)]
  exact ⟨_, rfl⟩

/-- The tables have a row for each number of samples up to 120. -/
theorem readTable_returns (table : Vector ℚ 363) {numSamples numStdDevs : ℕ}
    (atMost : numSamples ≤ 120) (devs : 1 ≤ numStdDevs ∧ numStdDevs ≤ 3) :
    ∃ value, readTable table (3 * numSamples + (numStdDevs - 1)) = .ok value := by
  rw [readTable, dif_pos (by omega)]
  exact ⟨_, rfl⟩

theorem ite_returns {A : Type} {chosen : Prop} [Decidable chosen] {first second : Run A}
    (yes : ∃ value, first = .ok value) (no : ¬ chosen → ∃ value, second = .ok value) :
    ∃ value, (if chosen then first else second) = .ok value := by
  split_ifs with known
  · exact yes
  · exact no known

theorem fewSamples_returns (table : Vector ℚ 363) (classic : ℚ → ℚ) {loop : Run ℕ} {numSamples numStdDevs : ℕ}
    {theta : ℚ} (atMost : numSamples ≤ 120) (devs : 1 ≤ numStdDevs ∧ numStdDevs ≤ 3)
    (ends : (numSamples : ℚ) / 360 ≤ theta → ∃ n, loop = .ok n) :
    ∃ bound : ℚ, (if theta < numSamples / 360 then do
        let equivalent ← readTable table (3 * numSamples + (numStdDevs - 1))
        return classic equivalent
      else do
        let n ← loop
        return n) = .ok bound := by
  refine ite_returns ?_ fun large => ?_
  · obtain ⟨value, read⟩ := readTable_returns table atMost devs
    rw [read]
    exact ⟨_, rfl⟩
  · obtain ⟨n, exact_bound⟩ := ends (not_lt.mp large)
    rw [exact_bound]
    exact ⟨_, rfl⟩

theorem computeApproxBinomialLowerBound_returns (numSamples : ℕ) {theta : ℚ} {numStdDevs : ℕ}
    (unit : 0 ≤ theta ∧ theta ≤ 1) (devs : 1 ≤ numStdDevs ∧ numStdDevs ≤ 3) :
    ∃ bound, computeApproxBinomialLowerBound doubles numSamples theta numStdDevs unit = .ok bound := by
  refine ite_returns ⟨_, rfl⟩ fun _ => ite_returns ⟨_, rfl⟩ fun none_left => ite_returns ⟨_, rfl⟩ fun _ =>
    ite_returns ⟨_, rfl⟩ fun many => ite_returns ⟨_, rfl⟩ fun _ => ?_
  exact fewSamples_returns _ _ (not_lt.mp many) devs fun large =>
    specialNStar_returns (by omega) (not_lt.mp many) large unit (deltaOfNumStdDevs_lt_one numStdDevs)

theorem computeApproxBinomialUpperBound_returns (numSamples : ℕ) {theta : ℚ} {numStdDevs : ℕ}
    (unit : 0 ≤ theta ∧ theta ≤ 1) (devs : 1 ≤ numStdDevs ∧ numStdDevs ≤ 3) :
    ∃ bound, computeApproxBinomialUpperBound doubles numSamples theta numStdDevs unit = .ok bound := by
  refine ite_returns ⟨_, rfl⟩ fun _ => ite_returns ⟨_, rfl⟩ fun none_left => ite_returns ⟨_, rfl⟩ fun many =>
    ite_returns ⟨_, rfl⟩ fun _ => ?_
  exact fewSamples_returns _ _ (not_lt.mp many) devs fun large =>
    specialNPrimeF_returns (by omega) (not_lt.mp many) large unit (deltaOfNumStdDevs_pos numStdDevs)

theorem checkTheta_returns {theta : ℚ} (unit : 0 ≤ theta ∧ theta ≤ 1) : checkTheta theta = .ok () := by
  rw [checkTheta, if_neg (by push Not; exact unit)]
  rfl

theorem checkNumStdDevs_returns {numStdDevs : ℕ} (devs : 1 ≤ numStdDevs ∧ numStdDevs ≤ 3) :
    checkNumStdDevs numStdDevs = .ok () := by
  rw [checkNumStdDevs, if_neg (by omega)]
  rfl

theorem getLowerBound_checked (numSamples : ℕ) {theta : ℚ} {numStdDevs : ℕ}
    (unit : 0 ≤ theta ∧ theta ≤ 1) (devs : 1 ≤ numStdDevs ∧ numStdDevs ≤ 3) :
    getLowerBound doubles numSamples theta numStdDevs = (do
      let lb ← computeApproxBinomialLowerBound doubles numSamples theta numStdDevs unit
      return min (numSamples / theta) (max numSamples lb)) := by
  unfold getLowerBound
  split
  next exit failed => rw [checkTheta_returns unit] at failed; cases failed
  next passed => rw [checkNumStdDevs_returns devs, Run.ok_bind]

theorem getUpperBound_checked (numSamples : ℕ) {theta : ℚ} {numStdDevs : ℕ}
    (unit : 0 ≤ theta ∧ theta ≤ 1) (devs : 1 ≤ numStdDevs ∧ numStdDevs ≤ 3) :
    getUpperBound doubles numSamples theta numStdDevs = (do
      let ub ← computeApproxBinomialUpperBound doubles numSamples theta numStdDevs unit
      return max (numSamples / theta) ub) := by
  unfold getUpperBound
  split
  next exit failed => rw [checkTheta_returns unit] at failed; cases failed
  next passed => rw [checkNumStdDevs_returns devs, Run.ok_bind]

theorem getLowerBound_returns (numSamples : ℕ) {theta : ℚ} {numStdDevs : ℕ}
    (unit : 0 ≤ theta ∧ theta ≤ 1) (devs : 1 ≤ numStdDevs ∧ numStdDevs ≤ 3) :
    ∃ bound, getLowerBound doubles numSamples theta numStdDevs = .ok bound := by
  obtain ⟨lb, computed⟩ := computeApproxBinomialLowerBound_returns doubles numSamples unit devs
  rw [getLowerBound_checked doubles numSamples unit devs, computed]
  exact ⟨_, rfl⟩

theorem getUpperBound_returns (numSamples : ℕ) {theta : ℚ} {numStdDevs : ℕ}
    (unit : 0 ≤ theta ∧ theta ≤ 1) (devs : 1 ≤ numStdDevs ∧ numStdDevs ≤ 3) :
    ∃ bound, getUpperBound doubles numSamples theta numStdDevs = .ok bound := by
  obtain ⟨ub, computed⟩ := computeApproxBinomialUpperBound_returns doubles numSamples unit devs
  rw [getUpperBound_checked doubles numSamples unit devs, computed]
  exact ⟨_, rfl⟩

end Bounds

end BinomialBounds

end ThetaSketch
