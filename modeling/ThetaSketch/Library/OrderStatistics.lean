import Mathlib.Algebra.BigOperators.Field
import Mathlib.Algebra.Order.BigOperators.Ring.Finset
import Mathlib.Data.Nat.Choose.Cast
import Mathlib.Data.Nat.Choose.Sum
import Mathlib.Data.Rat.Cast.Order
import Mathlib.Tactic.FieldSimp
import Mathlib.Tactic.Linarith
import Mathlib.Tactic.Positivity
import Mathlib.Tactic.Ring
import ThetaSketch.Library.Threshold

/-! How densely the members of a random set lie below one of them.

Among all sets of `n` numbers below `N`, take the members off from the top. The
number of members that are left, over the bound that they lie below, stays the same on
average. So it seldom strays from `n / N` by much, at whatever members one looks.
-/

set_option autoImplicit false

namespace OrderStatistics

open Threshold

def part (r j x : ℕ) : ℚ := j.choose r / x.choose r

/-- The sum of `value` over all sets of `k + steps` numbers below `top`, each taken at the
member that is taken off last, when `k` members are left. -/
def peel (value : ℕ → ℚ) (k : ℕ) : ℕ → ℕ → ℚ
  | 0, top => top.choose k * value top
  | steps + 1, top => ∑ y ∈ Finset.range top, peel value k steps y

section Peel

variable {v w : ℕ → ℚ} {k steps top : ℕ}

theorem peel_mono (below : ∀ x, k ≤ x → x ≤ top → v x ≤ w x) :
    peel v k steps top ≤ peel w k steps top := by
  induction steps generalizing top with
  | zero =>
    rcases Nat.lt_or_ge top k with few | enough
    · simp [peel, Nat.choose_eq_zero_of_lt few]
    · exact mul_le_mul_of_nonneg_left (below top enough le_rfl) (Nat.cast_nonneg _)
  | succ steps ih =>
    refine Finset.sum_le_sum fun y inside => ih fun x enough lower => below x enough ?_
    exact lower.trans (Finset.mem_range.mp inside).le

theorem peel_add : peel (fun x => v x + w x) k steps top = peel v k steps top + peel w k steps top := by
  induction steps generalizing top with
  | zero => exact mul_add _ _ _
  | succ steps ih =>
    rw [peel, peel, peel, ← Finset.sum_add_distrib]
    exact Finset.sum_congr rfl fun y _ => ih

theorem peel_mul (c : ℚ) : peel (fun x => c * v x) k steps top = c * peel v k steps top := by
  induction steps generalizing top with
  | zero => exact mul_left_comm _ _ _
  | succ steps ih =>
    rw [peel, peel, Finset.mul_sum]
    exact Finset.sum_congr rfl fun y _ => ih

end Peel

/-! Averages. -/

theorem choose_mul_part {r j x : ℕ} (inside : r ≤ j) (enough : r ≤ x) :
    (x.choose j : ℚ) * part r j x = (x - r).choose (j - r) := by
  have some_set : (x.choose r : ℚ) ≠ 0 := Nat.cast_ne_zero.mpr (Nat.choose_pos enough).ne'
  rw [part, mul_div_assoc', div_eq_iff some_set, mul_comm ((x - r).choose (j - r) : ℚ)]
  exact_mod_cast Nat.choose_mul inside

/-- Taking off the largest member does not change the part on average. -/
theorem sum_choose_mul_part {r j : ℕ} (inside : r ≤ j) (top : ℕ) :
    ∑ y ∈ Finset.range top, (y.choose j : ℚ) * part r j y = top.choose (j + 1) * part r (j + 1) top := by
  induction top with
  | zero => simp
  | succ top ih =>
    rw [Finset.sum_range_succ, ih]
    rcases Nat.lt_or_ge top r with few | enough
    · rw [Nat.choose_eq_zero_of_lt (few.trans_le inside), Nat.choose_eq_zero_of_lt (by omega),
        Nat.choose_eq_zero_of_lt (by omega)]
      simp
    · have next : r ≤ j + 1 := inside.trans (Nat.le_succ j)
      rw [choose_mul_part inside enough, choose_mul_part next enough,
        choose_mul_part next (enough.trans (Nat.le_succ top)), Nat.succ_sub inside, Nat.succ_sub enough,
        Nat.choose_succ_succ]
      push_cast
      ring

theorem peel_part {r k : ℕ} (inside : r ≤ k) (steps top : ℕ) :
    peel (part r k) k steps top = top.choose (k + steps) * part r (k + steps) top := by
  induction steps generalizing top with
  | zero => rfl
  | succ steps ih =>
    rw [peel, Finset.sum_congr rfl fun y _ => ih y]
    exact sum_choose_mul_part (inside.trans (Nat.le_add_right k steps)) top

theorem peel_ratio {k : ℕ} (positive : 1 ≤ k) (steps top : ℕ) :
    peel (fun x => k / x) k steps top = top.choose (k + steps) * ((k + steps : ℕ) / top) := by
  have one : ∀ j x : ℕ, part 1 j x = j / x := fun j x => by simp [part]
  have average := peel_part positive steps top
  rw [one] at average
  rw [← average]
  exact congrArg (peel · k steps top) (funext fun x => (one k x).symm)

theorem peel_const (c : ℚ) (k steps top : ℕ) :
    peel (fun _ => c) k steps top = top.choose (k + steps) * c := by
  have one : ∀ j x : ℕ, part 0 j x = 1 := fun j x => by simp [part]
  have count := peel_part (Nat.zero_le k) steps top
  rw [one, mul_one] at count
  have scaled := @peel_mul (part 0 k) k steps top c
  rw [count, mul_comm] at scaled
  rw [← scaled]
  exact congrArg (peel · k steps top) (funext fun x => by rw [one, mul_one])

theorem peel_sq_sub {k : ℕ} (positive : 1 ≤ k) (p : ℚ) (steps top : ℕ) :
    peel (fun x => (k / x - p) ^ 2) k steps top =
      peel (fun x => (k / x) ^ 2) k steps top -
        top.choose (k + steps) * (2 * p * ((k + steps : ℕ) / top) - p ^ 2) := by
  have expand : (fun x : ℕ => ((k : ℚ) / x - p) ^ 2) =
      fun x : ℕ => (k / x) ^ 2 + ((-(2 * p)) * (k / x) + p ^ 2) := funext fun x => by ring
  rw [expand, peel_add, peel_add, peel_mul, peel_ratio positive, peel_const]
  ring

theorem choose_mul_sq_le_peel {k : ℕ} (positive : 1 ≤ k) (p : ℚ) (steps top : ℕ) :
    (top.choose (k + steps) : ℚ) * ((k + steps : ℕ) / top - p) ^ 2 ≤
      peel (fun x => (k / x - p) ^ 2) k steps top := by
  have spread : 0 ≤ peel (fun x => ((k : ℚ) / x - (k + steps : ℕ) / top) ^ 2) k steps top := by
    have zero := peel_const 0 k steps top
    rw [mul_zero] at zero
    rw [← zero]
    exact peel_mono fun x _ _ => sq_nonneg _
  rw [peel_sq_sub positive] at spread ⊢
  linarith [spread]

theorem part_two {j x : ℕ} (pair : 2 ≤ x) : part 2 j x = j * (j - 1) / (x * (x - 1)) := by
  have some_pair : (x : ℚ) * (x - 1) ≠ 0 := by
    have large : (2 : ℚ) ≤ x := by exact_mod_cast pair
    nlinarith
  rw [part, Nat.cast_choose_two, Nat.cast_choose_two, div_div_div_cancel_right₀ two_ne_zero]

theorem part_two_le {n top : ℕ} (pair : 2 ≤ n) (fits : n ≤ top) : part 2 n top ≤ (n / top) ^ 2 := by
  have large : (2 : ℚ) ≤ n := by exact_mod_cast pair
  have below : (n : ℚ) ≤ top := by exact_mod_cast fits
  have positive : (0 : ℚ) < top := by linarith
  have left_out : 0 ≤ (n : ℚ) * top * (top - n) := by
    have apart := sub_nonneg.mpr below
    positivity
  rw [part_two (pair.trans fits), div_pow, div_le_div_iff₀ (mul_pos positive (by linarith)) (by positivity)]
  linarith

theorem sq_mul_le_part {k x : ℕ} (pair : 2 ≤ k) (enough : k ≤ x) :
    ((k : ℚ) - 1) * (k / x) ^ 2 ≤ k * part 2 k x := by
  have large : (2 : ℚ) ≤ k := by exact_mod_cast pair
  have below : (k : ℚ) ≤ x := by exact_mod_cast enough
  have scale : (0 : ℚ) ≤ k * k * (k - 1) := by
    have one := sub_nonneg.mpr (one_le_two.trans large)
    positivity
  calc ((k : ℚ) - 1) * (k / x) ^ 2 = k * k * (k - 1) / (x * x) := by ring
    _ ≤ k * k * (k - 1) / (x * (x - 1)) := by
      have lower : (0 : ℚ) < x * (x - 1) := mul_pos (by linarith) (by linarith)
      exact div_le_div_of_nonneg_left scale lower (by nlinarith)
    _ = k * part 2 k x := by
      rw [part_two (pair.trans enough)]
      ring

theorem peel_spread {k n top : ℕ} (pair : 2 ≤ k) (enough : k ≤ n) (fits : n ≤ top) :
    ((k : ℚ) - 1) * peel (fun x => (k / x - n / top) ^ 2) k (n - k) top ≤
      top.choose n * (n / top) ^ 2 := by
  have steps : k + (n - k) = n := Nat.add_sub_cancel' enough
  have squares := @peel_mono (fun x => ((k : ℚ) - 1) * (k / x) ^ 2) (fun x => k * part 2 k x) k (n - k) top
    fun x enough _ => sq_mul_le_part pair enough
  rw [peel_mul, peel_mul, peel_part pair, steps] at squares
  have scale : (0 : ℚ) ≤ k * top.choose n := by positivity
  have pairs := mul_le_mul_of_nonneg_left (part_two_le (pair.trans enough) fits) scale
  rw [peel_sq_sub (by omega), steps]
  linarith

/-! Sets that stray. -/

/-- Somewhere with at least `k` members below it, the set is not as dense as it should be. -/
def Strays (k : ℕ) (p t : ℚ) (L : Finset ℕ) : Prop :=
  ∃ y ∈ L, k ≤ (sample L y).card ∧ t ≤ |((sample L y).card : ℚ) / y - p|

instance (k : ℕ) (p t : ℚ) : DecidablePred (Strays k p t) := fun L =>
  inferInstanceAs (Decidable (∃ y ∈ L, k ≤ (sample L y).card ∧ t ≤ |((sample L y).card : ℚ) / y - p|))

theorem sum_powersetCard_range (f : Finset ℕ → ℚ) (j top : ℕ) :
    ∑ L ∈ (Finset.range top).powersetCard (j + 1), f L =
      ∑ y ∈ Finset.range top, ∑ L ∈ (Finset.range y).powersetCard j, f (insert y L) := by
  induction top with
  | zero => rw [Finset.range_zero, Finset.powersetCard_eq_empty.mpr (by simp)]; rfl
  | succ top ih =>
    have outside : ∀ L ∈ (Finset.range top).powersetCard j, top ∉ L := fun L member inside =>
      Finset.notMem_range_self ((Finset.mem_powersetCard.mp member).1 inside)
    have apart : Disjoint ((Finset.range top).powersetCard (j + 1))
        (((Finset.range top).powersetCard j).image (insert top)) := by
      rw [Finset.disjoint_right]
      intro L image member
      obtain ⟨_, _, rfl⟩ := Finset.mem_image.mp image
      exact Finset.notMem_range_self ((Finset.mem_powersetCard.mp member).1 (Finset.mem_insert_self _ _))
    rw [Finset.sum_range_succ, ← ih, Finset.range_add_one,
      Finset.powersetCard_succ_insert Finset.notMem_range_self, Finset.sum_union apart,
      Finset.sum_image fun L member M memberToo same => ?_]
    rw [← Finset.erase_insert (outside L member), same, Finset.erase_insert (outside M memberToo)]

section Strays

variable {k j y top : ℕ} {p t : ℚ} {L : Finset ℕ}

theorem sample_insert_self (below : L ⊆ Finset.range y) : sample (insert y L) y = L := by
  ext x
  rw [mem_sample, Finset.mem_insert]
  constructor
  · rintro ⟨rfl | member, lower⟩
    · exact absurd lower (lt_irrefl _)
    · exact member
  · exact fun member => ⟨.inr member, Finset.mem_range.mp (below member)⟩

theorem sample_insert_of_mem (below : L ⊆ Finset.range y) {x : ℕ} (member : x ∈ L) :
    sample (insert y L) x = sample L x := by
  have lower := Finset.mem_range.mp (below member)
  rw [sample, Finset.filter_insert, if_neg lower.not_gt]
  rfl

theorem strays_insert (inside : L ∈ (Finset.range y).powersetCard j) (enough : k ≤ j) :
    Strays k p t (insert y L) ↔ t ≤ |(j : ℚ) / y - p| ∨ Strays k p t L := by
  obtain ⟨below, count⟩ := Finset.mem_powersetCard.mp inside
  constructor
  · rintro ⟨x, member, crowded, far⟩
    rcases Finset.mem_insert.mp member with rfl | member
    · rw [sample_insert_self below, count] at far
      exact .inl far
    · rw [sample_insert_of_mem below member] at crowded far
      exact .inr ⟨x, member, crowded, far⟩
  · rintro (far | ⟨x, member, crowded, far⟩)
    · refine ⟨y, Finset.mem_insert_self _ _, ?_, ?_⟩
      · rw [sample_insert_self below, count]
        exact enough
      · rwa [sample_insert_self below, count]
    · refine ⟨x, Finset.mem_insert_of_mem member, ?_, ?_⟩
      · rwa [sample_insert_of_mem below member]
      · rwa [sample_insert_of_mem below member]

theorem not_strays_of_few (few : L.card ≤ k) : ¬ Strays k p t L := by
  rintro ⟨y, member, crowded, _⟩
  have fewer : (sample L y).card < L.card :=
    Finset.card_lt_card (Finset.filter_ssubset.mpr ⟨y, member, lt_irrefl y⟩)
  omega

theorem sq_mul_card_le_of_far (positive : 1 ≤ k) (distance : 0 ≤ t) {steps top : ℕ}
    (far : t ≤ |((k + steps : ℕ) : ℚ) / top - p|) (strays : Finset ℕ → Prop) [DecidablePred strays] :
    t ^ 2 * ∑ L ∈ (Finset.range top).powersetCard (k + steps), (if strays L then (1 : ℚ) else 0) ≤
      peel (fun x => (k / x - p) ^ 2) k steps top := by
  have square : t ^ 2 ≤ (((k + steps : ℕ) : ℚ) / top - p) ^ 2 := by
    rw [sq_le_sq, abs_of_nonneg distance]
    exact far
  have counted : ∑ L ∈ (Finset.range top).powersetCard (k + steps), (if strays L then (1 : ℚ) else 0) ≤
      top.choose (k + steps) := by
    rw [Finset.sum_boole]
    have fewer := Finset.card_filter_le ((Finset.range top).powersetCard (k + steps)) strays
    rw [Finset.card_powersetCard, Finset.card_range] at fewer
    exact_mod_cast fewer
  calc _ ≤ t ^ 2 * top.choose (k + steps) := mul_le_mul_of_nonneg_left counted (sq_nonneg t)
    _ ≤ top.choose (k + steps) * (((k + steps : ℕ) : ℚ) / top - p) ^ 2 := by
      rw [mul_comm]
      exact mul_le_mul_of_nonneg_left square (Nat.cast_nonneg _)
    _ ≤ _ := choose_mul_sq_le_peel positive p steps top

/-- Stop at the first place from the top where a set is not as dense as it should be: from
there on the squared distances can only grow on average. -/
theorem sq_mul_card_le_peel (positive : 1 ≤ k) (distance : 0 ≤ t) (steps top : ℕ) :
    t ^ 2 * ∑ L ∈ (Finset.range top).powersetCard (k + steps),
        (if t ≤ |((k + steps : ℕ) : ℚ) / top - p| ∨ Strays k p t L then (1 : ℚ) else 0) ≤
      peel (fun x => (k / x - p) ^ 2) k steps top := by
  induction steps generalizing top with
  | zero =>
    by_cases far : t ≤ |((k + 0 : ℕ) : ℚ) / top - p|
    · exact sq_mul_card_le_of_far positive distance far _
    · simp only [far, false_or]
      have none_stray : ∀ L ∈ (Finset.range top).powersetCard (k + 0), ¬ Strays k p t L :=
        fun L inside => not_strays_of_few (Finset.mem_powersetCard.mp inside).2.le
      rw [Finset.sum_congr rfl fun L inside => if_neg (none_stray L inside), Finset.sum_const_zero, mul_zero]
      exact mul_nonneg (Nat.cast_nonneg _) (sq_nonneg _)
  | succ steps ih =>
    by_cases far : t ≤ |((k + (steps + 1) : ℕ) : ℚ) / top - p|
    · exact sq_mul_card_le_of_far positive distance far _
    · simp only [far, false_or]
      rw [← Nat.add_assoc, sum_powersetCard_range, Finset.mul_sum, peel]
      refine Finset.sum_le_sum fun y _ => ?_
      rw [Finset.sum_congr rfl fun L inside => if_congr (strays_insert inside (Nat.le_add_right k steps)) rfl rfl]
      exact ih y

/-- Few sets of `n` numbers below `top` are anywhere denser or less dense than `n / top` by the
part `ε`, as far as places with `k` members below them go. -/
theorem card_strays_le {n : ℕ} {ε : ℚ} (pair : 2 ≤ k) (fits : n ≤ top) (positive : 0 < ε) :
    ((((Finset.range top).powersetCard n).filter (Strays k (n / top) (ε * (n / top)))).card : ℚ) *
      ((k - 1) * ε ^ 2) ≤ top.choose n := by
  rcases Nat.lt_or_ge n k with few | enough
  · have none_stray : ((Finset.range top).powersetCard n).filter (Strays k (n / top) (ε * (n / top))) = ∅ :=
      Finset.filter_eq_empty_iff.mpr fun L inside =>
        not_strays_of_few ((Finset.mem_powersetCard.mp inside).2.trans_le few.le)
    rw [none_stray, Finset.card_empty, Nat.cast_zero, zero_mul]
    exact Nat.cast_nonneg _
  · have steps : k + (n - k) = n := Nat.add_sub_cancel' enough
    have whole : (0 : ℚ) < n / top := by
      have some_member : 0 < n := by omega
      have some_number : 0 < top := by omega
      positivity
    have distance : 0 ≤ ε * ((n : ℚ) / top) := by positivity
    have stopped := @sq_mul_card_le_peel k (n / top) _ (by omega) distance (n - k) top
    have start : ¬ ε * ((n : ℚ) / top) ≤ |(n : ℚ) / top - n / top| := by
      rw [sub_self, abs_zero]
      exact not_le.mpr (by positivity)
    rw [steps] at stopped
    simp only [start, false_or] at stopped
    rw [Finset.sum_boole] at stopped
    have spread := peel_spread pair enough fits
    have large : (0 : ℚ) ≤ k - 1 := by
      have two : (2 : ℚ) ≤ k := by exact_mod_cast pair
      linarith
    have both := (mul_le_mul_of_nonneg_left stopped large).trans spread
    refine le_of_mul_le_mul_right ?_ (pow_pos whole 2)
    linarith

end Strays

/-! Sets of positive numbers. -/

def up : ℕ ↪ ℕ := addRightEmbedding 1

theorem mem_map_up {L : Finset ℕ} {x : ℕ} : x + 1 ∈ L.map up ↔ x ∈ L := by
  rw [Finset.mem_map]
  constructor
  · rintro ⟨y, member, same⟩
    obtain rfl : y = x := Nat.succ.inj same
    exact member
  · exact fun member => ⟨x, member, rfl⟩

theorem map_up_range (top : ℕ) : (Finset.range top).map up = Finset.Ioo 0 (top + 1) := by
  ext x
  rw [Finset.mem_Ioo]
  cases x with
  | zero => simp [up]
  | succ x =>
    rw [mem_map_up, Finset.mem_range]
    omega

theorem sample_map_up (L : Finset ℕ) (x : ℕ) : sample (L.map up) (x + 1) = (sample L x).map up := by
  ext y
  cases y with
  | zero => simp [up]
  | succ y => rw [mem_sample, mem_map_up, mem_map_up, mem_sample, Nat.succ_lt_succ_iff]

/-- Sets of `n` positive numbers below a bound: all but a few are as dense below their members as
they are as a whole, as far as there are `k` members to be seen. -/
theorem exists_dense {k n bound : ℕ} {ε : ℚ} (pair : 2 ≤ k) (fits : n < bound) (positive : 0 < ε) :
    ∃ bad ⊆ (Finset.Ioo 0 bound).powersetCard n,
      (bad.card : ℚ) * ((k - 1) * ε ^ 2) ≤ ((Finset.Ioo 0 bound).powersetCard n).card ∧
      ∀ D ∈ (Finset.Ioo 0 bound).powersetCard n, D ∉ bad → ∀ x, x + 1 ∈ D →
        k ≤ (sample D (x + 1)).card →
        |((sample D (x + 1)).card : ℚ) / x - n / (bound - 1 : ℕ)| < ε * (n / (bound - 1 : ℕ)) := by
  obtain ⟨top, rfl⟩ : ∃ top, bound = top + 1 := ⟨bound - 1, by omega⟩
  have few := @card_strays_le k top n ε pair (by omega) positive
  rw [← map_up_range, Finset.powersetCard_map]
  refine ⟨_, Finset.map_subset_map.mpr (Finset.filter_subset
    (Strays k (n / top) (ε * (n / top))) _), ?_, ?_⟩
  · rw [Finset.card_map, Finset.card_map, Finset.card_powersetCard, Finset.card_range]
    exact few
  · intro D inside good x member crowded
    obtain ⟨L, below, rfl⟩ := Finset.mem_map.mp inside
    change x + 1 ∈ L.map up at member
    change k ≤ (sample (L.map up) (x + 1)).card at crowded
    change |((sample (L.map up) (x + 1)).card : ℚ) / x - n / top| < ε * (n / top)
    rw [mem_map_up] at member
    rw [sample_map_up, Finset.card_map] at crowded ⊢
    by_contra far
    exact good (Finset.mem_map_of_mem _ (Finset.mem_filter.mpr ⟨below, x, member, crowded, not_lt.mp far⟩))

theorem shifted_ratio {k x top : ℕ} (crowded : k ≤ x) (positive : 0 < x) (inside : x ≤ top) :
    (top : ℚ) / x * (k / (k + 1)) ≤ (top + 1) / (x + 1) ∧ ((top : ℚ) + 1) / (x + 1) ≤ top / x := by
  have place : (0 : ℚ) < x := by exact_mod_cast positive
  have within : (x : ℚ) ≤ top := by exact_mod_cast inside
  have fewer : (k : ℚ) ≤ x := by exact_mod_cast crowded
  constructor
  · rw [div_mul_div_comm, div_le_div_iff₀ (by positivity) (by positivity)]
    have least : (0 : ℚ) ≤ k := Nat.cast_nonneg k
    nlinarith
  · rw [div_le_div_iff₀ (by linarith) place]
    linarith

/-- Where a set is as dense as it should be, its members below that place give away how many
there are in all. -/
theorem scaled_near {k m n x bound : ℕ} {ε : ℚ} (crowded : k ≤ m) (some_member : 0 < m) (inside : m ≤ x)
    (below : x < bound)
    (dense : |(m : ℚ) / x - n / (bound - 1 : ℕ)| < ε * (n / (bound - 1 : ℕ))) :
    (1 - ε) * n * (k / (k + 1)) ≤ m / (((x + 1 : ℕ) : ℚ) / bound) ∧
      m / (((x + 1 : ℕ) : ℚ) / bound) ≤ (1 + ε) * n := by
  obtain ⟨top, rfl⟩ : ∃ top, bound = top + 1 := ⟨bound - 1, by omega⟩
  rw [Nat.add_sub_cancel] at dense
  obtain ⟨low, high⟩ := abs_lt.mp dense
  obtain ⟨larger, smaller⟩ :=
    shifted_ratio (crowded.trans inside) (some_member.trans_le inside) (Nat.lt_succ_iff.mp below)
  have room : (0 : ℚ) < top := by exact_mod_cast (some_member.trans_le inside).trans_le (Nat.lt_succ_iff.mp below)
  have members : (0 : ℚ) ≤ m := Nat.cast_nonneg m
  have above : (1 - ε) * n ≤ m * (top / x) := by
    have scaled := mul_le_mul_of_nonneg_right (show (1 - ε) * (n / top) ≤ (m : ℚ) / x by linarith) room.le
    calc (1 - ε) * n = (1 - ε) * (n / top) * top := by field_simp
      _ ≤ m / x * top := scaled
      _ = m * (top / x) := by ring
  have under : (m : ℚ) * (top / x) ≤ (1 + ε) * n := by
    have scaled := mul_le_mul_of_nonneg_right (show (m : ℚ) / x ≤ (1 + ε) * (n / top) by linarith) room.le
    calc (m : ℚ) * (top / x) = m / x * top := by ring
      _ ≤ (1 + ε) * (n / top) * top := scaled
      _ = (1 + ε) * n := by field_simp
  rw [div_div_eq_mul_div, mul_div_assoc, Nat.cast_succ, Nat.cast_succ]
  constructor
  · calc (1 - ε) * n * (k / (k + 1)) ≤ m * (top / x) * (k / (k + 1)) :=
        mul_le_mul_of_nonneg_right above (by positivity)
      _ = m * (top / x * (k / (k + 1))) := mul_assoc _ _ _
      _ ≤ m * ((top + 1) / (x + 1)) := mul_le_mul_of_nonneg_left larger members
  · exact (mul_le_mul_of_nonneg_left smaller members).trans under

/-! Cuts. -/

/-- The members that a cut keeps, scaled up by the part of all numbers below its bound. -/
def cutEstimate (k bound : ℕ) (D : Finset ℕ) : ℚ :=
  (sample D (cutBound k bound D)).card / (cutBound k bound D / bound)

section Cuts

variable {k y top : ℕ} {L : Finset ℕ}

theorem sample_eq_self (below : L ⊆ Finset.range y) : sample L y = L :=
  Finset.filter_true_of_mem fun _ member => Finset.mem_range.mp (below member)

theorem cutBound_of_few (few : L.card ≤ k) : cutBound k top L = top :=
  (isCut_cut k top L).trims.eq_of_card_le ((Finset.card_filter_le _ _).trans few)

theorem cutBound_insert (below : L ⊆ Finset.range y) (crowded : k ≤ L.card) (lower : y < top) :
    cutBound k top (insert y L) = cutBound k y L := by
  have same : sample L y = sample (insert y L) y := by
    rw [sample_eq_self below, sample_insert_self below]
  have full : k ≤ (sample (insert y L) y).card := by rwa [sample_insert_self below]
  have dropped := ((isCut_cut k y L).congr same).raise (Finset.mem_insert_self y L) full lower.le
  exact (isCut_cut k top (insert y L)).cutBound_unique dropped

theorem card_sample_cutBound (below : L ⊆ Finset.range top) (crowded : k ≤ L.card) :
    (sample L (cutBound k top L)).card = k := by
  have cut := isCut_cut k top L
  rw [← cut.sampled]
  rcases cut.capacity with ⟨same, fits⟩ | ⟨_, _, full⟩
  · rw [cut.sampled, same, sample_eq_self below] at fits ⊢
    exact le_antisymm fits crowded
  · exact full

theorem sum_cutBound (value : ℕ → ℚ) (k steps top : ℕ) :
    ∑ L ∈ (Finset.range top).powersetCard (k + steps), value (cutBound k top L) =
      peel value k steps top := by
  induction steps generalizing top with
  | zero =>
    have whole : ∀ L ∈ (Finset.range top).powersetCard (k + 0), value (cutBound k top L) = value top :=
      fun L inside => congrArg value (cutBound_of_few (Finset.mem_powersetCard.mp inside).2.le)
    rw [Finset.sum_congr rfl whole, Finset.sum_const, Finset.card_powersetCard, Finset.card_range,
      nsmul_eq_mul]
    rfl
  | succ steps ih =>
    rw [← Nat.add_assoc, sum_powersetCard_range, peel]
    refine Finset.sum_congr rfl fun y lower => ?_
    rw [← ih y]
    refine Finset.sum_congr rfl fun L inside => congrArg value ?_
    obtain ⟨below, count⟩ := Finset.mem_powersetCard.mp inside
    exact cutBound_insert below (by omega) (Finset.mem_range.mp lower)

theorem cutBound_map_up (L : Finset ℕ) : cutBound k (top + 1) (L.map up) = cutBound k top L + 1 := by
  have cut := isCut_cut k top L
  have moved : IsCut k (top + 1) (L.map up) (cutBound k top L + 1) ((cutKeys k top L).toFinset.map up) := by
    refine ⟨?_, ?_⟩
    · rw [sample_map_up, cut.sampled]
    · rw [Finset.card_map, mem_map_up, Nat.succ_lt_succ_iff, Nat.succ_inj]
      exact cut.capacity
  exact (isCut_cut k (top + 1) (L.map up)).cutBound_unique moved

theorem cutEstimate_of_few (below : L ⊆ Finset.range top) (few : L.card ≤ k) :
    cutEstimate k (top + 1) (L.map up) = L.card := by
  have room : ((top + 1 : ℕ) : ℚ) ≠ 0 := Nat.cast_ne_zero.mpr (Nat.succ_ne_zero top)
  rw [cutEstimate, cutBound_map_up, sample_map_up, Finset.card_map, cutBound_of_few few,
    sample_eq_self below, div_self room, div_one]

theorem cutEstimate_of_crowded (below : L ⊆ Finset.range top) (crowded : k ≤ L.card) :
    cutEstimate k (top + 1) (L.map up) = k * ((top + 1) / ((cutBound k top L : ℕ) + 1)) := by
  rw [cutEstimate, cutBound_map_up, sample_map_up, Finset.card_map, card_sample_cutBound below crowded,
    div_div_eq_mul_div, mul_div_assoc, Nat.cast_succ, Nat.cast_succ]

theorem peel_shifted {n : ℕ} (positive : 1 ≤ k) (enough : k ≤ n) (fits : n ≤ top) :
    n * (k / (k + 1)) * top.choose n ≤ peel (fun x => k * ((top + 1) / (x + 1))) k (n - k) top ∧
      peel (fun x => k * ((top + 1) / (x + 1))) k (n - k) top ≤ n * top.choose n := by
  have some_number : (top : ℚ) ≠ 0 := Nat.cast_ne_zero.mpr (by omega)
  have members : (0 : ℚ) ≤ k := Nat.cast_nonneg k
  have ratio := peel_ratio positive (n - k) top
  rw [Nat.add_sub_cancel' enough] at ratio
  have average : ∀ c : ℚ, peel (fun x => c * (k / x)) k (n - k) top = top.choose n * (c * (n / top)) :=
    fun c => by rw [peel_mul, ratio, mul_left_comm]
  have larger : ∀ x, k ≤ x → x ≤ top →
      top * (k / (k + 1)) * ((k : ℚ) / x) ≤ k * ((top + 1) / (x + 1)) := by
    intro x crowded inside
    have place := (shifted_ratio crowded (positive.trans crowded) inside).1
    calc top * (k / (k + 1)) * ((k : ℚ) / x) = k * (top / x * (k / (k + 1))) := by ring
      _ ≤ k * ((top + 1) / (x + 1)) := mul_le_mul_of_nonneg_left place members
  have smaller : ∀ x, k ≤ x → x ≤ top → (k : ℚ) * ((top + 1) / (x + 1)) ≤ top * (k / x) := by
    intro x crowded inside
    have place := (shifted_ratio crowded (positive.trans crowded) inside).2
    calc (k : ℚ) * ((top + 1) / (x + 1)) ≤ k * (top / x) := mul_le_mul_of_nonneg_left place members
      _ = top * (k / x) := by ring
  constructor
  · calc (n : ℚ) * (k / (k + 1)) * top.choose n = top.choose n * (top * (k / (k + 1)) * (n / top)) := by
          field_simp
      _ = peel (fun x => top * (k / (k + 1)) * (k / x)) k (n - k) top := (average _).symm
      _ ≤ _ := peel_mono larger
  · calc _ ≤ peel (fun x => top * (k / x)) k (n - k) top := peel_mono smaller
      _ = top.choose n * (top * (n / top)) := average _
      _ = n * top.choose n := by field_simp

/-- Averaged over all sets of `n` numbers, what a cut gives away is `n`, apart from one in
`k + 1` on the low side. -/
theorem sum_cutEstimate {n bound : ℕ} (positive : 1 ≤ k) (fits : n < bound) :
    n * (k / (k + 1)) * ((Finset.Ioo 0 bound).powersetCard n).card ≤
        ∑ D ∈ (Finset.Ioo 0 bound).powersetCard n, cutEstimate k bound D ∧
      ∑ D ∈ (Finset.Ioo 0 bound).powersetCard n, cutEstimate k bound D ≤
        n * ((Finset.Ioo 0 bound).powersetCard n).card := by
  obtain ⟨top, rfl⟩ : ∃ top, bound = top + 1 := ⟨bound - 1, by omega⟩
  rw [← map_up_range, Finset.powersetCard_map, Finset.sum_map, Finset.card_map,
    Finset.card_powersetCard, Finset.card_range]
  rcases Nat.lt_or_ge n k with few | enough
  · -- A set that fits is not cut.
    have whole : ∀ L ∈ (Finset.range top).powersetCard n,
        cutEstimate k (top + 1) ((Finset.mapEmbedding up).toEmbedding L) = n := by
      intro L inside
      obtain ⟨below, count⟩ := Finset.mem_powersetCard.mp inside
      rw [← count]
      exact cutEstimate_of_few below (count.trans_le few.le)
    rw [Finset.sum_congr rfl whole, Finset.sum_const, Finset.card_powersetCard, Finset.card_range,
      nsmul_eq_mul, mul_comm (top.choose n : ℚ)]
    refine ⟨mul_le_mul_of_nonneg_right ?_ (Nat.cast_nonneg _), le_rfl⟩
    have part : (k : ℚ) / (k + 1) ≤ 1 := div_le_one_of_le₀ (by linarith) (by positivity)
    exact mul_le_of_le_one_right (Nat.cast_nonneg _) part
  · have full : ∀ L ∈ (Finset.range top).powersetCard n,
        cutEstimate k (top + 1) ((Finset.mapEmbedding up).toEmbedding L) =
          k * ((top + 1) / ((cutBound k top L : ℕ) + 1)) := by
      intro L inside
      obtain ⟨below, count⟩ := Finset.mem_powersetCard.mp inside
      exact cutEstimate_of_crowded below (enough.trans_eq count.symm)
    have peeled := sum_cutBound (fun x => k * ((top + 1) / (x + 1) : ℚ)) k (n - k) top
    rw [Nat.add_sub_cancel' enough] at peeled
    rw [Finset.sum_congr rfl full, peeled]
    exact peel_shifted positive enough (Nat.lt_succ_iff.mp fits)

end Cuts

end OrderStatistics
