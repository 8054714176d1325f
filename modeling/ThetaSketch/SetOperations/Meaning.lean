import ThetaSketch.SetOperations.Difference
import ThetaSketch.SetOperations.MeetOrder
import ThetaSketch.SetOperations.Union

/-! Sketches that stand for sets.

A sketch holds the members of a set below its `theta`. Union, intersection and
difference of sketches are those of the sets that they stand for, as long as the
empty flag is only raised over the empty set.
-/

set_option autoImplicit false

namespace ThetaSketch

open Threshold

def Hashes (D : Finset ℕ) : Prop := ∀ hash ∈ D, 0 < hash ∧ hash < maxTheta

/-- The sketch stands for the set. It has so few entries that a 32-bit memory can hold them. -/
structure CompactSketch.Denotes (sketch : CompactSketch) (D : Finset ℕ) : Prop where
  sound : sketch.Sound
  few : sketch.entries.length + 3 < 2 ^ 29
  hashes : Hashes D
  entries : sketch.entries.toFinset = sample D sketch.theta
  empty : sketch.isEmpty = true → D = ∅

theorem Hashes.union {D E : Finset ℕ} (left : Hashes D) (right : Hashes E) : Hashes (D ∪ E) :=
  fun hash member => (Finset.mem_union.mp member).elim (left hash) (right hash)

theorem Hashes.subset {D E : Finset ℕ} (hashes : Hashes E) (inside : D ⊆ E) : Hashes D :=
  fun hash member => hashes hash (inside member)

theorem hashes_empty : Hashes ∅ := fun _ member => absurd member (Finset.notMem_empty _)

/-- Nothing is cut off by the largest bound. -/
theorem Hashes.sample_eq {D : Finset ℕ} (hashes : Hashes D) : sample D maxTheta = D :=
  Finset.filter_true_of_mem fun hash member => (hashes hash member).2

/-! Unions. -/

structure UnitesSet (union : ThetaUnion) (D : Finset ℕ) : Prop where
  unites : ∃ bound A, Unites union bound A ∧ bound ≤ maxTheta ∧ sample A bound = sample D bound
  nominal : union.table.lgNomSize = defaultLgK
  hashes : Hashes D
  empty : union.table.isEmpty = true → D = ∅

namespace UnitesSet

variable {union : ThetaUnion} {D : Finset ℕ}

theorem new : UnitesSet (ThetaUnion.new {}) ∅ where
  unites := ⟨maxTheta, ∅, unites_new {} (by decide) rfl rfl, le_rfl, rfl⟩
  nominal := rfl
  hashes := hashes_empty
  empty := fun _ => rfl

theorem update (unites : UnitesSet union D) {sketch : CompactSketch} {E : Finset ℕ}
    (denotes : sketch.Denotes E) :
    ∃ next, union.update sketch.view = .ok next ∧ UnitesSet next (D ∪ E) := by
  cases flagged : sketch.isEmpty with
  | true =>
    refine ⟨union, Unites.update_empty flagged, ?_⟩
    rw [denotes.empty flagged, Finset.union_empty]
    exact unites
  | false =>
    obtain ⟨bound, A, state, small, same⟩ := unites.unites
    obtain ⟨next, run, after, full, nominal⟩ := state.update denotes.sound.valid flagged
    refine ⟨next, run, ⟨⟨_, _, after, (min_le_left _ _).trans small, ?_⟩, nominal.trans unites.nominal,
      unites.hashes.union denotes.hashes, fun bare => ?_⟩⟩
    · -- Below the new bound both parts agree with their sets.
      obtain ⟨low, isLow⟩ : ∃ low, low = min bound sketch.view.theta := ⟨_, rfl⟩
      have lowLeft : low ≤ bound := isLow ▸ min_le_left _ _
      have lowRight : low ≤ sketch.theta := isLow ▸ min_le_right _ _
      rw [← isLow, sample_union, sample_union]
      have left : sample A low = sample D low := by
        rw [← min_eq_right lowLeft, ← sample_sample, ← sample_sample, same]
      have right : sample sketch.entries.toFinset low = sample E low := by
        rw [denotes.entries, sample_sample, min_eq_right lowRight]
      rw [left, right]
    · rw [full] at bare
      cases bare

theorem getResult (unites : UnitesSet union D) : (union.getResult true).Denotes D := by
  obtain ⟨bound, A, state, small, same⟩ := unites.unites
  have cut := isCut_cut (2 ^ union.table.lgNomSize) bound A
  have few := length_cutKeys_le (2 ^ union.table.lgNomSize) bound A
  have entries : (cutKeys (2 ^ union.table.lgNomSize) bound A).toFinset =
      sample D (cutBound (2 ^ union.table.lgNomSize) bound A) := by
    rw [cut.sampled, ← min_eq_right cut.le, ← sample_sample, ← sample_sample, same]
  rw [state.getResult_eq]
  refine ⟨⟨cutKeys_pairwise _ _ _, fun hash member => ?_, cut.le.trans small, rfl, rfl, fun bare => ?_⟩,
    ?_, unites.hashes, entries, unites.empty⟩
  · obtain ⟨inside, below⟩ := mem_cutKeys.mp member
    exact ⟨Nat.pos_of_ne_zero fun zero => state.proper (zero ▸ inside), below⟩
  · obtain ⟨rfl, rfl⟩ := state.blank bare
    have nothing : sample (∅ : Finset ℕ) maxTheta = ∅ := rfl
    simp [cutKeys, cutBound, nothing]
  · rw [unites.nominal] at few ⊢
    exact lt_of_le_of_lt (Nat.add_le_add_right few 3) (by decide)

end UnitesSet

/-! Intersections. -/

structure Meet.Denotes (state : Meet) (D : Finset ℕ) : Prop where
  proper : state.Proper
  few : state.keys.card + 3 < 2 ^ 29
  hashes : Hashes D
  keys : state.keys = sample D state.theta
  empty : state.isEmpty = true → D = ∅

theorem CompactSketch.Denotes.meet {sketch : CompactSketch} {D : Finset ℕ} (denotes : sketch.Denotes D) :
    (sketch.view.meet sketch.entries).Denotes D where
  proper := by
    refine ⟨denotes.sound.bound, fun hash member => ?_, fun flagged => ?_⟩
    · exact denotes.sound.range hash (List.mem_toFinset.mp member)
    · obtain ⟨none_left, whole⟩ := denotes.sound.empty flagged
      have flag : sketch.view.isEmpty = true := flagged
      have theta : sketch.view.theta = maxTheta := whole
      rw [SketchView.meet, flag, theta, none_left]
      rfl
  few := lt_of_le_of_lt (Nat.add_le_add_right (List.toFinset_card_le _) 3) denotes.few
  hashes := denotes.hashes
  keys := denotes.entries
  empty := denotes.empty

/-- Closing an exact intersection without shared keys is right: both sets are known in full. -/
theorem Meet.Denotes.update {left right : Meet} {D E : Finset ℕ} (first : left.Denotes D)
    (second : right.Denotes E) : (Meet.update (some left) right).Denotes (D ∩ E) := by
  have keys := Meet.keys_update first.proper second.proper
  have proper := Meet.proper_update first.proper second.proper
  have empty : (Meet.update (some left) right).isEmpty = true → D ∩ E = ∅ := by
    intro closed
    rcases (Meet.isEmpty_update first.proper second.proper).mp closed with closed | closed | clash
    · rw [first.empty closed, Finset.empty_inter]
    · rw [second.empty closed, Finset.inter_empty]
    · obtain ⟨wholeLeft, wholeRight, _, _, disjoint⟩ := clash
      rwa [first.keys, second.keys, wholeLeft, wholeRight, first.hashes.sample_eq,
        second.hashes.sample_eq] at disjoint
  refine ⟨proper, ?_, first.hashes.subset Finset.inter_subset_left, ?_, empty⟩
  · rw [keys]
    exact lt_of_le_of_lt (Nat.add_le_add_right (Finset.card_le_card Finset.inter_subset_left) 3) first.few
  · cases closed : (Meet.update (some left) right).isEmpty with
    | true =>
      rw [proper.void closed, empty closed]
      rfl
    | false =>
      rw [keys, first.keys, second.keys, Meet.theta_update first.proper second.proper closed]
      ext hash
      simp only [Finset.mem_inter, mem_sample, lt_min_iff]
      tauto

/-! Differences. -/

theorem CompactSketch.Denotes.compute {a b : CompactSketch} {D E : Finset ℕ} (first : a.Denotes D)
    (second : b.Denotes E) :
    ∃ sketch, (ThetaANotB.new defaultSeed).compute a.view b.view true = .ok sketch ∧
      sketch.Denotes (D \ E) := by
  obtain ⟨theta, entries, run, isTheta, sorted, kept⟩ :=
    ThetaANotB.compute_eq first.sound.valid second.sound.valid first.sound.seed second.sound.seed
  have hashes : Hashes (D \ E) := first.hashes.subset Finset.sdiff_subset
  have thetaA : a.view.theta = a.theta := rfl
  have thetaB : b.view.theta = b.theta := rfl
  have flagA : a.view.isEmpty = a.isEmpty := rfl
  have flagB : b.view.isEmpty = b.isEmpty := rfl
  rw [thetaA, thetaB, flagA, flagB] at isTheta
  have below : theta ≤ a.theta := by
    rw [isTheta]
    split_ifs
    · exact le_rfl
    · exact min_le_left _ _
  -- The bound of the second sketch only stays out where there is nothing to find in it.
  have second_bound : D = ∅ ∨ E = ∅ ∨ theta ≤ b.theta := by
    cases flagged : a.isEmpty with
    | true => exact .inl (first.empty flagged)
    | false =>
      cases flaggedB : b.isEmpty with
      | true => exact .inr (.inl (second.empty flaggedB))
      | false =>
        rw [flagged, flaggedB, Bool.and_false, Bool.or_false] at isTheta
        exact .inr (.inr (isTheta.trans_le (min_le_right _ _)))
  have difference : entries.toFinset = sample (D \ E) theta := by
    rw [kept, first.entries, second.entries]
    ext hash
    simp only [mem_sample, Finset.mem_sdiff]
    constructor
    · rintro ⟨⟨⟨inside, _⟩, outside⟩, lower⟩
      refine ⟨⟨inside, fun other => ?_⟩, lower⟩
      rcases second_bound with rfl | rfl | least
      · exact absurd inside (Finset.notMem_empty _)
      · exact absurd other (Finset.notMem_empty _)
      · exact outside ⟨other, lower.trans_le least⟩
    · rintro ⟨⟨inside, outside⟩, lower⟩
      exact ⟨⟨⟨inside, lower.trans_le below⟩, fun other => outside other.1⟩, lower⟩
  have fewer : entries.length ≤ a.entries.length := by
    rw [← List.toFinset_card_of_nodup (nodup_of_sorted sorted), kept]
    exact (Finset.card_le_card ((Finset.filter_subset _ _).trans Finset.sdiff_subset)).trans
      (List.toFinset_card_le _)
  refine ⟨_, run, ⟨⟨sorted, fun hash member => ?_, below.trans first.sound.bound, rfl, rfl, fun bare => ?_⟩,
    lt_of_le_of_lt (Nat.add_le_add_right fewer 3) first.few, hashes, difference, fun bare => ?_⟩⟩
  · have inside := difference ▸ List.mem_toFinset.mpr member
    rw [mem_sample] at inside
    exact ⟨(hashes hash inside.1).1, inside.2⟩
  · rw [flagA, Bool.or_eq_true, Bool.and_eq_true, List.isEmpty_iff, decide_eq_true_iff] at bare
    rcases bare with flagged | exact_match
    · have none_left : entries = [] := by
        rw [(first.sound.empty flagged).1] at fewer
        exact List.length_eq_zero_iff.mp (Nat.le_zero.mp fewer)
      refine ⟨none_left, ?_⟩
      rw [isTheta, flagged, Bool.true_or, if_pos rfl]
      exact (first.sound.empty flagged).2
    · exact exact_match
  · rw [flagA, Bool.or_eq_true, Bool.and_eq_true, List.isEmpty_iff, decide_eq_true_iff] at bare
    rcases bare with flagged | ⟨none_left, whole⟩
    · rw [first.empty flagged, Finset.empty_sdiff]
    · rw [none_left, whole, hashes.sample_eq] at difference
      exact difference.symm

end ThetaSketch
