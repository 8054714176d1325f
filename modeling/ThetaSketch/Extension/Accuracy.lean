import ThetaSketch.Extension.Estimates
import ThetaSketch.Library.OrderStatistics

/-! How close the estimates come.

A hash function that behaves as chance does makes all sets of so many hashes equally
likely. For all but a few of these sets every query that builds and unites sketches comes
close to the number of hashes: however the rows are ordered and spread over partial
states, `theta` ends as a hash below which the set is as dense as it should be.
-/

set_option autoImplicit false

namespace ThetaSketch

open Threshold OrderStatistics

/-- A sketch that stands for the set, whose bound was only lowered to crowded members. -/
structure CompactSketch.Samples (sketch : CompactSketch) (D : Finset ℕ) : Prop where
  denotes : sketch.Denotes D
  trims : Trims (2 ^ defaultLgK) maxTheta D sketch.theta sketch.entries.toFinset

def YieldsSample (D : Finset ℕ) (blob : Blob) : Prop := ∃ sketch, Decodes blob sketch ∧ sketch.Samples D

def YieldsCut (D : Finset ℕ) (blob : Blob) : Prop :=
  ∃ sketch, Decodes blob sketch ∧ sketch.Denotes D ∧
    IsCut (2 ^ defaultLgK) maxTheta D sketch.theta sketch.entries.toFinset

theorem YieldsCut.sample {D : Finset ℕ} {blob : Blob} (cuts : YieldsCut D blob) : YieldsSample D blob := by
  obtain ⟨sketch, decodes, denotes, cut⟩ := cuts
  exact ⟨sketch, decodes, denotes, cut.trims⟩

theorem YieldsSample.yields {D : Finset ℕ} {blob : Blob} (samples : YieldsSample D blob) : Yields D blob := by
  obtain ⟨sketch, decodes, samples⟩ := samples
  exact ⟨sketch, decodes, samples.denotes⟩

/-! Unions. -/

structure ValidBlob.Samples (input : ValidBlob) (D : Finset ℕ) : Prop where
  blank : input.view.isEmpty = true → input.view.theta = maxTheta
  trims : Trims (2 ^ defaultLgK) maxTheta D input.view.theta input.entries.toFinset

theorem YieldsSample.input {D : Finset ℕ} {blob : Blob} (samples : YieldsSample D blob) :
    ∃ input : ValidBlob, input.bytes = blob ∧ input.Samples D := by
  obtain ⟨sketch, decodes, denotes, trims⟩ := samples
  exact ⟨(BoundedBlob.decoded decodes denotes.sound denotes.few).toValidBlob, rfl,
    fun flagged => (denotes.sound.empty flagged).2, trims⟩

theorem trims_inputs {inputs : List ValidBlob} {sets : List (Finset ℕ)}
    (samples : List.Forall₂ ValidBlob.Samples inputs sets) :
    Trims (2 ^ defaultLgK) maxTheta (unionAll sets) (leastTheta inputs) (allEntries inputs) := by
  induction samples with
  | nil => exact Trims.refl _ _ _
  | @cons input D inputs sets first rest ih =>
    have both := first.trims.union ih
    have theta : leastTheta (input :: inputs) = min input.view.theta (leastTheta inputs) := by
      cases flagged : input.view.isEmpty with
      | true =>
        rw [first.blank flagged, min_eq_right (leastTheta_le _)]
        simp [leastTheta, flagged]
      | false => simp [leastTheta, flagged]
    have entries : allEntries (input :: inputs) = input.entries.toFinset ∪ allEntries inputs := by
      simp [allEntries]
    rw [min_self] at both
    rw [theta, entries]
    exact both

/-- A union ends as the cut of the union of the sets, however far its inputs were trimmed. -/
theorem isCut_unionOf {inputs : List ValidBlob} {sets : List (Finset ℕ)}
    (samples : List.Forall₂ ValidBlob.Samples inputs sets) :
    IsCut (2 ^ defaultLgK) maxTheta (unionAll sets) (unionOf inputs).theta
      (unionOf inputs).entries.toFinset := by
  rw [unionOf_theta, unionOf_entries]
  exact (trims_inputs samples).cut (isCut_cut _ _ _)

/-! Each kind of node. -/

section Nodes

variable {D E : Finset ℕ} {heap : Heap} {left right : Blob}

theorem yieldsSample_build (plan : Plan BuildRow) (some_row : plan.inputs ≠ []) (malloc : ℕ → UInt8) :
    Returns (plan.output buildAggregate malloc) heap [] fun blob _ =>
      YieldsSample (fedHashes plan.inputs) blob := by
  refine ((yields_build plan some_row malloc).both
    (buildAggregate_tracks.output plan some_row (fun _ _ => trivial) heap malloc)).imp ?_
  rintro blob after - ⟨yields, object, sketch, shows, finished, fits, rfl⟩
  refine ⟨sketch, fits.decodes malloc, yields.denotes (fits.decodes malloc), ?_⟩
  obtain ⟨_, again, sound, _, samples⟩ := shows.finished
  cases finished.symm.trans again
  have trims := samples.trims
  change Trims _ _ _ sketch.theta _ at trims
  have within : ∀ bound ≤ maxTheta, sample (fedHashes plan.inputs) bound = sample (nonzeroHashes plan.inputs) bound :=
    fun bound below => by rw [fedHashes_eq, sample_sample, min_eq_right below]
  refine ⟨trims.kept.trans (within _ sound.bound).symm, trims.crowded.imp id ?_⟩
  rintro ⟨lower, member, full⟩
  rw [within _ sound.bound, fedHashes_eq, mem_sample]
  exact ⟨lower, ⟨member, lower⟩, full⟩

theorem yieldsCut_union (first : YieldsSample D left) (second : YieldsSample E right)
    (malloc : ℕ → UInt8) :
    Returns (extensionSketchUnion (some left) (some right) malloc) heap [] fun blob _ =>
      YieldsCut (D ∪ E) blob := by
  obtain ⟨x, rfl, samplesLeft⟩ := first.input
  obtain ⟨y, rfl, samplesRight⟩ := second.input
  have both : unionAll [D, E] = D ∪ E := by simp [unionAll]
  have cut := isCut_unionOf (.cons samplesLeft (.cons samplesRight .nil))
  refine ((yields_union first.yields second.yields malloc).both (returns_unionOf _ _ malloc)).imp ?_
  rintro blob after - ⟨yields, rfl⟩
  have decodes := (unionOf_serializable [x, y]).decodes malloc
  exact ⟨_, decodes, yields.denotes decodes, both ▸ cut⟩

theorem yieldsCut_unionAggregate {n : ℕ} {evaluate : Fin n → HeapM Blob} {meaning : Fin n → Finset ℕ}
    (plan : Plan (Fin n)) (some_child : plan.inputs ≠ [])
    (samples : ∀ child ∈ plan.inputs, ∀ heap, Returns (evaluate child) heap [] fun blob _ =>
      YieldsSample (meaning child) blob) (malloc : ℕ → UInt8) :
    Returns (plan.output (unionOver evaluate) malloc) heap [] fun blob _ =>
      YieldsCut (unionAll (plan.inputs.map meaning)) blob := by
  have yields : ∀ child ∈ plan.inputs, YieldsRow evaluate meaning child := fun child inside heap =>
    (samples child inside heap).imp fun _ _ _ => YieldsSample.yields
  have whole := @yields_aggregate heap _ _ _ _ (fun rows => unionAll (rows.map meaning))
    (unionOver_tracks meaning) plan some_child yields malloc
  have tracks := @Aggregate.Tracks.through _ _ _ _ ValidBlob.bytes _ _ _ evaluate
    unionAggregate_tracks fun child input => input.Samples (meaning child)
  have inputs : ∀ child ∈ plan.inputs, ∀ heap, ∃ input : ValidBlob, input.Samples (meaning child) ∧
      True ∧ Returns (evaluate child) heap [] fun blob _ => blob = input.bytes := by
    intro child inside heap
    obtain ⟨_, after, run, frame, yields⟩ := samples child inside heap
    obtain ⟨input, rfl, holds⟩ := yields.input
    exact ⟨input, holds, trivial, _, after, run, frame, rfl⟩
  refine (whole.both (tracks.output plan some_child inputs heap malloc)).imp ?_
  rintro blob after - ⟨yields, object, sketch, ⟨inputs, same, shown, _⟩, finished, fits, rfl⟩
  cases finished.symm.trans shown
  have samples : List.Forall₂ ValidBlob.Samples inputs (plan.inputs.map meaning) :=
    List.forall₂_map_right_iff.mpr same.flip
  have decodes := fits.decodes malloc
  exact ⟨_, decodes, yields.denotes decodes, isCut_unionOf samples⟩

end Nodes

namespace Expression

def OnlyUnites : Expression → Prop
  | build _ _ _ => True
  | union left right _ => left.OnlyUnites ∧ right.OnlyUnites
  | intersection _ _ _ => False
  | aNotB _ _ _ => False
  | unionAggregate children plan _ _ => ∀ child ∈ plan.inputs, (children child).OnlyUnites
  | intersectionAggregate _ _ _ _ => False

theorem returns_sample (expression : Expression) (unites : expression.OnlyUnites) (heap : Heap) :
    Returns expression.evaluate heap [] fun blob _ => YieldsSample expression.meaning blob := by
  induction expression generalizing heap with
  | build plan some_row malloc => exact yieldsSample_build plan some_row malloc
  | union left right malloc ihLeft ihRight =>
    refine (ihLeft unites.1 heap).andThen fun left middle _ first => ?_
    refine (ihRight unites.2 middle).andThen fun right after _ second => ?_
    exact (yieldsCut_union first second malloc).imp fun _ _ _ => YieldsCut.sample
  | intersection left right malloc => exact unites.elim
  | aNotB left right malloc => exact unites.elim
  | unionAggregate children plan some_child malloc ih =>
    have children := fun child inside => ih child (unites child inside)
    exact (yieldsCut_unionAggregate plan some_child children malloc).imp fun _ _ _ => YieldsCut.sample
  | intersectionAggregate children plan some_child malloc => exact unites.elim

def EndsInUnion : Expression → Prop
  | build _ _ _ => False
  | union _ _ _ => True
  | intersection _ _ _ => False
  | aNotB _ _ _ => False
  | unionAggregate _ _ _ _ => True
  | intersectionAggregate _ _ _ _ => False

theorem returns_cut (expression : Expression) (unites : expression.OnlyUnites)
    (last : expression.EndsInUnion) (heap : Heap) :
    Returns expression.evaluate heap [] fun blob _ => YieldsCut expression.meaning blob := by
  cases expression with
  | union left right malloc =>
    refine (left.returns_sample unites.1 heap).andThen fun _ middle _ first => ?_
    refine (right.returns_sample unites.2 middle).andThen fun _ after _ second => ?_
    exact yieldsCut_union first second malloc
  | unionAggregate children plan some_child malloc =>
    have samples := fun child inside => (children child).returns_sample (unites child inside)
    exact yieldsCut_unionAggregate plan some_child samples malloc
  | build plan some_row malloc => exact last.elim
  | intersection left right malloc => exact last.elim
  | aNotB left right malloc => exact last.elim
  | intersectionAggregate children plan some_child malloc => exact last.elim

end Expression

/-! Estimates. -/

theorem CompactSketch.Samples.estimate_near {sketch : CompactSketch} {D : Finset ℕ} {ε : ℚ}
    (samples : sketch.Samples D) (positive : 0 < ε)
    (dense : ∀ x, x + 1 ∈ D → 2 ^ defaultLgK ≤ (sample D (x + 1)).card →
      |((sample D (x + 1)).card : ℚ) / x - D.card / (maxTheta - 1 : ℕ)| <
        ε * (D.card / (maxTheta - 1 : ℕ))) :
    (1 - ε) * D.card * ((2 ^ defaultLgK : ℕ) / ((2 ^ defaultLgK : ℕ) + 1)) ≤ sketch.view.getEstimate ∧
      sketch.view.getEstimate ≤ (1 + ε) * D.card := by
  obtain ⟨denotes, trims⟩ := samples
  have count : sketch.entries.length = (sample D sketch.theta).card := by
    rw [← denotes.entries, List.toFinset_card_of_nodup (nodup_of_sorted denotes.sound.sorted)]
  rw [CompactSketch.getEstimate_eq count (.inr rfl)]
  rcases trims.crowded with whole | ⟨lower, member, crowded⟩
  · -- A bound that was never lowered leaves nothing out.
    have nonzero : (maxTheta : ℚ) ≠ 0 := by norm_num [maxTheta]
    have members : (0 : ℚ) ≤ D.card := Nat.cast_nonneg _
    have part : ((2 ^ defaultLgK : ℕ) : ℚ) / ((2 ^ defaultLgK : ℕ) + 1) ≤ 1 :=
      div_le_one_of_le₀ (by linarith) (by positivity)
    rw [whole, denotes.hashes.sample_eq, div_self nonzero, div_one]
    refine ⟨?_, by nlinarith⟩
    calc (1 - ε) * D.card * (((2 ^ defaultLgK : ℕ) : ℚ) / ((2 ^ defaultLgK : ℕ) + 1)) ≤
        D.card * (((2 ^ defaultLgK : ℕ) : ℚ) / ((2 ^ defaultLgK : ℕ) + 1)) :=
          mul_le_mul_of_nonneg_right (by nlinarith) (by positivity)
      _ ≤ D.card := mul_le_of_le_one_right members part
  · obtain ⟨x, place⟩ : ∃ x, sketch.theta = x + 1 :=
      ⟨sketch.theta - 1, (Nat.succ_pred_eq_of_pos (denotes.hashes _ member).1).symm⟩
    rw [place] at lower member crowded ⊢
    have inside : (sample D (x + 1)).card ≤ x := by
      have range : sample D (x + 1) ⊆ Finset.Ioo 0 (x + 1) := fun hash kept => by
        rw [mem_sample] at kept
        exact Finset.mem_Ioo.mpr ⟨(denotes.hashes hash kept.1).1, kept.2⟩
      have fewer := Finset.card_le_card range
      rwa [Nat.card_Ioo] at fewer
    have some_member : 0 < (sample D (x + 1)).card := lt_of_lt_of_le (by decide) crowded
    exact scaled_near crowded some_member inside (Nat.lt_of_succ_lt lower) (dense x member crowded)

/-- Of all sets of `n` hashes only a small part is bad. For every other set, whatever a query
does to build and unite its parts, the estimate misses `n` by the part `ε` at most, apart from
one in 4097 on the low side. -/
theorem estimates_accurate (n : ℕ) (fits : n < maxTheta) (ε : ℚ) (positive : 0 < ε) :
    ∃ bad ⊆ (Finset.Ioo 0 maxTheta).powersetCard n,
      (bad.card : ℚ) * ((2 ^ defaultLgK - 1) * ε ^ 2) ≤ ((Finset.Ioo 0 maxTheta).powersetCard n).card ∧
      ∀ expression : Expression, expression.OnlyUnites → expression.meaning.card = n →
        expression.meaning ∉ bad → ∀ heap, Returns (estimateOf expression.evaluate) heap []
          fun estimate _ => (1 - ε) * n * (2 ^ defaultLgK / (2 ^ defaultLgK + 1)) ≤ estimate ∧
            estimate ≤ (1 + ε) * n := by
  obtain ⟨bad, among, few, dense⟩ :=
    @exists_dense (2 ^ defaultLgK) n maxTheta ε (by decide) fits positive
  refine ⟨bad, among, by exact_mod_cast few, fun expression unites count good heap => ?_⟩
  obtain ⟨blob, middle, run, frame, sketch, decodes, samples⟩ := expression.returns_sample unites heap
  have returns : Returns expression.evaluate heap [] fun blob _ => Decodes blob sketch :=
    ⟨blob, middle, run, frame, decodes⟩
  refine (returns_estimateOf returns).imp fun estimate _ _ same => ?_
  have inside : expression.meaning ∈ (Finset.Ioo 0 maxTheta).powersetCard n :=
    Finset.mem_powersetCard.mpr ⟨fun hash member => Finset.mem_Ioo.mpr (samples.denotes.hashes hash member), count⟩
  have near := samples.estimate_near positive (count ▸ dense _ inside good)
  rw [same, ← count]
  exact_mod_cast near

theorem estimates_accurate_hundred_thousand :
    ∃ bad ⊆ (Finset.Ioo 0 maxTheta).powersetCard 100000,
      (bad.card : ℚ) * 10 ≤ ((Finset.Ioo 0 maxTheta).powersetCard 100000).card ∧
      ∀ expression : Expression, expression.OnlyUnites → expression.meaning.card = 100000 →
        expression.meaning ∉ bad → ∀ heap, Returns (estimateOf expression.evaluate) heap []
          fun estimate _ => 94900 ≤ estimate ∧ estimate ≤ 105000 := by
  obtain ⟨bad, among, few, near⟩ := estimates_accurate 100000 (by decide) (1 / 20) (by norm_num)
  refine ⟨bad, among, le_trans ?_ few, fun expression unites count good heap => ?_⟩
  · exact mul_le_mul_of_nonneg_left (by norm_num [defaultLgK]) (Nat.cast_nonneg _)
  · refine (near expression unites count good heap).imp fun estimate _ _ bounds => ?_
    norm_num [defaultLgK] at bounds
    constructor <;> linarith

/-- What a union estimates depends on the set of hashes alone, and it is right on average
over all sets of `n` hashes, apart from one in 4097 on the low side. -/
theorem estimates_unbiased (n : ℕ) (fits : n < maxTheta) :
    (∀ expression : Expression, expression.OnlyUnites → expression.EndsInUnion → ∀ heap,
      Returns (estimateOf expression.evaluate) heap [] fun estimate _ =>
        estimate = cutEstimate (2 ^ defaultLgK) maxTheta expression.meaning) ∧
      n * (2 ^ defaultLgK / (2 ^ defaultLgK + 1)) * ((Finset.Ioo 0 maxTheta).powersetCard n).card ≤
        ∑ D ∈ (Finset.Ioo 0 maxTheta).powersetCard n, cutEstimate (2 ^ defaultLgK) maxTheta D ∧
      ∑ D ∈ (Finset.Ioo 0 maxTheta).powersetCard n, cutEstimate (2 ^ defaultLgK) maxTheta D ≤
        n * ((Finset.Ioo 0 maxTheta).powersetCard n).card := by
  refine ⟨fun expression unites last heap => ?_, ?_⟩
  · obtain ⟨blob, middle, run, frame, sketch, decodes, denotes, cut⟩ :=
      expression.returns_cut unites last heap
    have returns : Returns expression.evaluate heap [] fun blob _ => Decodes blob sketch :=
      ⟨blob, middle, run, frame, decodes⟩
    refine (returns_estimateOf returns).imp fun estimate _ _ same => ?_
    have count : sketch.entries.length = (sample expression.meaning sketch.theta).card := by
      rw [← denotes.entries, List.toFinset_card_of_nodup (nodup_of_sorted denotes.sound.sorted)]
    rw [same, CompactSketch.getEstimate_eq count (.inr rfl), cut.cutBound_unique (isCut_cut _ _ _)]
    rfl
  · have average := @sum_cutEstimate (2 ^ defaultLgK) n maxTheta (by decide) fits
    exact_mod_cast average

def Expression.leafUnion : Expression := .union (leaf 5) (leaf 7) fun _ => 0

theorem estimates_unbiased_million :
    Returns (estimateOf Expression.leafUnion.evaluate) Heap.empty [] (fun estimate _ =>
      estimate = cutEstimate (2 ^ defaultLgK) maxTheta Expression.leafUnion.meaning) ∧
      999755 * ((Finset.Ioo 0 maxTheta).powersetCard 1000000).card ≤
        ∑ D ∈ (Finset.Ioo 0 maxTheta).powersetCard 1000000, cutEstimate (2 ^ defaultLgK) maxTheta D ∧
      ∑ D ∈ (Finset.Ioo 0 maxTheta).powersetCard 1000000, cutEstimate (2 ^ defaultLgK) maxTheta D ≤
        1000000 * ((Finset.Ioo 0 maxTheta).powersetCard 1000000).card := by
  obtain ⟨alone, low, high⟩ := estimates_unbiased 1000000 (by decide)
  refine ⟨alone Expression.leafUnion ⟨trivial, trivial⟩ trivial _, le_trans ?_ low, high⟩
  exact mul_le_mul_of_nonneg_right (by norm_num [defaultLgK]) (Nat.cast_nonneg _)

end ThetaSketch
