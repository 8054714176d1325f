import ThetaSketch.Common.CeilingPowerOf2
import ThetaSketch.SetOperations.Exact
import ThetaSketch.SetOperations.Ratios
import ThetaSketch.SetOperations.Union

/-! The Jaccard similarity of two sketches.

A union is built that is wide enough for all entries of both sketches, unless they are
more than the largest sketch can hold. The similarity is the ratio of the
intersection to this union.
-/

set_option autoImplicit false

namespace ThetaSketch

open BinomialProportions (realLibrary)
open Threshold

namespace JaccardSimilarity

/-- The builder checks that `lg_k` is between the bounds that it is clamped to. -/
def computeUnion (a b : SketchView) (seed : UInt64) : Run CompactSketch := do
  let countA := a.numRetained
  let countB := b.numRetained
  let lgK := min (max (Nat.log2 (ceilingPowerOf2 (UInt32.ofNat (countA + countB))).toNat) minLgK) maxLgK
  let u := ThetaUnion.new { lgK := lgK, seed := seed }
  let u ← u.update a
  let u ← u.update b
  return u.getResult false

def identicalSets (a b unionAB : SketchView) : Bool :=
  decide (unionAB.numRetained = a.numRetained) && decide (unionAB.numRetained = b.numRetained) &&
    decide (unionAB.theta = a.theta) && decide (unionAB.theta = b.theta)

/-- `same` says that both arguments are one object in memory. -/
def exactlyEqual (same : Bool) (a b : SketchView) (seed : UInt64) : Run Bool := do
  if same then return true
  else if a.isEmpty && b.isEmpty then return true
  else if a.isEmpty || b.isEmpty then return false
  else
    let unionAB ← computeUnion a b seed
    return identicalSets a b unionAB.view

section Similarity

variable {F : Type} [Field F] [LinearOrder F] (library : MathLibrary F) (toText : F → String)

end Similarity

end JaccardSimilarity

/-! Unions under another seed. -/

def ThetaUnion.reseed (union : ThetaUnion) (seed : UInt64) : ThetaUnion :=
  { union with table := union.table.reseed seed }

section Fields

variable (sketch : CompactSketch) (seedHash : ℕ)

@[simp] theorem CompactSketch.rehash_isEmpty : (sketch.rehash seedHash).isEmpty = sketch.isEmpty := rfl

@[simp] theorem CompactSketch.rehash_theta : (sketch.rehash seedHash).theta = sketch.theta := rfl

@[simp] theorem CompactSketch.rehash_entries : (sketch.rehash seedHash).entries = sketch.entries := rfl

@[simp] theorem CompactSketch.rehash_view :
    (sketch.rehash seedHash).view = sketch.view.rehash seedHash := rfl

end Fields

section Reseed

variable (seed : UInt64)

theorem HashTable.findOrInsert_reseed (table : HashTable) (hash : ℕ) :
    (table.reseed seed).findOrInsert hash =
      (fun next : HashTable => next.reseed seed) <$> table.findOrInsert hash := by
  simp only [HashTable.findOrInsert, HashTable.reseed_find]
  cases table.find hash with
  | error exit => rfl
  | ok result =>
    simp only [Run.ok_bind]
    split
    · rfl
    · exact table.insert_reseed seed result.1 hash

theorem ThetaUnion.updateLoop_reseed (ordered : Bool) (union : ThetaUnion) (entries : List (Run ℕ)) :
    ThetaUnion.updateLoop ordered (union.reseed seed) entries =
      (fun next : ThetaUnion => next.reseed seed) <$> ThetaUnion.updateLoop ordered union entries := by
  induction entries generalizing union with
  | nil => rfl
  | cons read rest ih =>
    cases read with
    | error exit => rfl
    | ok hash =>
      simp only [ThetaUnion.updateLoop, Run.ok_bind]
      change (if hash < union.unionTheta ∧ hash < union.table.theta then _ else _) = _
      split
      · change ((union.table.reseed seed).findOrInsert hash >>= fun table => _) = _
        rw [HashTable.findOrInsert_reseed]
        cases union.table.findOrInsert hash with
        | error exit => rfl
        | ok table => exact ih { union with table := table }
      · split
        · rfl
        · exact ih union

def ThetaUnion.opened (union : ThetaUnion) (sketch : SketchView) : ThetaUnion where
  table := { union.table with isEmpty := false }
  unionTheta := min union.unionTheta sketch.theta

def ThetaUnion.accept (union : ThetaUnion) (sketch : SketchView) : Run ThetaUnion := do
  let union ← ThetaUnion.updateLoop sketch.isOrdered (union.opened sketch) sketch.entries
  return { union with unionTheta := min union.unionTheta union.table.theta }

theorem ThetaUnion.update_passes {union : ThetaUnion} {view : SketchView}
    (same : view.seedHash = computeSeedHash union.table.seed) :
    union.update view = if view.isEmpty then .ok union else union.accept view := by
  simp [ThetaUnion.update, ThetaUnion.accept, ThetaUnion.opened, same]

theorem ThetaUnion.accept_rehash (union : ThetaUnion) (view : SketchView) (seedHash : ℕ) :
    union.accept (view.rehash seedHash) = union.accept view := rfl

theorem ThetaUnion.accept_reseed (union : ThetaUnion) (view : SketchView) :
    (union.reseed seed).accept view = (fun next : ThetaUnion => next.reseed seed) <$> union.accept view := by
  have opened : (union.reseed seed).opened view = (union.opened view).reseed seed := rfl
  rw [ThetaUnion.accept, ThetaUnion.accept, opened, ThetaUnion.updateLoop_reseed]
  cases ThetaUnion.updateLoop view.isOrdered (union.opened view) view.entries <;> rfl

theorem ThetaUnion.update_reseed {seed : UInt64} {union next : ThetaUnion} {view : SketchView}
    (same : view.seedHash = computeSeedHash seed)
    (run : union.update (view.rehash (computeSeedHash union.table.seed)) = .ok next) :
    (union.reseed seed).update view = .ok (next.reseed seed) := by
  have reseeded : view.seedHash = computeSeedHash (union.reseed seed).table.seed := same
  rw [ThetaUnion.update_passes (view.rehash_seedHash _), SketchView.rehash_isEmpty] at run
  rw [ThetaUnion.update_passes reseeded]
  by_cases flagged : view.isEmpty = true
  · rw [if_pos flagged] at run ⊢
    cases run
    rfl
  · rw [if_neg flagged] at run ⊢
    rw [ThetaUnion.accept_rehash] at run
    rw [ThetaUnion.accept_reseed, run]
    rfl

theorem ThetaUnion.getResult_reseed (union : ThetaUnion) (ordered : Bool) :
    (union.reseed seed).getResult ordered = (union.getResult ordered).rehash (computeSeedHash seed) := by
  change ThetaUnion.getResult ⟨union.table.reseed seed, union.unionTheta⟩ ordered = _
  simp only [ThetaUnion.getResult, HashTable.reseed_isEmpty]
  by_cases flagged : union.table.isEmpty = true
  · rw [if_pos flagged, if_pos flagged]
    rfl
  · rw [if_neg flagged, if_neg flagged]
    rfl

end Reseed

/-! Results that are not sorted. -/

theorem ThetaUnion.getResult_sorts (union : ThetaUnion) :
    union.getResult true = { union.getResult false with
      isOrdered := true
      entries := sort (union.getResult false).entries } := by
  cases flagged : union.table.isEmpty with
  | true => simp [ThetaUnion.getResult, flagged, CompactSketch.new, sort]
  | false => simp [ThetaUnion.getResult, flagged, CompactSketch.new]

theorem ThetaUnion.getResult_isOrdered (union : ThetaUnion)
    (flagged : (union.getResult false).isOrdered = true) : (union.getResult false).entries.length ≤ 1 := by
  cases blank : union.table.isEmpty with
  | true => simp [ThetaUnion.getResult, blank, CompactSketch.new]
  | false => simpa [ThetaUnion.getResult, blank, CompactSketch.new] using flagged

theorem sorted_of_length_le_one {entries : List ℕ} (short : entries.length ≤ 1) :
    entries.Pairwise (· < ·) := by
  cases entries with
  | nil => exact List.Pairwise.nil
  | cons first rest =>
    cases rest with
    | nil => exact List.pairwise_singleton _ _
    | cons second rest => simp at short

theorem card_of_lowered {k bound low : ℕ} {U E : Finset ℕ} (cut : IsCut k bound U low E)
    (lower : low < bound) : k < U.card := by
  rcases cut.capacity with ⟨same, _⟩ | ⟨_, member, full⟩
  · exact absurd same lower.ne
  · rw [← full]
    have missing : low ∉ E := by
      rw [cut.sampled, mem_sample]
      exact fun inside => lt_irrefl _ inside.2
    refine Finset.card_lt_card ⟨?_, fun back => missing (back member)⟩
    rw [cut.sampled]
    exact Finset.filter_subset _ _

theorem validInput_of_cut {seed : UInt64} {u : CompactSketch} {k bound : ℕ} {U : Finset ℕ}
    (full : u.isEmpty = false) (ordered : u.isOrdered = true → u.entries.length ≤ 1)
    (theta : u.theta = cutBound k bound U) (sorted : sort u.entries = cutKeys k bound U)
    (narrow : k < 2 ^ 29) (le : bound ≤ maxTheta) (nonzero : 0 ∉ U) :
    ValidInput seed (u.view.rehash (computeSeedHash seed)) u.entries := by
  have same := sort_perm u.entries
  rw [sorted] at same
  have short := length_cutKeys_le k bound U
  rw [same.length_eq] at short
  have range : ∀ hash ∈ u.entries, 0 < hash ∧ hash < u.theta := by
    intro hash member
    obtain ⟨inside, below⟩ := mem_cutKeys.mp (same.mem_iff.mpr member)
    exact ⟨Nat.pos_of_ne_zero fun zero => nonzero (zero ▸ inside), below.trans_eq theta.symm⟩
  refine ⟨u.view_entries fun hash member => (range hash member).1, rfl, short.trans_lt narrow, ?_, range,
    ?_, ?_, rfl, fun flagged => ?_⟩
  · exact same.nodup_iff.mp (nodup_of_sorted (cutKeys_pairwise k bound U))
  · exact theta.trans_le ((cutBound_le k bound U).trans le)
  · exact fun flagged => sorted_of_length_le_one (ordered flagged)
  · exact absurd (full.symm.trans flagged) Bool.false_ne_true

namespace JaccardSimilarity

variable {seed : UInt64} {a b : SketchView} {A B : List ℕ}

/-- What the union holds: the entries of both sketches below both bounds, unless they are
more than the largest nominal number. -/
theorem computeUnion_spec (validA : ValidInput seed a A) (validB : ValidInput seed b B)
    (fullA : a.isEmpty = false) (fullB : b.isEmpty = false) :
    ∃ lgK u, computeUnion a b seed = .ok u ∧ lgK ≤ maxLgK ∧
      (A.length + B.length ≤ 2 ^ lgK ∨ lgK = maxLgK) ∧ u.isEmpty = false ∧ ValidInput seed u.view u.entries ∧
      IsCut (2 ^ lgK) (min a.theta b.theta) (A.toFinset ∪ B.toFinset) u.theta u.entries.toFinset := by
  obtain ⟨lgK, isLgK⟩ : ∃ lgK, lgK = min (max (Nat.log2 (ceilingPowerOf2
    (UInt32.ofNat (a.numRetained + b.numRetained))).toNat) minLgK) maxLgK := ⟨_, rfl⟩
  have large : minLgK ≤ lgK := isLgK ▸ le_min (le_max_right _ _) (by decide)
  have small : lgK ≤ maxLgK := isLgK ▸ min_le_right _ _
  have wide : A.length + B.length ≤ 2 ^ lgK ∨ lgK = maxLgK := by
    have fewA := validA.few
    have fewB := validB.few
    have count : (UInt32.ofNat (a.numRetained + b.numRetained)).toNat = A.length + B.length := by
      rw [validA.count, validB.count]
      exact UInt32.toNat_ofNat_of_lt' (by rw [UInt32.size]; omega)
    have room := @le_ceilingPowerOf2 (UInt32.ofNat (a.numRetained + b.numRetained)) (by omega)
    rw [count] at room
    rcases Nat.lt_or_ge lgK maxLgK with lower | top
    · refine .inl (room.trans (Nat.pow_le_pow_right Nat.two_pos ?_))
      omega
    · exact .inr (le_antisymm small top)
  -- The run under the default seed.
  have start := unites_new { lgK := lgK } large rfl rfl
  obtain ⟨first, runA, unites, _, nominalA⟩ := start.update validA.rehash fullA
  obtain ⟨second, runB, unites', full, nominalB⟩ := unites.update validB.rehash fullB
  have nominal : second.table.lgNomSize = lgK := nominalB.trans nominalA
  have result := unites'.getResult_eq
  rw [nominal, second.getResult_sorts, full, SketchView.rehash_theta, SketchView.rehash_theta,
    min_eq_right validA.bound, Finset.empty_union] at result
  obtain ⟨empties, _, _, bound, sorted⟩ := CompactSketch.mk.inj result
  have kept : (second.getResult false).entries.toFinset =
      (cutKeys (2 ^ lgK) (min a.theta b.theta) (A.toFinset ∪ B.toFinset)).toFinset := by
    rw [← toFinset_sort, sorted]
  have cut := isCut_cut (2 ^ lgK) (min a.theta b.theta) (A.toFinset ∪ B.toFinset)
  rw [← bound, ← kept] at cut
  -- The same run under the seed that was given.
  have stepA : ((ThetaUnion.new { lgK := lgK }).reseed seed).update a = .ok (first.reseed seed) :=
    ThetaUnion.update_reseed validA.seedHash (by rw [start.seed]; exact runA)
  have stepB : (first.reseed seed).update b = .ok (second.reseed seed) :=
    ThetaUnion.update_reseed validB.seedHash (by rw [unites.seed]; exact runB)
  refine ⟨lgK, (second.getResult false).rehash (computeSeedHash seed), ?_, small, wide, ?_, ?_, ?_⟩
  · have build : ThetaUnion.new { lgK := lgK, seed := seed } =
        (ThetaUnion.new { lgK := lgK }).reseed seed := rfl
    rw [computeUnion, ← isLgK, build]
    simp only [stepA, stepB, Run.ok_bind, ThetaUnion.getResult_reseed, Run.pure_eq]
  · rwa [CompactSketch.rehash_isEmpty]
  · rw [CompactSketch.rehash_view, CompactSketch.rehash_entries]
    refine validInput_of_cut empties second.getResult_isOrdered bound sorted
      ((Nat.pow_le_pow_right Nat.two_pos small).trans_lt (by decide))
      ((min_le_left _ _).trans validA.bound) ?_
    have proper := unites'.proper
    rwa [Finset.empty_union] at proper
  · rwa [CompactSketch.rehash_theta, CompactSketch.rehash_entries]

/-! Equal sketches. -/

def Alike (a b : SketchView) (A B : List ℕ) : Prop :=
  a.isEmpty = b.isEmpty ∧ a.theta = b.theta ∧ A.toFinset = B.toFinset

/-- The union has the counts and the bounds of both sketches just when they are alike and
no larger than the largest nominal number. -/
theorem identicalSets_iff (validA : ValidInput seed a A) (validB : ValidInput seed b B)
    (fullA : a.isEmpty = false) (fullB : b.isEmpty = false) {lgK : ℕ} {u : CompactSketch}
    (small : lgK ≤ maxLgK) (wide : A.length + B.length ≤ 2 ^ lgK ∨ lgK = maxLgK) (validU : ValidInput seed u.view u.entries)
    (cut : IsCut (2 ^ lgK) (min a.theta b.theta) (A.toFinset ∪ B.toFinset) u.theta u.entries.toFinset) :
    identicalSets a b u.view = true ↔ Alike a b A B ∧ A.length ≤ 2 ^ maxLgK := by
  have cardA := List.toFinset_card_of_nodup validA.distinct
  have cardB := List.toFinset_card_of_nodup validB.distinct
  have cardU := List.toFinset_card_of_nodup validU.distinct
  have countU : u.view.numRetained = u.entries.length := rfl
  have thetaU : u.view.theta = u.theta := rfl
  simp only [identicalSets, Bool.and_eq_true, decide_eq_true_iff, validA.count, validB.count, countU,
    thetaU]
  constructor
  · rintro ⟨⟨⟨countA, countB⟩, sameA⟩, sameB⟩
    -- The bound was not lowered, so nothing was cut.
    obtain ⟨_, fits⟩ : u.theta = min a.theta b.theta ∧ u.entries.toFinset.card ≤ 2 ^ lgK := by
      rcases cut.capacity with whole | ⟨lower, _⟩
      · exact whole
      · exact absurd lower (by rw [← sameA, ← sameB, min_self]; exact lt_irrefl _)
    have below : ∀ hash ∈ A.toFinset ∪ B.toFinset, hash < u.theta := fun hash member => by
      rw [Finset.mem_union, List.mem_toFinset, List.mem_toFinset] at member
      rcases member with inA | inB
      · exact sameA ▸ (validA.range hash inA).2
      · exact sameB ▸ (validB.range hash inB).2
    have all : u.entries.toFinset = A.toFinset ∪ B.toFinset :=
      cut.sampled.trans (Finset.filter_true_of_mem below)
    have keysA : A.toFinset = A.toFinset ∪ B.toFinset :=
      Finset.eq_of_subset_of_card_le Finset.subset_union_left (by rw [← all, cardU, cardA, countA])
    have keysB : B.toFinset = A.toFinset ∪ B.toFinset :=
      Finset.eq_of_subset_of_card_le Finset.subset_union_right (by rw [← all, cardU, cardB, countB])
    refine ⟨⟨fullA.trans fullB.symm, sameA.symm.trans sameB, keysA.trans keysB.symm⟩, ?_⟩
    rw [← countA, ← cardU]
    exact fits.trans (Nat.pow_le_pow_right Nat.two_pos small)
  · rintro ⟨⟨_, sameTheta, sameKeys⟩, few⟩
    have sameCount : A.length = B.length := by rw [← cardA, ← cardB, sameKeys]
    rw [← sameTheta, ← sameKeys, min_self, Finset.union_self] at cut
    -- Entries that were cut away would be more than any sketch takes.
    have whole : u.theta = a.theta := by
      rcases cut.le.lt_or_eq with lower | whole
      · have more := card_of_lowered cut lower
        rw [cardA] at more
        rcases wide with room | top
        · omega
        · rw [top] at more
          omega
      · exact whole
    have all : u.entries.toFinset = A.toFinset := by
      rw [cut.sampled, whole]
      exact Finset.filter_true_of_mem fun hash inA => (validA.range hash (List.mem_toFinset.mp inA)).2
    have count : u.entries.length = A.length := by rw [← cardU, ← cardA, all]
    exact ⟨⟨⟨count, count.trans sameCount⟩, whole⟩, whole.trans sameTheta⟩

/-- Two sketches compare as equal just when they are one object, or they are alike and no
larger than the largest nominal number. Comparing them never fails. -/
theorem exactlyEqual_iff (validA : ValidInput seed a A) (validB : ValidInput seed b B) (same : Bool) :
    ∃ verdict, exactlyEqual same a b seed = .ok verdict ∧
      (verdict = true ↔ same = true ∨ Alike a b A B ∧ A.length ≤ 2 ^ maxLgK) := by
  cases same with
  | true => exact ⟨true, rfl, by simp⟩
  | false =>
    cases flagA : a.isEmpty with
    | true =>
      obtain ⟨noneA, wholeA⟩ := validA.empty flagA
      cases flagB : b.isEmpty with
      | true =>
        obtain ⟨noneB, wholeB⟩ := validB.empty flagB
        refine ⟨true, by simp [exactlyEqual, flagA, flagB], ?_⟩
        simp [Alike, flagA, flagB, noneA, noneB, wholeA, wholeB]
      | false =>
        exact ⟨false, by simp [exactlyEqual, flagA, flagB], by simp [Alike, flagA, flagB]⟩
    | false =>
      cases flagB : b.isEmpty with
      | true => exact ⟨false, by simp [exactlyEqual, flagA, flagB], by simp [Alike, flagA, flagB]⟩
      | false =>
        obtain ⟨lgK, u, run, small, wide, _, validU, cut⟩ := computeUnion_spec validA validB flagA flagB
        refine ⟨identicalSets a b u.view, by simp [exactlyEqual, flagA, flagB, run], ?_⟩
        rw [identicalSets_iff validA validB flagA flagB small wide validU cut]
        simp

theorem exactlyEqual_unordered :
    exactlyEqual false (CompactSketch.view ⟨false, true, computeSeedHash 7, maxTheta, [2, 5]⟩)
      (CompactSketch.view ⟨false, false, computeSeedHash 7, maxTheta, [5, 2]⟩) 7 = .ok true := by
  obtain ⟨verdict, run, meaning⟩ := @exactlyEqual_iff 7
    (CompactSketch.view ⟨false, true, computeSeedHash 7, maxTheta, [2, 5]⟩)
    (CompactSketch.view ⟨false, false, computeSeedHash 7, maxTheta, [5, 2]⟩) [2, 5] [5, 2]
    ⟨rfl, rfl, by decide, by decide, by decide, by decide, by decide, rfl, by decide⟩
    ⟨rfl, rfl, by decide, by decide, by decide, by decide, by decide, rfl, by decide⟩ false
  rw [run, meaning.mpr (.inr ⟨⟨rfl, rfl, by decide⟩, by decide⟩)]

/-! The intersection with the union. -/

end JaccardSimilarity

end ThetaSketch
