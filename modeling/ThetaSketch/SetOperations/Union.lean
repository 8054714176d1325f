import ThetaSketch.Sketch.Sketch

/-! The union of sketches.

A union keeps the smallest `theta` of its inputs beside the table, and the table
may hold keys that this bound disqualifies. Only the result drops them. The
invariant `Unites` speaks of the keys below the bound alone, which makes it
blind to the moment at which the table was cut.
-/

set_option autoImplicit false

namespace ThetaSketch

open OpenAddressing Threshold

structure ThetaUnion where
  table : HashTable
  unionTheta : ℕ
  deriving Repr

namespace ThetaUnion

def new (builder : ThetaBaseBuilder) : ThetaUnion := ⟨builder.table, builder.table.theta⟩

def updateLoop (ordered : Bool) : ThetaUnion → List (Run ℕ) → Run ThetaUnion
  | union, [] => return union
  | union, read :: rest => do
    let hash ← read
    if hash < union.unionTheta ∧ hash < union.table.theta then
      let table ← union.table.findOrInsert hash
      updateLoop ordered { union with table := table } rest
    else if ordered then return union
    else updateLoop ordered union rest

def update (union : ThetaUnion) (sketch : SketchView) : Run ThetaUnion := do
  if sketch.isEmpty then return union
  if sketch.seedHash ≠ computeSeedHash union.table.seed then
    throw (.invalidArg "seed hash mismatch")
  let start : ThetaUnion := {
    table := { union.table with isEmpty := false }
    unionTheta := min union.unionTheta sketch.theta }
  let union ← updateLoop sketch.isOrdered start sketch.entries
  return { union with unionTheta := min union.unionTheta union.table.theta }

def getResult (union : ThetaUnion) (ordered : Bool) : CompactSketch :=
  let table := union.table
  let seedHash := computeSeedHash table.seed
  if table.isEmpty then CompactSketch.new true true seedHash union.unionTheta []
  else
    let theta := min union.unionTheta table.theta
    let nominalNum := 2 ^ table.lgNomSize
    let entries := if table.theta ≤ union.unionTheta then table.iterate
      else table.iterate.filter (· < theta)
    let (theta, entries) := if nominalNum < entries.length then
        let partitioned := nthElement entries
        (partitioned[nominalNum]?.getD theta, partitioned.take nominalNum)
      else (theta, entries)
    let entries := if ordered then sort entries else entries
    CompactSketch.new table.isEmpty ordered seedHash theta entries

end ThetaUnion

/-- A union over inputs whose smallest `theta` is `bound` and whose entries
together are `A`. A union that saw no proper input is blank. -/
structure Unites (union : ThetaUnion) (bound : ℕ) (A : Finset ℕ) : Prop where
  grows : Grows union.table
  counted : union.table.stored.card = union.table.numEntries
  le : union.unionTheta ≤ union.table.theta
  trims : Trims (2 ^ union.table.lgNomSize) bound A union.unionTheta union.table.stored
  seed : union.table.seed = defaultSeed
  proper : 0 ∉ A
  blank : union.table.isEmpty = true → bound = maxTheta ∧ A = ∅

theorem unites_new (builder : ThetaBaseBuilder) (large : minLgK ≤ builder.lgK)
    (whole : builder.p = 1) (seed : builder.seed = defaultSeed) :
    Unites (ThetaUnion.new builder) maxTheta ∅ := by
  have start : builder.startingTheta = maxTheta := by
    simp [ThetaBaseBuilder.startingTheta, startingThetaFromP, whole]
  have gathers := gathers_new builder large
  rw [start] at gathers
  refine ⟨gathers.grows, gathers.counted, le_rfl, ?_, seed, gathers.proper,
    fun _ => ⟨rfl, rfl⟩⟩
  exact gathers.trims

theorem ThetaUnion.updateLoop_spec {ordered : Bool} (E : List ℕ)
    (sorted : ordered = true → E.Pairwise (· < ·)) {union : ThetaUnion}
    (grows : Grows union.table) :
    ∃ table, ThetaUnion.updateLoop ordered union (E.map .ok) = .ok { union with table := table } ∧
      Absorbs union.table (sample E.toFinset union.unionTheta) table := by
  induction E generalizing union with
  | nil => exact ⟨union.table, rfl, Absorbs.refl grows (by simp)⟩
  | cons hash rest ih =>
    have sortedRest : ordered = true → rest.Pairwise (· < ·) := fun flagged =>
      (List.pairwise_cons.mp (sorted flagged)).2
    simp only [List.map_cons, ThetaUnion.updateLoop, Run.ok_bind]
    by_cases wanted : hash < union.unionTheta ∧ hash < union.table.theta
    · obtain ⟨next, run, step⟩ := grows.findOrInsert wanted.2
      obtain ⟨table, loop, steps⟩ := @ih sortedRest { union with table := next } step.grows
      refine ⟨table, by simp only [if_pos wanted, run, Run.ok_bind, loop], ?_⟩
      have split : sample (hash :: rest).toFinset union.unionTheta =
          {hash} ∪ sample rest.toFinset union.unionTheta := by
        ext x
        simp only [mem_sample, List.mem_toFinset, List.mem_cons, Finset.mem_union,
          Finset.mem_singleton]
        constructor
        · rintro ⟨rfl | member, below⟩
          · exact Or.inl rfl
          · exact Or.inr ⟨member, below⟩
        · rintro (rfl | ⟨member, below⟩)
          · exact ⟨Or.inl rfl, wanted.1⟩
          · exact ⟨Or.inr member, below⟩
      rw [split]
      exact step.trans steps
    · rw [if_neg wanted]
      -- A refused hash has nothing to add: it reaches one of the two bounds.
      have refused : ∀ x, hash ≤ x → ¬ (x < union.unionTheta ∧ x < union.table.theta) :=
        fun x above below => wanted ⟨above.trans_lt below.1, above.trans_lt below.2⟩
      cases flagged : ordered with
      | true =>
        refine ⟨union.table, by simp, Absorbs.refl grows ?_⟩
        intro x member below
        rw [mem_sample, List.mem_toFinset] at member
        have above : hash ≤ x := by
          rcases List.mem_cons.mp member.1 with rfl | later
          · exact le_rfl
          · exact ((List.pairwise_cons.mp (sorted flagged)).1 x later).le
        exact absurd ⟨member.2, below⟩ (refused x above)
      | false =>
        rw [flagged] at ih sortedRest
        obtain ⟨table, loop, steps⟩ := ih sortedRest grows
        refine ⟨table, by simpa using loop, ?_⟩
        have first : Absorbs union.table (sample {hash} union.unionTheta) union.table := by
          refine Absorbs.refl grows fun x member below => ?_
          rw [mem_sample, Finset.mem_singleton] at member
          exact absurd ⟨member.2, below⟩ (refused x member.1.ge)
        have split : sample (hash :: rest).toFinset union.unionTheta =
            sample {hash} union.unionTheta ∪ sample rest.toFinset union.unionTheta := by
          rw [List.toFinset_cons, Finset.insert_eq, sample_union]
        rw [split]
        exact first.trans steps

theorem ThetaUnion.update_spec {union : ThetaUnion} {view : SketchView} {E : List ℕ}
    (grows : Grows union.table) (reads : view.entries = E.map .ok)
    (sorted : view.isOrdered = true → E.Pairwise (· < ·)) (proper : view.isEmpty = false)
    (seed : view.seedHash = computeSeedHash union.table.seed) :
    ∃ table, union.update view = .ok {
        table := table, unionTheta := min (min union.unionTheta view.theta) table.theta } ∧
      Absorbs { union.table with isEmpty := false }
        (sample E.toFinset (min union.unionTheta view.theta)) table := by
  obtain ⟨table, loop, step⟩ := @ThetaUnion.updateLoop_spec _ E sorted {
    table := { union.table with isEmpty := false }
    unionTheta := min union.unionTheta view.theta } grows.opened
  exact ⟨table, by simp [ThetaUnion.update, proper, reads, loop, seed], step⟩

namespace Unites

variable {union : ThetaUnion} {bound : ℕ} {A : Finset ℕ} {view : SketchView} {E : List ℕ}

theorem update_empty (flagged : view.isEmpty = true) : union.update view = .ok union := by
  simp [ThetaUnion.update, flagged]

theorem update (unites : Unites union bound A) (valid : view.Valid E)
    (proper : view.isEmpty = false) :
    ∃ next, union.update view = .ok next ∧
      Unites next (min bound view.theta) (A ∪ E.toFinset) ∧
      next.table.isEmpty = false ∧ next.table.lgNomSize = union.table.lgNomSize := by
  have seed : view.seedHash = computeSeedHash union.table.seed :=
    (valid.seed proper).trans (congrArg computeSeedHash unites.seed.symm)
  obtain ⟨table, run, step⟩ :=
    ThetaUnion.update_spec unites.grows valid.reads valid.ordered proper seed
  have zero : 0 ∉ sample E.toFinset (min union.unionTheta view.theta) := by
    rw [mem_sample, List.mem_toFinset]
    exact fun member => absurd (valid.range 0 member.1).1 (lt_irrefl 0)
  have zeroAll : 0 ∉ union.table.stored ∪ sample E.toFinset (min union.unionTheta view.theta) := by
    rw [Finset.notMem_union]
    exact ⟨by simp [HashTable.stored], zero⟩
  obtain ⟨counted, cut⟩ := step.exact zero unites.counted
  have nominal : table.lgNomSize = union.table.lgNomSize := step.lgNomSize
  refine ⟨_, run, ⟨step.grows, counted, min_le_right _ _, ?_, step.seed.trans unites.seed, ?_, ?_⟩,
    step.isEmpty, nominal⟩
  · -- The inputs are trimmed to the common bound, then cut with the table.
    have stored : table.stored =
        sample (union.table.stored ∪ sample E.toFinset (min union.unionTheta view.theta))
          table.theta := by
      rw [step.stored]
      exact congrArg (sample · _) (Finset.erase_eq_of_notMem zeroAll)
    have both := unites.trims.union (Trims.refl _ view.theta E.toFinset)
    have offered : Trims (2 ^ union.table.lgNomSize) (min bound view.theta) (A ∪ E.toFinset)
        (min union.unionTheta view.theta)
        (union.table.stored ∪ sample E.toFinset (min union.unionTheta view.theta)) := by
      refine ⟨?_, both.crowded⟩
      rw [sample_union, sample_sample, min_self, ← sample_union]
      exact both.kept
    change Trims (2 ^ table.lgNomSize) _ _ _ table.stored
    rw [nominal, stored]
    refine offered.lower fun below => ?_
    rcases cut with same | ⟨member, full⟩
    · have above := unites.le
      change table.theta = union.table.theta at same
      omega
    · rw [stored] at full
      exact ⟨member, full⟩
  · rw [Finset.notMem_union, List.mem_toFinset]
    exact ⟨unites.proper, fun member => absurd (valid.range 0 member).1 (lt_irrefl 0)⟩
  · intro flagged
    have isEmpty : table.isEmpty = false := step.isEmpty
    rw [isEmpty] at flagged
    cases flagged

/-- What came in may have been trimmed before: the union stands for what it was
trimmed out of. -/
theorem update_trimmed (unites : Unites union bound A) (valid : view.Valid E)
    (proper : view.isEmpty = false) {least : ℕ} {U : Finset ℕ} (nonzero : 0 ∉ U)
    (trims : Trims (2 ^ union.table.lgNomSize) least U view.theta E.toFinset) :
    ∃ next, union.update view = .ok next ∧ Unites next (min bound least) (A ∪ U) ∧
      next.table.isEmpty = false ∧ next.table.lgNomSize = union.table.lgNomSize := by
  obtain ⟨next, run, after, full, nominal⟩ := unites.update valid proper
  have both := (Trims.refl _ bound A).union trims
  rw [← nominal] at both
  refine ⟨next, run, ⟨after.grows, after.counted, after.le, both.trans after.trims, after.seed, ?_, ?_⟩,
    full, nominal⟩
  · rw [Finset.notMem_union]
    exact ⟨unites.proper, nonzero⟩
  · intro flagged
    rw [full] at flagged
    cases flagged

theorem copied (unites : Unites union bound A) {entries : List ℕ}
    (copy : entries = if union.table.theta ≤ union.unionTheta then union.table.iterate
      else union.table.iterate.filter (· < min union.unionTheta union.table.theta)) :
    sort entries = (sample union.table.stored union.unionTheta).sort (· ≤ ·) := by
  have distinct : union.table.iterate.Nodup := unites.grows.slots.placed.nodup
  have members : union.table.iterate.toFinset = union.table.stored := toFinset_keyNotZero _
  have inside : ∀ x, x ∈ union.table.iterate ↔ x ∈ union.table.stored := by
    intro x
    rw [← members, List.mem_toFinset]
  rw [min_eq_left unites.le] at copy
  have nodup : entries.Nodup := by
    rw [copy]
    split
    · exact distinct
    · exact distinct.filter _
  refine sorted_unique (sort_sorted nodup) (Finset.sortedLT_sort _).pairwise ?_
  rw [toFinset_sort, Finset.sort_toFinset, copy]
  ext x
  rw [List.mem_toFinset, mem_sample]
  split
  next low =>
    rw [inside]
    exact ⟨fun member => ⟨member, (unites.grows.below x member).trans_le low⟩,
      fun member => member.1⟩
  next => rw [List.mem_filter, inside, decide_eq_true_iff]

/-- The result is the cut of everything that was united, whatever was cut before. -/
theorem getResult_eq (unites : Unites union bound A) :
    union.getResult true = {
      isEmpty := union.table.isEmpty
      isOrdered := true
      seedHash := computeSeedHash defaultSeed
      theta := cutBound (2 ^ union.table.lgNomSize) bound A
      entries := cutKeys (2 ^ union.table.lgNomSize) bound A } := by
  have cut := isCut_cut (2 ^ union.table.lgNomSize) union.unionTheta union.table.stored
  obtain ⟨sameBound, sameKeys⟩ := cut_congr (unites.trims.cut cut)
  rw [← sameBound, ← sameKeys]
  unfold ThetaUnion.getResult
  dsimp only
  cases flagged : union.table.isEmpty with
  | true =>
    obtain ⟨whole, rfl⟩ := unites.blank flagged
    have none_kept : sample union.table.stored union.unionTheta = ∅ := by
      rw [unites.trims.kept]
      rfl
    simp [CompactSketch.new, unites.seed, cutBound, cutKeys, none_kept]
  | false =>
    generalize copy : (if union.table.theta ≤ union.unionTheta then union.table.iterate
      else union.table.iterate.filter (· < min union.unionTheta union.table.theta)) = entries
    have sorted := unites.copied copy.symm
    have partitioned : nthElement entries = sort entries := rfl
    have resort : ∀ count, sort ((sort entries).take count) = (sort entries).take count :=
      fun count => ((List.pairwise_insertionSort (· ≤ ·) entries).sublist
        (List.take_sublist count _)).insertionSort_eq
    rw [min_eq_left unites.le, cutBound, cutKeys, ← sorted]
    by_cases full : 2 ^ union.table.lgNomSize < entries.length
    · simp [full, CompactSketch.new, unites.seed, partitioned, resort]
    · have short : (sort entries).length ≤ 2 ^ union.table.lgNomSize := by
        rw [(sort_perm entries).length_eq]
        omega
      simp [full, CompactSketch.new, unites.seed, List.take_of_length_le short,
        List.getElem?_eq_none short]

end Unites

end ThetaSketch
