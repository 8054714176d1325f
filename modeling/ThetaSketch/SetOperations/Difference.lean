import ThetaSketch.Sketch.Sketch
import ThetaSketch.Table.Filling

/-! The difference of two sketches.

Ordered inputs are merged as `std::set_difference` does, others are looked up in
a table of the second sketch. Two early exits copy the first sketch.
-/

set_option autoImplicit false

namespace ThetaSketch

open OpenAddressing Threshold

structure ThetaANotB where
  seedHash : ℕ
  deriving Repr

namespace ThetaANotB

def new (seed : UInt64) : ThetaANotB := ⟨computeSeedHash seed⟩

/-- `std::set_difference` over two ranges of reads. -/
def setDifference : List (Run ℕ) → List (Run ℕ) → Run (List ℕ)
  | [], _ => return []
  | a :: as, [] => (a :: as).mapM id
  | a :: as, b :: bs => do
    let first ← a
    let second ← b
    if first < second then
      let rest ← setDifference as (b :: bs)
      return first :: rest
    else if second < first then setDifference (a :: as) bs
    else setDifference as bs
  termination_by as bs => as.length + bs.length

def fillLoop (theta : ℕ) (ordered : Bool) : HashTable → List (Run ℕ) → Run HashTable
  | table, [] => return table
  | table, read :: rest => do
    let hash ← read
    if hash < theta then
      let table ← table.put hash
      fillLoop theta ordered table rest
    else if ordered then return table
    else fillLoop theta ordered table rest

def scanLoop (theta : ℕ) (ordered : Bool) (table : HashTable) : List (Run ℕ) → Run (List ℕ)
  | [] => return []
  | read :: rest => do
    let hash ← read
    if hash < theta then
      let result ← table.find hash
      let others ← scanLoop theta ordered table rest
      return if result.2 then others else hash :: others
    else if ordered then return []
    else scanLoop theta ordered table rest

/-- The three ways to find the entries that stay. -/
def difference (a b : SketchView) (theta : ℕ) : Run (List ℕ) := do
  if b.numRetained = 0 then
    let entries ← a.entries.mapM id
    return entries.filter (· < theta)
  else if a.isOrdered && b.isOrdered then
    let entries ← setDifference a.entries b.entries
    return entries.filter (· < theta)
  else
    let lgSize := lgSizeFromCount b.numRetained
    let table ← fillLoop theta b.isOrdered (HashTable.new lgSize lgSize .X1 1 0 0 true) b.entries
    scanLoop theta a.isOrdered table a.entries

def compute (aNotB : ThetaANotB) (a b : SketchView) (ordered : Bool) : Run CompactSketch := do
  if a.isEmpty || (decide (0 < a.numRetained) && b.isEmpty) then
    return ← CompactSketch.ofSketch a ordered
  if a.seedHash ≠ aNotB.seedHash then throw (.invalidArg "A seed hash mismatch")
  if b.seedHash ≠ aNotB.seedHash then throw (.invalidArg "B seed hash mismatch")
  let theta := min a.theta b.theta
  let entries ← difference a b theta
  let isEmpty := a.isEmpty || (entries.isEmpty && decide (theta = maxTheta))
  let entries := if ordered && !a.isOrdered then sort entries else entries
  return CompactSketch.new isEmpty (a.isOrdered || ordered) aNotB.seedHash theta entries

end ThetaANotB

open ThetaANotB

theorem setDifference_eq (A B : List ℕ) (sortedA : A.Pairwise (· < ·))
    (sortedB : B.Pairwise (· < ·)) :
    setDifference (A.map .ok) (B.map .ok) = .ok (A.filter (· ∉ B)) := by
  induction A generalizing B with
  | nil => simp [setDifference]
  | cons a as ihA =>
    obtain ⟨belowA, sortedAs⟩ := List.pairwise_cons.mp sortedA
    induction B with
    | nil =>
      rw [List.map_nil, List.map_cons, setDifference, ← List.map_cons, mapM_map_ok]
      simp
    | cons b bs ihB =>
      obtain ⟨belowB, sortedBs⟩ := List.pairwise_cons.mp sortedB
      simp only [List.map_cons, setDifference, Run.ok_bind]
      rcases lt_trichotomy a b with lower | same | higher
      · have absent : a ∉ b :: bs := by
          intro member
          rcases List.mem_cons.mp member with rfl | later
          · exact lt_irrefl _ lower
          · exact lt_asymm lower (belowB a later)
        have rest := ihA (b :: bs) sortedAs sortedB
        rw [List.map_cons] at rest
        rw [if_pos lower, rest, List.filter_cons_of_pos (by simpa using absent)]
        rfl
      · -- The shared entry is dropped; nothing later in the first range equals it.
        subst same
        have rest : as.filter (· ∉ bs) = as.filter (· ∉ a :: bs) := by
          refine List.filter_congr fun x member => ?_
          simp [(belowA x member).ne']
        rw [if_neg (lt_irrefl _), if_neg (lt_irrefl _), ihA bs sortedAs sortedBs,
          List.filter_cons_of_neg (by simp), rest]
      · have rest : (a :: as).filter (· ∉ bs) = (a :: as).filter (· ∉ b :: bs) := by
          refine List.filter_congr fun x member => ?_
          have above : b < x := by
            rcases List.mem_cons.mp member with rfl | later
            · exact higher
            · exact higher.trans (belowA x later)
          simp [above.ne']
        have inner := ihB sortedBs
        rw [List.map_cons] at inner
        rw [if_neg higher.not_gt, if_pos higher, inner, rest]

theorem filter_eq_nil_of_sorted {hash theta : ℕ} {rest : List ℕ} (wanted : ℕ → Bool)
    (sorted : (hash :: rest).Pairwise (· < ·)) (reached : ¬ hash < theta) :
    rest.filter (fun x => decide (x < theta) && wanted x) = [] := by
  rw [List.filter_eq_nil_iff]
  intro x member kept
  have above := (List.pairwise_cons.mp sorted).1 x member
  simp only [Bool.and_eq_true, decide_eq_true_iff] at kept
  omega

theorem fillLoop_eq (theta : ℕ) {ordered : Bool} (table : HashTable) (B : List ℕ)
    (sorted : ordered = true → B.Pairwise (· < ·)) :
    ThetaANotB.fillLoop theta ordered table (B.map .ok) =
      (B.filter (· < theta)).foldlM HashTable.put table := by
  induction B generalizing table with
  | nil => rfl
  | cons hash rest ih =>
    have sortedRest : ordered = true → rest.Pairwise (· < ·) := fun flagged =>
      (List.pairwise_cons.mp (sorted flagged)).2
    simp only [List.map_cons, ThetaANotB.fillLoop, Run.ok_bind, ih _ sortedRest]
    by_cases below : hash < theta
    · rw [if_pos below, List.filter_cons_of_pos (by simpa using below), List.foldlM_cons]
    · rw [if_neg below, List.filter_cons_of_neg (by simpa using below)]
      cases flagged : ordered with
      | false => simp
      | true =>
        have stop := filter_eq_nil_of_sorted (fun _ => true) (sorted flagged) below
        simp only [Bool.and_true] at stop
        simp [stop]

theorem scanLoop_eq (theta : ℕ) {ordered : Bool} {table : HashTable} {K : Finset ℕ}
    (filled : Filled table K) (room : K.card < 2 ^ table.lgCurSize) (A : List ℕ)
    (sorted : ordered = true → A.Pairwise (· < ·)) :
    scanLoop theta ordered table (A.map .ok) =
      .ok (A.filter fun hash => decide (hash < theta) && decide (hash ∉ K)) := by
  induction A with
  | nil => rfl
  | cons hash rest ih =>
    have sortedRest : ordered = true → rest.Pairwise (· < ·) := fun flagged =>
      (List.pairwise_cons.mp (sorted flagged)).2
    simp only [List.map_cons, scanLoop, Run.ok_bind, ih sortedRest]
    by_cases below : hash < theta
    · obtain ⟨slot, found⟩ := filled.find room hash
      rw [if_pos below, found, Run.ok_bind]
      by_cases shared : hash ∈ K
      · simp [shared]
      · simp [shared, below]
    · rw [if_neg below]
      cases flagged : ordered with
      | false => simp [below]
      | true =>
        have stop := filter_eq_nil_of_sorted (fun x => decide (x ∉ K)) (sorted flagged) below
        rw [List.filter_cons_of_neg (by simp [below]), stop]
        rfl

theorem difference_eq {a b : SketchView} {A B : List ℕ} (validA : a.Valid A) (validB : b.Valid B)
    (theta : ℕ) :
    difference a b theta = .ok (A.filter fun hash => decide (hash < theta) && decide (hash ∉ B)) := by
  unfold difference
  by_cases none_kept : B = []
  · have count : b.numRetained = 0 := by rw [validB.count, none_kept, List.length_nil]
    rw [if_pos count, validA.reads, mapM_map_ok, none_kept]
    simp
  have count : b.numRetained ≠ 0 := by
    rw [validB.count]
    exact fun zero => none_kept (List.eq_nil_of_length_eq_zero zero)
  rw [if_neg count]
  split
  next ordered =>
    rw [Bool.and_eq_true] at ordered
    rw [validA.reads, validB.reads, setDifference_eq A B (validA.ordered ordered.1)
      (validB.ordered ordered.2), Run.ok_bind, List.filter_filter]
    rfl
  next =>
    -- Otherwise the entries of the second sketch below `theta` go into a table.
    have start := filled_new (lgSizeFromCount_pos B.length) (lgSizeFromCount B.length) .X1 1 0 0 true
    have short := List.length_filter_le (fun x => decide (x < theta)) B
    have room := lt_two_pow_lgSizeFromCount B.length
    obtain ⟨table, run, filled, config⟩ := start.putAll (B.filter (· < theta))
      (validB.distinct.filter _) (fun hash member => ⟨Finset.notMem_empty _,
        (validB.range hash (List.mem_of_mem_filter member)).1.ne'⟩)
      (Or.inr ⟨le_rfl, rfl, by
        rw [Finset.card_empty, Nat.zero_add]
        exact short.trans_lt room⟩)
    rw [Finset.empty_union] at filled
    have size : table.lgCurSize = lgSizeFromCount B.length := by
      have same := congrArg HashTable.lgCurSize config
      exact same
    have fits : (B.filter (· < theta)).toFinset.card < 2 ^ table.lgCurSize := by
      rw [size]
      exact ((List.toFinset_card_le _).trans short).trans_lt room
    rw [validA.reads, validB.reads, validB.count]
    simp only [fillLoop_eq theta _ B validB.ordered, run, Run.ok_bind,
      scanLoop_eq theta filled fits A validA.ordered]
    refine congrArg _ (List.filter_congr fun hash _ => ?_)
    by_cases below : hash < theta <;> simp [below]

/-- `compute` on valid sketches with the default seed. -/
theorem ThetaANotB.compute_eq {a b : SketchView} {A B : List ℕ} (validA : a.Valid A)
    (validB : b.Valid B) (seedA : a.seedHash = computeSeedHash defaultSeed)
    (seedB : b.seedHash = computeSeedHash defaultSeed) :
    ∃ theta entries, (ThetaANotB.new defaultSeed).compute a b true = .ok {
        isEmpty := a.isEmpty || (entries.isEmpty && decide (theta = maxTheta))
        isOrdered := true
        seedHash := computeSeedHash defaultSeed
        theta := theta
        entries := entries } ∧
      theta = (if a.isEmpty || (decide (A ≠ []) && b.isEmpty) then a.theta else min a.theta b.theta) ∧
      entries.Pairwise (· < ·) ∧
      entries.toFinset = sample (A.toFinset \ B.toFinset) theta := by
  have countA : decide (0 < a.numRetained) = decide (A ≠ []) := by
    rw [validA.count, decide_eq_decide]
    exact List.length_pos_iff
  unfold ThetaANotB.compute
  rw [countA]
  cases copied : a.isEmpty || (decide (A ≠ []) && b.isEmpty) with
  | true =>
    obtain ⟨entries, run, sorted, same⟩ := CompactSketch.ofSketch_ordered validA
    refine ⟨a.theta, entries, ?_, rfl, sorted, ?_⟩
    · have flag : a.isEmpty = (a.isEmpty || (entries.isEmpty && decide (a.theta = maxTheta))) := by
        rcases Bool.eq_false_or_eq_true a.isEmpty with flagged | flagged
        · simp [flagged]
        · have kept : A ≠ [] := by
            simp only [flagged, Bool.false_or, Bool.and_eq_true, decide_eq_true_iff] at copied
            exact copied.1
          have some_left : entries ≠ [] := by
            intro none_left
            rw [none_left, List.toFinset_nil, eq_comm, List.toFinset_eq_empty_iff] at same
            exact kept same
          simp [flagged, some_left]
      rw [run, ← flag, seedA]
      rfl
    · -- Either there is nothing to copy or nothing to leave out.
      have nothing : A = [] ∨ B = [] := by
        rw [Bool.or_eq_true, Bool.and_eq_true] at copied
        exact copied.imp validA.empty fun flagged => validB.empty flagged.2
      rw [same]
      ext x
      simp only [mem_sample, Finset.mem_sdiff, List.mem_toFinset]
      constructor
      · intro member
        refine ⟨⟨member, ?_⟩, (validA.range x member).2⟩
        rcases nothing with rfl | rfl
        · exact absurd member List.not_mem_nil
        · exact List.not_mem_nil
      · exact fun member => member.1.1
  | false =>
    have proper : a.isEmpty = false := by
      rw [Bool.or_eq_false_iff] at copied
      exact copied.1
    obtain ⟨theta, sameTheta⟩ : ∃ theta, theta = min a.theta b.theta := ⟨_, rfl⟩
    obtain ⟨kept, sameKept⟩ : ∃ kept, kept =
        A.filter fun hash => decide (hash < theta) && decide (hash ∉ B) := ⟨_, rfl⟩
    have run := difference_eq validA validB theta
    rw [← sameKept] at run
    have distinct : kept.Nodup := sameKept ▸ validA.distinct.filter _
    have members : kept.toFinset = sample (A.toFinset \ B.toFinset) theta := by
      ext x
      simp only [sameKept, List.mem_toFinset, List.mem_filter, Bool.and_eq_true,
        decide_eq_true_iff, mem_sample, Finset.mem_sdiff]
      tauto
    rcases Bool.eq_false_or_eq_true a.isOrdered with flagged | flagged
    · refine ⟨theta, kept, ?_, sameTheta, ?_, members⟩
      · simp [ThetaANotB.new, seedA, seedB, ← sameTheta, run, flagged, CompactSketch.new]
      · rw [sameKept]
        exact (validA.ordered flagged).filter _
    · refine ⟨theta, sort kept, ?_, sameTheta, sort_sorted distinct, (toFinset_sort kept).trans members⟩
      have bare : (sort kept).isEmpty = kept.isEmpty := by
        rw [Bool.eq_iff_iff, List.isEmpty_iff_length_eq_zero, List.isEmpty_iff_length_eq_zero,
          (sort_perm kept).length_eq]
      simp [ThetaANotB.new, seedA, seedB, ← sameTheta, run, flagged, CompactSketch.new, bare]

end ThetaSketch
