import ThetaSketch.SetOperations.Inputs

/-! The intersection and the difference of valid sketches, entry by entry.

`updateWith` is the update of an intersection with the insertion into its tables
left open, so that a table that may neither grow nor rebuild can be tried.
-/

set_option autoImplicit false

namespace ThetaSketch

open OpenAddressing Threshold

/-- An insertion that gives up where `insert` would call `resize` or `rebuild`. -/
def HashTable.insertWithin (table : HashTable) (slot entry : ℕ) : Run HashTable :=
  if getCapacity table.lgCurSize table.lgNomSize < table.numEntries + 1 then
    .error (.logicErr "the table has to be laid out anew")
  else .ok { table with
    entries := table.entries.set slot entry
    numEntries := table.numEntries + 1 }

/-- A fresh table of a given size with the bound, the seed and the flag of an old one. -/
def HashTable.renew (table : HashTable) (lgSize : ℕ) : HashTable :=
  HashTable.new lgSize (lgSize - 1) .X1 1 table.theta table.seed table.isEmpty

namespace ThetaIntersection

section With

variable (insert : HashTable → ℕ → ℕ → Run HashTable)

def putWith (table : HashTable) (hash : ℕ) : Run HashTable := do
  let result ← table.find hash
  insert table result.1 hash

def fillLoopWith : HashTable → List (Run ℕ) → Run HashTable
  | table, [] => return table
  | table, read :: rest => do
    let hash ← read
    let result ← table.find hash
    if result.2 then throw (.invalidArg "duplicate key, possibly corrupted input sketch")
    let table ← insert table result.1 hash
    fillLoopWith table rest

def copyWith (table : HashTable) (sketch : SketchView) : Run ThetaIntersection := do
  let table ← fillLoopWith insert (table.renew (lgSizeFromCount sketch.numRetained)) sketch.entries
  if table.numEntries ≠ sketch.numRetained then
    throw (.invalidArg "num entries mismatch, possibly corrupted input sketch")
  return ⟨true, table⟩

def narrowWith (table : HashTable) (sketch : SketchView) : Run ThetaIntersection := do
  let maxMatches := min table.numEntries sketch.numRetained
  let (matched, count) ← matchLoop table sketch.isOrdered maxMatches [] 0 sketch.entries
  if sketch.numRetained < count then
    throw (.invalidArg " more keys than expected, possibly corrupted input sketch")
  if !sketch.isOrdered && decide (count < sketch.numRetained) then
    throw (.invalidArg " fewer keys than expected, possibly corrupted input sketch")
  if matched.length = 0 then
    let bare := table.renew 0
    return ⟨true, if table.theta = maxTheta then { bare with isEmpty := true } else bare⟩
  else
    let table ← matched.foldlM (putWith insert) (table.renew (lgSizeFromCount matched.length))
    return ⟨true, table⟩

def acceptWith (intersection : ThetaIntersection) (sketch : SketchView) :
    Run ThetaIntersection := do
  let isEmpty := intersection.table.isEmpty || sketch.isEmpty
  let theta := if isEmpty then maxTheta else min intersection.table.theta sketch.theta
  let table : HashTable := { intersection.table with isEmpty := isEmpty, theta := theta }
  if intersection.isValid && decide (table.numEntries = 0) then return { intersection with table := table }
  if sketch.numRetained = 0 then return ⟨true, table.renew 0⟩
  if !intersection.isValid then copyWith insert table sketch else narrowWith insert table sketch

def updateWith (intersection : ThetaIntersection) (sketch : SketchView) :
    Run ThetaIntersection := do
  let seed := intersection.table.seed
  if intersection.table.isEmpty then return intersection
  if !sketch.isEmpty && decide (sketch.seedHash ≠ computeSeedHash seed) then
    throw (.invalidArg "seed hash mismatch")
  acceptWith insert intersection sketch

end With

theorem putWith_insert : putWith HashTable.insert = HashTable.put := rfl

theorem fillLoopWith_insert (table : HashTable) (entries : List (Run ℕ)) :
    fillLoopWith HashTable.insert table entries = fillLoop table entries := by
  induction entries generalizing table with
  | nil => rfl
  | cons entry rest ih => simp only [fillLoopWith, fillLoop, ih]

theorem updateWith_insert : updateWith HashTable.insert = update := by
  funext intersection sketch
  simp only [updateWith, acceptWith, copyWith, narrowWith, HashTable.renew, update, fillLoopWith_insert,
    putWith_insert]

/-! No table is laid out anew. -/

theorem insertWithin_eq {table : HashTable} {slot entry : ℕ}
    (fits : table.numEntries + 1 ≤ HashTable.getCapacity table.lgCurSize table.lgNomSize) :
    table.insertWithin slot entry = table.insert slot entry := by
  simp only [HashTable.insertWithin, HashTable.insert, if_neg (not_lt.mpr fits)]

theorem insert_within {table : HashTable} {K : Finset ℕ} (filled : Filled table K) {hash : ℕ}
    (fresh : hash ∉ K) (proper : hash ≠ 0)
    (fits : K.card + 1 ≤ HashTable.getCapacity table.lgCurSize table.lgNomSize) :
    ∃ slot next, table.find hash = .ok (slot, false) ∧ table.insert slot hash = .ok next ∧
      table.insertWithin slot hash = .ok next ∧ Filled next (K ∪ {hash}) ∧
      (K ∪ {hash}).card = K.card + 1 ∧
      HashTable.getCapacity next.lgCurSize next.lgNomSize =
        HashTable.getCapacity table.lgCurSize table.lgNomSize := by
  obtain ⟨slot, next, found, run, after, config⟩ := filled.insert fresh proper (.inl fits)
  have same := congrArg (fun table : HashTable => HashTable.getCapacity table.lgCurSize table.lgNomSize)
    config
  refine ⟨slot, next, found, run, ?_, after, card_union_fresh fresh, same⟩
  rw [insertWithin_eq (by rw [filled.count]; exact fits), run]

section Within

variable {E : List ℕ}

theorem fillLoop_within {table : HashTable} {K : Finset ℕ} (filled : Filled table K)
    (distinct : E.Nodup) (fresh : ∀ hash ∈ E, hash ∉ K ∧ hash ≠ 0)
    (fits : K.card + E.length ≤ HashTable.getCapacity table.lgCurSize table.lgNomSize) :
    fillLoopWith HashTable.insertWithin table (E.map .ok) = fillLoop table (E.map .ok) ∧
      E.foldlM (putWith HashTable.insertWithin) table = E.foldlM HashTable.put table := by
  induction E generalizing table K with
  | nil => exact ⟨rfl, rfl⟩
  | cons hash rest ih =>
    obtain ⟨new, proper⟩ := fresh hash List.mem_cons_self
    obtain ⟨apart, distinctRest⟩ := List.nodup_cons.mp distinct
    rw [List.length_cons] at fits
    obtain ⟨slot, next, found, run, runWithin, after, size, same⟩ :=
      insert_within filled new proper (by omega)
    obtain ⟨fill, put⟩ := ih after distinctRest (fresh_rest apart fresh) (by omega)
    constructor
    · simp [fillLoopWith, fillLoop, found, run, runWithin, fill]
    · simp [putWith, HashTable.put, found, run, runWithin, put]

theorem renew_within (distinct : E.Nodup) (proper : ∀ hash ∈ E, hash ≠ 0) (table : HashTable) :
    fillLoopWith HashTable.insertWithin (table.renew (lgSizeFromCount E.length)) (E.map .ok) =
        fillLoop (table.renew (lgSizeFromCount E.length)) (E.map .ok) ∧
      E.foldlM (putWith HashTable.insertWithin) (table.renew (lgSizeFromCount E.length)) =
        E.foldlM HashTable.put (table.renew (lgSizeFromCount E.length)) := by
  refine fillLoop_within (filled_new (lgSizeFromCount_pos _) _ _ _ _ _ _) distinct
    (fun hash member => ⟨Finset.notMem_empty _, proper hash member⟩) ?_
  rw [Finset.card_empty, Nat.zero_add]
  exact le_getCapacity_lgSizeFromCount E.length

theorem matchLoop_sublist {table : HashTable} {ordered : Bool} {maxMatches : ℕ}
    {before matched : List ℕ} {count looked : ℕ}
    (run : matchLoop table ordered maxMatches before count (E.map .ok) = .ok (matched, looked)) :
    ∃ found, matched = before ++ found ∧ found.Sublist E := by
  induction E generalizing before count with
  | nil =>
    cases run
    exact ⟨[], (List.append_nil _).symm, List.Sublist.refl _⟩
  | cons hash rest ih =>
    simp only [List.map_cons, matchLoop, Run.ok_bind] at run
    split at run
    · obtain ⟨⟨slot, present⟩, _, run⟩ := Run.bind_eq_ok.mp run
      cases present with
      | false =>
        obtain ⟨found, same, inside⟩ := ih (by simpa using run)
        exact ⟨found, same, inside.cons hash⟩
      | true =>
        simp only [if_true] at run
        split at run
        · cases run
        · obtain ⟨found, same, inside⟩ := ih run
          exact ⟨hash :: found, by rw [same, List.append_assoc]; rfl, inside.cons_cons hash⟩
    · cases ordered with
      | true =>
        cases run
        exact ⟨[], (List.append_nil _).symm, List.nil_sublist _⟩
      | false =>
        obtain ⟨found, same, inside⟩ := ih (by simpa using run)
        exact ⟨found, same, inside.cons hash⟩

/-- Whatever the running intersection is, a valid sketch makes it build tables
that take their keys as they are. -/
theorem update_within {seed : UInt64} {view : SketchView} (valid : ValidInput seed view E)
    (intersection : ThetaIntersection) :
    updateWith HashTable.insertWithin intersection view = intersection.update view := by
  have proper : ∀ hash ∈ E, hash ≠ 0 := fun hash member => (valid.range hash member).1.ne'
  have copies : ∀ table, copyWith HashTable.insertWithin table view =
      copyWith HashTable.insert table view := by
    intro table
    simp only [copyWith]
    rw [valid.count, valid.reads, (renew_within valid.distinct proper _).1, fillLoopWith_insert]
  have narrows : ∀ table, narrowWith HashTable.insertWithin table view =
      narrowWith HashTable.insert table view := by
    intro table
    simp only [narrowWith]
    rw [valid.reads]
    cases loop : matchLoop table view.isOrdered (min table.numEntries view.numRetained) [] 0
      (E.map .ok) with
    | error exit => rfl
    | ok pair =>
      obtain ⟨found, same, inside⟩ := matchLoop_sublist loop
      have puts := (renew_within (valid.distinct.sublist inside)
        (fun hash member => proper hash (inside.subset member)) table).2
      rw [List.nil_append] at same
      rw [← same] at puts
      simp only [Run.ok_bind, puts]
      rfl
  rw [← updateWith_insert]
  simp only [updateWith, acceptWith, copies, narrows]

end Within

/-! Another seed. -/

section Reseed

variable (seed : UInt64)

theorem renew_reseed (table : HashTable) (lgSize : ℕ) :
    (table.reseed seed).renew lgSize = (table.renew lgSize).reseed seed := rfl

theorem copyWith_reseed (table : HashTable) (view : SketchView) :
    copyWith HashTable.insert (table.reseed seed) view =
      (fun next : ThetaIntersection => next.reseed seed) <$>
        copyWith HashTable.insert table view := by
  simp only [copyWith, fillLoopWith_insert, renew_reseed, fillLoop_reseed]
  cases fillLoop (table.renew (lgSizeFromCount view.numRetained)) view.entries with
  | error exit => rfl
  | ok next =>
    by_cases counted : next.numEntries = view.numRetained
    · simp [counted, reseed]
    · simp [counted]

theorem narrowWith_reseed (table : HashTable) (view : SketchView) :
    narrowWith HashTable.insert (table.reseed seed) view =
      (fun next : ThetaIntersection => next.reseed seed) <$>
        narrowWith HashTable.insert table view := by
  simp only [narrowWith, matchLoop_reseed, renew_reseed, putWith_insert, HashTable.putAll_reseed,
    HashTable.reseed_numEntries, HashTable.reseed_theta]
  cases matchLoop table view.isOrdered (min table.numEntries view.numRetained) [] 0
      view.entries with
  | error exit => rfl
  | ok pair =>
    obtain ⟨matched, count⟩ := pair
    simp only [Run.ok_bind]
    by_cases more : view.numRetained < count
    · rw [if_pos more, if_pos more]
      rfl
    rw [if_neg more, if_neg more]
    by_cases fewer : (!view.isOrdered && decide (count < view.numRetained)) = true
    · rw [if_pos fewer, if_pos fewer]
      rfl
    rw [if_neg fewer, if_neg fewer]
    by_cases bare : matched.length = 0
    · by_cases whole : table.theta = maxTheta
      · simp [bare, whole, reseed, HashTable.reseed]
      · simp [bare, whole, reseed]
    · rw [if_neg bare, if_neg bare]
      cases matched.foldlM HashTable.put (table.renew (lgSizeFromCount matched.length)) <;> rfl

theorem acceptWith_reseed (intersection : ThetaIntersection) (view : SketchView) :
    acceptWith HashTable.insert (intersection.reseed seed) view =
      (fun next : ThetaIntersection => next.reseed seed) <$>
        acceptWith HashTable.insert intersection view := by
  obtain ⟨isValid, table⟩ := intersection
  simp only [acceptWith, reseed, HashTable.reseed_isEmpty, HashTable.reseed_theta,
    HashTable.reseed_numEntries]
  cases isValid with
  | false =>
    by_cases bare : view.numRetained = 0
    · simp [bare]
      rfl
    · simp [bare]
      exact copyWith_reseed seed (HashTable.mk ..) view
  | true =>
    by_cases done : table.numEntries = 0
    · simp [done]
      rfl
    by_cases bare : view.numRetained = 0
    · simp [done, bare]
      rfl
    · simp [done, bare]
      exact narrowWith_reseed seed (HashTable.mk ..) view

theorem update_passes {intersection : ThetaIntersection} {view : SketchView}
    (same : view.seedHash = computeSeedHash intersection.table.seed) :
    intersection.update view = if intersection.table.isEmpty then .ok intersection
      else acceptWith HashTable.insert intersection view := by
  rw [← updateWith_insert]
  simp [updateWith, same]

theorem acceptWith_rehash (insert : HashTable → ℕ → ℕ → Run HashTable)
    (intersection : ThetaIntersection) (view : SketchView) (seedHash : ℕ) :
    acceptWith insert intersection (view.rehash seedHash) = acceptWith insert intersection view :=
  rfl

theorem update_reseed {seed : UInt64} {intersection next : ThetaIntersection} {view : SketchView}
    (same : view.seedHash = computeSeedHash seed)
    (run : intersection.update (view.rehash (computeSeedHash intersection.table.seed)) = .ok next) :
    (intersection.reseed seed).update view = .ok (next.reseed seed) := by
  have matching := view.rehash_seedHash (computeSeedHash intersection.table.seed)
  have reseeded : view.seedHash = computeSeedHash (intersection.reseed seed).table.seed := same
  rw [update_passes matching] at run
  rw [update_passes reseeded]
  change (if intersection.table.isEmpty = true then _ else _) = _
  by_cases closed : intersection.table.isEmpty = true
  · rw [if_pos closed] at run ⊢
    cases run
    rfl
  · have accepted : acceptWith HashTable.insert intersection view = .ok next := by
      rwa [if_neg closed, acceptWith_rehash] at run
    rw [if_neg closed, acceptWith_reseed, accepted]
    rfl

theorem getResult_reseed {intersection : ThetaIntersection} {ordered : Bool} {result : CompactSketch}
    (run : intersection.getResult ordered = .ok result) :
    (intersection.reseed seed).getResult ordered = .ok (result.rehash (computeSeedHash seed)) := by
  obtain ⟨isValid, table⟩ := intersection
  cases isValid with
  | false => cases run
  | true =>
    cases run
    rfl

end Reseed

end ThetaIntersection

theorem Meets.seed {intersection : ThetaIntersection} {state : Option Meet}
    (meets : Meets intersection state) : intersection.table.seed = defaultSeed := by
  cases meets with
  | fresh => rfl
  | shown shows => exact shows.seed

/-- Every update with a valid sketch succeeds, with the tables it builds taken as they are. -/
theorem Meets.foldlM_update {seed : UInt64} {inputs : List (SketchView × List ℕ)}
    (valid : ∀ input ∈ inputs, ValidInput seed input.1 input.2) :
    ∃ final, Meets final (Meet.fold (inputs.map fun input => input.1.meet input.2)) ∧
      (inputs.map Prod.fst).foldlM ThetaIntersection.update (ThetaIntersection.new seed) =
        .ok (final.reseed seed) ∧
      (inputs.map Prod.fst).foldlM (ThetaIntersection.updateWith HashTable.insertWithin)
        (ThetaIntersection.new seed) = .ok (final.reseed seed) := by
  induction inputs using List.reverseRecOn with
  | nil => exact ⟨ThetaIntersection.new defaultSeed, Meets.fresh, rfl, rfl⟩
  | append_singleton inputs input ih =>
    obtain ⟨earlier, last⟩ := List.forall_mem_append.mp valid
    have validInput := last input List.mem_cons_self
    obtain ⟨current, meets, run, runWithin⟩ := ih earlier
    obtain ⟨next, step, after⟩ := meets.update validInput.rehash validInput.bound
    rw [← meets.seed] at step
    have step := ThetaIntersection.update_reseed validInput.seedHash step
    refine ⟨next, ?_, ?_, ?_⟩
    · rw [List.map_append, List.map_singleton, Meet.fold_append]
      exact after
    · rw [List.map_append, List.foldlM_append, run]
      simp [step]
    · rw [List.map_append, List.foldlM_append, runWithin]
      simp [ThetaIntersection.update_within validInput, step]

/-! What the state of a run says about the inputs. -/

namespace Meet

/-- Some input is flagged empty, or those of a prefix are exact and share nothing. -/
def Emptied (inputs : List Meet) : Prop :=
  (∃ input ∈ inputs, input.isEmpty = true) ∨
    ∃ start, start <+: inputs ∧ (∀ input ∈ start, input.theta = maxTheta) ∧
      ¬ ∃ hash, ∀ input ∈ start, hash ∈ input.keys

theorem Emptied.append {inputs : List Meet} (emptied : Emptied inputs) (others : List Meet) :
    Emptied (inputs ++ others) := by
  rcases emptied with ⟨input, inside, flagged⟩ | ⟨start, before, exact⟩
  · exact .inl ⟨input, List.mem_append_left _ inside, flagged⟩
  · exact .inr ⟨start, before.trans (List.prefix_append _ _), exact⟩

theorem agrees_fold {inputs : List Meet} (proper : ∀ input ∈ inputs, input.Proper)
    (some_input : inputs ≠ []) :
    ∃ state, fold inputs = some state ∧ Agrees inputs state ∧
      (state.isEmpty = true → Emptied inputs) := by
  induction inputs using List.reverseRecOn with
  | nil => exact absurd rfl some_input
  | append_singleton inputs input ih =>
    obtain ⟨earlier, last⟩ := List.forall_mem_append.mp proper
    have properInput := last input List.mem_cons_self
    refine ⟨_, fold_append inputs input, ?_⟩
    by_cases start : inputs = []
    · subst start
      have first : update (fold []) input = input := update_none properInput
      rw [first]
      exact ⟨.one properInput, fun flagged => .inl ⟨input, List.mem_cons_self, flagged⟩⟩
    · obtain ⟨state, folded, agrees, emptied⟩ := ih earlier start
      rw [folded]
      refine ⟨agrees.join (.one properInput), ?_⟩
      rw [isEmpty_update agrees.proper properInput]
      rintro (closed | flagged | ⟨whole, wholeInput, some_key, _, disjoint⟩)
      · exact (emptied closed).append [input]
      · exact .inl ⟨input, List.mem_append_right _ List.mem_cons_self, flagged⟩
      · -- A state that still has keys met exact sketches only, so this is the prefix.
        refine .inr ⟨inputs ++ [input], List.prefix_rfl, List.forall_mem_append.mpr
          ⟨fun earlierInput inside => ?_, by simpa using wholeInput⟩, ?_⟩
        · exact (isExact_iff.mp (agrees.exact_of_clash whole some_key earlierInput inside)).2.1
        · rintro ⟨hash, common⟩
          obtain ⟨inEarlier, inLast⟩ := List.forall_mem_append.mp common
          have both : hash ∈ state.keys ∩ input.keys := Finset.mem_inter.mpr
            ⟨(agrees.keys hash).mpr inEarlier, inLast input List.mem_cons_self⟩
          rw [disjoint] at both
          exact absurd both (Finset.notMem_empty hash)

theorem leastTheta_attained {inputs : List Meet} (proper : ∀ input ∈ inputs, input.Proper)
    (some_input : inputs ≠ []) : ∃ input ∈ inputs, input.theta = leastTheta inputs := by
  induction inputs with
  | nil => exact absurd rfl some_input
  | cons input rest ih =>
    obtain ⟨properInput, properRest⟩ := List.forall_mem_cons.mp proper
    rw [leastTheta_cons]
    by_cases last : rest = []
    · subst last
      exact ⟨input, List.mem_cons_self, (min_eq_left properInput.bound).symm⟩
    · obtain ⟨other, inside, least⟩ := ih properRest last
      rcases le_total input.theta (leastTheta rest) with le | le
      · exact ⟨input, List.mem_cons_self, (min_eq_left le).symm⟩
      · exact ⟨other, List.mem_cons_of_mem _ inside, least.trans (min_eq_right le).symm⟩

end Meet

/-- Intersecting valid sketches keeps exactly the entries that all of them share
below `theta`. -/
theorem intersection_exact {seed : UInt64} {inputs : List (SketchView × List ℕ)}
    (some_input : inputs ≠ []) (valid : ∀ input ∈ inputs, ValidInput seed input.1 input.2) :
    ∃ final result,
      (inputs.map Prod.fst).foldlM ThetaIntersection.update (ThetaIntersection.new seed) = .ok final ∧
      (inputs.map Prod.fst).foldlM (ThetaIntersection.updateWith HashTable.insertWithin)
        (ThetaIntersection.new seed) = .ok final ∧
      final.getResult true = .ok result ∧
      result.entries.Pairwise (· < ·) ∧
      (∀ hash, hash ∈ result.entries ↔
        (∀ input ∈ inputs, hash ∈ input.2) ∧ hash < result.theta) ∧
      ((result.isEmpty = false ∧ (∃ input ∈ inputs, input.1.theta = result.theta) ∧
          ∀ input ∈ inputs, result.theta ≤ input.1.theta) ∨
        (result.isEmpty = true ∧ result.theta = maxTheta ∧ result.entries = [] ∧
          ((∃ input ∈ inputs, input.1.isEmpty = true) ∨
            ∃ start, start <+: inputs ∧ (∀ input ∈ start, input.1.theta = maxTheta) ∧
              ¬ ∃ hash, ∀ input ∈ start, hash ∈ input.2))) := by
  obtain ⟨final, meets, run, runWithin⟩ := Meets.foldlM_update valid
  have proper : ∀ meet ∈ inputs.map fun input => input.1.meet input.2, meet.Proper :=
    List.forall_mem_map.mpr fun input inside => (valid input inside).proper
  have some_meet : (inputs.map fun input => input.1.meet input.2) ≠ [] := by simpa using some_input
  -- The state of the run says what the inputs share, and why it is empty.
  obtain ⟨state, folded, agrees, emptied⟩ := Meet.agrees_fold proper some_meet
  rw [folded] at meets
  refine ⟨final.reseed seed, _, run, runWithin,
    ThetaIntersection.getResult_reseed seed meets.getResult_eq,
    (Finset.sortedLT_sort _).pairwise, ?_, ?_⟩
  · intro hash
    change hash ∈ state.keys.sort (· ≤ ·) ↔ _ ∧ hash < state.theta
    rw [Finset.mem_sort, agrees.keys, List.forall_mem_map]
    simp only [SketchView.meet, List.mem_toFinset]
    refine ⟨fun common => ⟨common, ?_⟩, And.left⟩
    have member : hash ∈ state.keys := (agrees.keys hash).mpr
      (List.forall_mem_map.mpr fun input inside => List.mem_toFinset.mpr (common input inside))
    exact (agrees.proper.range hash member).2
  · change (state.isEmpty = false ∧ (∃ input ∈ inputs, input.1.theta = state.theta) ∧ _) ∨
      (state.isEmpty = true ∧ state.theta = maxTheta ∧ state.keys.sort (· ≤ ·) = [] ∧ _)
    cases flagged : state.isEmpty with
    | false =>
      have least := agrees.theta flagged
      refine .inl ⟨rfl, ?_, ?_⟩
      · -- Some input has the smallest `theta`.
        obtain ⟨_, member, same⟩ := Meet.leastTheta_attained proper some_meet
        obtain ⟨input, inside, rfl⟩ := List.mem_map.mp member
        exact ⟨input, inside, same.trans least.symm⟩
      · intro input inside
        exact (Meet.le_leastTheta_iff.mp least.le).2 _ (List.mem_map_of_mem inside)
    | true =>
      have bare := agrees.proper.void flagged
      refine .inr ⟨rfl, by rw [bare]; rfl, by rw [bare]; exact Finset.sort_empty _, ?_⟩
      -- Either an input was empty, or exact inputs shared nothing.
      rcases emptied flagged with ⟨_, member, cause⟩ | ⟨start, before, exact, apart⟩
      · obtain ⟨input, inside, rfl⟩ := List.mem_map.mp member
        exact .inl ⟨input, inside, cause⟩
      · rw [List.prefix_iff_eq_take, ← List.map_take] at before
        rw [before, List.forall_mem_map] at exact
        refine .inr ⟨inputs.take start.length, List.take_prefix _ _, exact, ?_⟩
        rintro ⟨hash, common⟩
        refine apart ⟨hash, ?_⟩
        rw [before, List.forall_mem_map]
        exact fun input inside => List.mem_toFinset.mpr (common input inside)

theorem intersection_exact_disjoint :
    ∃ final result,
      [CompactSketch.view ⟨false, true, computeSeedHash 7, maxTheta, [2, 5]⟩,
        CompactSketch.view ⟨false, false, computeSeedHash 7, maxTheta, [9, 3]⟩].foldlM
          ThetaIntersection.update (ThetaIntersection.new 7) = .ok final ∧
      final.getResult true = .ok result ∧ result.entries = [] := by
  obtain ⟨final, result, run, _, shown, _, members, _⟩ := @intersection_exact 7
    [(CompactSketch.view ⟨false, true, computeSeedHash 7, maxTheta, [2, 5]⟩, [2, 5]),
      (CompactSketch.view ⟨false, false, computeSeedHash 7, maxTheta, [9, 3]⟩, [9, 3])]
    (by simp) (by
      simp only [List.forall_mem_cons, List.not_mem_nil, false_imp_iff, implies_true, and_true]
      constructor
      · exact ⟨rfl, rfl, by decide, by decide, by decide, by decide, by decide, rfl, by decide⟩
      · exact ⟨rfl, rfl, by decide, by decide, by decide, by decide, by decide, rfl, by decide⟩)
  refine ⟨final, result, run, shown, List.eq_nil_iff_forall_not_mem.mpr fun hash member => ?_⟩
  have common := ((members hash).mp member).1
  simp at common
  omega

/-! The difference. -/

theorem SketchView.rehash_self (view : SketchView) : view.rehash view.seedHash = view := rfl

theorem CompactSketch.ofSketch_rehash (view : SketchView) (seedHash : ℕ) (ordered : Bool) :
    CompactSketch.ofSketch (view.rehash seedHash) ordered =
      (fun sketch : CompactSketch => sketch.rehash seedHash) <$> CompactSketch.ofSketch view ordered := by
  simp only [CompactSketch.ofSketch, SketchView.rehash_isEmpty, SketchView.rehash_entries,
    SketchView.rehash_isOrdered, SketchView.rehash_theta, SketchView.rehash_seedHash]
  by_cases flagged : view.isEmpty = true
  · simp [flagged, rehash]
  · simp [flagged]
    cases loaded : (view.entries.mapM id : Run (List ℕ)) with
    | error exit => rfl
    | ok entries => rfl

theorem ThetaANotB.difference_rehash (a b : SketchView) (seedHash theta : ℕ) :
    difference (a.rehash seedHash) (b.rehash seedHash) theta = difference a b theta := rfl

theorem ThetaANotB.compute_rehash (a b : SketchView) (first second : ℕ) (ordered : Bool) :
    (ThetaANotB.mk second).compute (a.rehash second) (b.rehash second) ordered =
      (fun sketch : CompactSketch => sketch.rehash second) <$>
        (ThetaANotB.mk first).compute (a.rehash first) (b.rehash first) ordered := by
  have copies : ∀ hash, CompactSketch.ofSketch (a.rehash hash) ordered =
      (fun sketch : CompactSketch => sketch.rehash hash) <$> CompactSketch.ofSketch a ordered :=
    fun hash => CompactSketch.ofSketch_rehash a hash ordered
  simp only [compute, copies, difference_rehash, SketchView.rehash_seedHash]
  cases flagged : a.isEmpty with
  | true =>
    simp only [SketchView.rehash_isEmpty, flagged, Bool.true_or, if_true, Functor.map_map]
    cases CompactSketch.ofSketch a ordered <;> rfl
  | false =>
    by_cases kept : 0 < a.numRetained
    · cases flaggedB : b.isEmpty with
      | true =>
        simp only [SketchView.rehash_isEmpty, SketchView.rehash_numRetained, flagged, kept, flaggedB,
          decide_true, Bool.and_self, Bool.or_true, if_true, Functor.map_map]
        cases CompactSketch.ofSketch a ordered <;> rfl
      | false =>
        simp only [SketchView.rehash_isEmpty, SketchView.rehash_numRetained, SketchView.rehash_theta,
          SketchView.rehash_isOrdered, flagged, flaggedB, Bool.and_false, Bool.or_self,
          Bool.false_eq_true, if_false, ne_eq, not_true_eq_false, map_bind]
        cases difference a b (min a.theta b.theta) <;> rfl
    · simp only [SketchView.rehash_isEmpty, SketchView.rehash_numRetained, SketchView.rehash_theta,
        SketchView.rehash_isOrdered, flagged, kept, decide_false, Bool.false_and, Bool.or_self,
        Bool.false_eq_true, if_false, ne_eq, not_true_eq_false, map_bind]
      cases difference a b (min a.theta b.theta) <;> rfl

/-- The `theta` of a difference: a sketch that is flagged empty keeps its own. -/
def ThetaANotB.boundOf (a b : SketchView) : ℕ := if a.isEmpty then maxTheta else min a.theta b.theta

section Difference

variable {seed : UInt64} {a b : SketchView} {A B : List ℕ}

theorem ThetaANotB.compute_valid (validA : ValidInput seed a A) (validB : ValidInput seed b B) :
    ∃ entries, (ThetaANotB.new seed).compute a b true = .ok {
        isEmpty := a.isEmpty || (entries.isEmpty && decide (boundOf a b = maxTheta))
        isOrdered := true
        seedHash := computeSeedHash seed
        theta := boundOf a b
        entries := entries } ∧
      entries.Pairwise (· < ·) ∧
      entries.toFinset = sample (A.toFinset \ B.toFinset) (boundOf a b) := by
  have sameA := a.rehash_seedHash (computeSeedHash defaultSeed)
  have sameB := b.rehash_seedHash (computeSeedHash defaultSeed)
  obtain ⟨theta, entries, run, bound, sorted, members⟩ :=
    ThetaANotB.compute_eq validA.rehash validB.rehash sameA sameB
  rw [SketchView.rehash_isEmpty, SketchView.rehash_isEmpty, SketchView.rehash_theta,
    SketchView.rehash_theta] at bound
  have bound : theta = boundOf a b := by
    rw [bound, boundOf]
    rcases Bool.eq_false_or_eq_true a.isEmpty with flagged | flagged
    · simp [flagged, (validA.empty flagged).2]
    · rcases Bool.eq_false_or_eq_true b.isEmpty with flaggedB | flaggedB
      · simp [flagged, flaggedB, (validB.empty flaggedB).2, validA.bound]
      · simp [flagged, flaggedB]
  subst bound
  refine ⟨entries, ?_, sorted, members⟩
  have reseeded := ThetaANotB.compute_rehash a b (computeSeedHash defaultSeed) (computeSeedHash seed)
    true
  have run : (ThetaANotB.mk (computeSeedHash defaultSeed)).compute _ _ true = _ := run
  rw [run, ← validA.seedHash, SketchView.rehash_self, validA.seedHash, ← validB.seedHash,
    SketchView.rehash_self, validB.seedHash] at reseeded
  exact reseeded

/-- The difference of valid sketches on every path. A first sketch that is flagged
empty is copied with its own `theta`, whatever the second one is. -/
theorem difference_exact (validA : ValidInput seed a A) (validB : ValidInput seed b B) :
    ∃ result, (ThetaANotB.new seed).compute a b true = .ok result ∧
      result.entries.Pairwise (· < ·) ∧
      (∀ hash, hash ∈ result.entries ↔ hash ∈ A ∧ hash < result.theta ∧ hash ∉ B) ∧
      result.theta = (if a.isEmpty then maxTheta else min a.theta b.theta) ∧
      (result.isEmpty = true ↔
        a.isEmpty = true ∨ result.entries = [] ∧ result.theta = maxTheta) ∧
      ∀ (a' b' : SketchView) (A' B' : List ℕ), ValidInput seed a' A' → ValidInput seed b' B' →
        a'.isEmpty = a.isEmpty → a'.theta = a.theta → b'.theta = b.theta →
        (∀ hash, hash ∈ A' ↔ hash ∈ A) → (∀ hash, hash ∈ B' ↔ hash ∈ B) →
        (ThetaANotB.new seed).compute a' b' true = .ok result := by
  obtain ⟨entries, run, sorted, members⟩ := ThetaANotB.compute_valid validA validB
  refine ⟨_, run, sorted, ?_, rfl, ?_, ?_⟩
  · intro hash
    rw [← List.mem_toFinset, members, mem_sample, Finset.mem_sdiff, List.mem_toFinset,
      List.mem_toFinset]
    tauto
  · simp
  · intro a' b' A' B' validA' validB' sameFlag sameTheta sameThetaB sameA sameB
    obtain ⟨entries', run', sorted', members'⟩ := ThetaANotB.compute_valid validA' validB'
    have sameBound : ThetaANotB.boundOf a' b' = ThetaANotB.boundOf a b := by
      rw [ThetaANotB.boundOf, sameFlag, sameTheta, sameThetaB, ThetaANotB.boundOf]
    have same : entries' = entries := by
      refine sorted_unique sorted' sorted ?_
      rw [members', members, sameBound]
      congr 2
      · exact Finset.ext fun hash => by simpa using sameA hash
      · exact Finset.ext fun hash => by simpa using sameB hash
    rw [run', same, sameBound, sameFlag]

end Difference

/-- A sketch that is flagged empty, less an estimating one without entries: the
least of the two bounds is not the bound of the result. -/
theorem difference_of_empty :
    ValidInput defaultSeed
        (CompactSketch.view ⟨true, true, computeSeedHash defaultSeed, maxTheta, []⟩) [] ∧
      ValidInput defaultSeed
        (CompactSketch.view ⟨false, true, computeSeedHash defaultSeed, 5, []⟩) [] ∧
      ∃ result, (ThetaANotB.new defaultSeed).compute
          (CompactSketch.view ⟨true, true, computeSeedHash defaultSeed, maxTheta, []⟩)
          (CompactSketch.view ⟨false, true, computeSeedHash defaultSeed, 5, []⟩) true = .ok result ∧
        result.theta ≠ min maxTheta 5 := by
  refine ⟨?_, ?_, _, rfl, ?_⟩
  · exact ⟨rfl, rfl, by decide, by decide, by decide, by decide, by decide, rfl, by decide⟩
  · exact ⟨rfl, rfl, by decide, by decide, by decide, by decide, by decide, rfl, by decide⟩
  · change maxTheta ≠ min maxTheta 5
    decide

theorem difference_exact_unordered :
    ∃ result, (ThetaANotB.new 7).compute
        (CompactSketch.view ⟨false, false, computeSeedHash 7, maxTheta, [9, 2, 4]⟩)
        (CompactSketch.view ⟨false, true, computeSeedHash 7, 8, [2, 5]⟩) true = .ok result ∧
      result.theta = 8 ∧ ∀ hash, hash ∈ result.entries ↔ hash = 4 := by
  obtain ⟨result, run, _, members, bound, _⟩ := @difference_exact 7
    (CompactSketch.view ⟨false, false, computeSeedHash 7, maxTheta, [9, 2, 4]⟩)
    (CompactSketch.view ⟨false, true, computeSeedHash 7, 8, [2, 5]⟩) [9, 2, 4] [2, 5]
    ⟨rfl, rfl, by decide, by decide, by decide, by decide, by decide, rfl, by decide⟩
    ⟨rfl, rfl, by decide, by decide, by decide, by decide, by decide, rfl, by decide⟩
  have bound : result.theta = 8 := bound
  refine ⟨result, run, bound, fun hash => ?_⟩
  rw [members, bound]
  simp
  omega

end ThetaSketch
