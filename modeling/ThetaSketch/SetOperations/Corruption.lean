import ThetaSketch.Format.Bounds
import ThetaSketch.SetOperations.Exact
import ThetaSketch.SetOperations.Union
import ThetaSketch.Table.Counting

/-! Entries that no sketch ever wrote, and the tables they end up in.

The parser does not look at the values of entries. A zero is inserted and counted
though its slot stays empty, and an intersection puts an entry that it matched
twice into the same slot twice. Nothing else makes a count go wrong.
-/

set_option autoImplicit false

namespace ThetaSketch

open OpenAddressing

/-! Runs of a step that may fail. -/

theorem defined_refused {A : Type} {exit : Exit} {after : A → Prop}
    (own : ∀ what, exit ≠ .undefined what) :
    Defined (.error exit : Run A) ∧ ∀ next, (.error exit : Run A) = .ok next → after next :=
  ⟨defined_error_iff.mpr own, by rintro next ⟨⟩⟩

section Runs

variable {S V : Type}

/-- No step is undefined, and the property holds of the first state and after every
step that returns. -/
def Always (step : S → V → Run S) (property : S → Prop) : S → List V → Prop
  | state, [] => property state
  | state, input :: rest => property state ∧ Defined (step state input) ∧
    ∀ next, step state input = .ok next → Always step property next rest

/-- Every step that returns starts from a clean situation. -/
def Throughout (step : S → V → Run S) (clean : S → V → Prop) : S → List V → Prop
  | _, [] => True
  | state, input :: rest =>
    ∀ next, step state input = .ok next → clean state input ∧ Throughout step clean next rest

instance decidableThroughout {step : S → V → Run S} {clean : S → V → Prop}
    [∀ state input, Decidable (clean state input)] :
    ∀ (inputs : List V) (state : S), Decidable (Throughout step clean state inputs)
  | [], _ => isTrue trivial
  | input :: rest, state =>
    match run : step state input with
    | .error exit => isTrue fun next returned => by cases run.symm.trans returned
    | .ok next =>
      have : Decidable (Throughout step clean next rest) := decidableThroughout rest next
      decidable_of_iff (clean state input ∧ Throughout step clean next rest)
        ⟨fun both other returned => by cases run.symm.trans returned; exact both,
          fun throughout => throughout next run⟩

theorem always_iff {step : S → V → Run S} {property good : S → Prop} {clean : S → V → Prop}
    (holds : ∀ state, good state → property state) (inputs : List V)
    (steps : ∀ state, ∀ input ∈ inputs, good state → Defined (step state input) ∧
      ∀ next, step state input = .ok next →
        (property next ↔ clean state input) ∧ (property next → good next))
    {state : S} (start : good state) :
    Always step property state inputs ↔ Throughout step clean state inputs := by
  induction inputs generalizing state with
  | nil => exact iff_of_true (holds state start) trivial
  | cons input rest ih =>
    obtain ⟨first, later⟩ := steps state input List.mem_cons_self start
    have restSteps := fun state input member => steps state input (List.mem_cons_of_mem _ member)
    constructor
    · rintro ⟨_, _, onward⟩ next run
      obtain ⟨settles, keeps⟩ := later next run
      have tail := onward next run
      have here : property next := by
        cases rest with
        | nil => exact tail
        | cons => exact tail.1
      exact ⟨settles.mp here, (ih restSteps (keeps here)).mp tail⟩
    · intro throughout
      refine ⟨holds state start, first, fun next run => ?_⟩
      obtain ⟨settles, keeps⟩ := later next run
      obtain ⟨here, tail⟩ := throughout next run
      exact (ih restSteps (keeps (settles.mpr here))).mpr tail

theorem Always.last {step : S → V → Run S} {property : S → Prop} {inputs : List V} {state last : S}
    (always : Always step property state inputs) (run : inputs.foldlM step state = .ok last) :
    property last := by
  induction inputs generalizing state with
  | nil =>
    cases run
    exact always
  | cons input rest ih =>
    obtain ⟨next, first, later⟩ := Run.bind_eq_ok.mp run
    exact ih (always.2.2 next first) later

theorem not_always {step : S → V → Run S} {property : S → Prop} [DecidablePred property]
    {inputs : List V} {state : S}
    (broken : (match inputs.foldlM step state with
      | .ok last => decide (property last)
      | .error _ => true) = false) : ¬ Always step property state inputs := by
  intro always
  cases run : inputs.foldlM step state with
  | error exit => simp [run] at broken
  | ok last =>
    simp only [run, decide_eq_false_iff_not] at broken
    exact broken (always.last run)

end Runs

/-- The entries that are read before a read fails, and possibly some after it. -/
def hashesOf (reads : List (Run ℕ)) : List ℕ := reads.filterMap Except.toOption

@[simp] theorem hashesOf_nil : hashesOf [] = [] := rfl

@[simp] theorem hashesOf_ok (hash : ℕ) (rest : List (Run ℕ)) :
    hashesOf (.ok hash :: rest) = hash :: hashesOf rest := rfl

@[simp] theorem hashesOf_error (exit : Exit) (rest : List (Run ℕ)) :
    hashesOf (.error exit :: rest) = hashesOf rest := rfl

structure Readable (view : SketchView) : Prop where
  reads : ∀ read ∈ view.entries, Defined read
  few : view.entries.length ≤ view.numRetained

theorem Readable.nothing {view : SketchView} (readable : Readable view)
    (none_offered : view.numRetained = 0) : view.entries = [] := by
  have few := readable.few
  exact List.eq_nil_of_length_eq_zero (by omega)

/-! Unions. -/

namespace ThetaUnion

/-- The hashes that the loop of `update` searches for: those below both bounds when
their turn comes, up to the early stop. -/
def searched (ordered : Bool) : ThetaUnion → List (Run ℕ) → List ℕ
  | _, [] => []
  | _, .error _ :: _ => []
  | union, .ok hash :: rest =>
    if hash < union.unionTheta ∧ hash < union.table.theta then
      hash :: match union.table.findOrInsert hash with
        | .error _ => []
        | .ok table => searched ordered { union with table := table } rest
    else if ordered then [] else searched ordered union rest

def searches (union : ThetaUnion) (sketch : SketchView) : List ℕ :=
  if sketch.isEmpty then []
  else searched sketch.isOrdered {
    table := { union.table with isEmpty := false }
    unionTheta := min union.unionTheta sketch.theta } sketch.entries

theorem updateLoop_tight {ordered : Bool} (reads : List (Run ℕ))
    (defined : ∀ read ∈ reads, Defined read) {union : ThetaUnion} (grows : Grows union.table) :
    Defined (updateLoop ordered union reads) ∧
      ∀ next, updateLoop ordered union reads = .ok next → Grows next.table ∧
        (next.table.Tight ↔ union.table.Tight ∧ 0 ∉ searched ordered union reads) := by
  induction reads generalizing union with
  | nil =>
    refine ⟨defined_ok _, fun next run => ?_⟩
    cases run
    exact ⟨grows, (and_iff_left (List.not_mem_nil)).symm⟩
  | cons read rest ih =>
    obtain ⟨here, later⟩ := List.forall_mem_cons.mp defined
    cases read with
    | error exit =>
      exact defined_refused (defined_error_iff.mp here)
    | ok hash =>
      simp only [updateLoop, searched, Run.ok_bind]
      by_cases wanted : hash < union.unionTheta ∧ hash < union.table.theta
      · obtain ⟨table, run, step⟩ := grows.findOrInsert wanted.2
        have first := grows.findOrInsert_tight wanted.2 run
        obtain ⟨loopDefined, loop⟩ := @ih later { union with table := table } step.grows
        simp only [if_pos wanted, run, Run.ok_bind]
        refine ⟨loopDefined, fun next done => ?_⟩
        obtain ⟨growsNext, tight⟩ := loop next done
        refine ⟨growsNext, tight.trans ?_⟩
        rw [first, List.mem_cons, not_or, and_assoc, ne_comm]
      · simp only [if_neg wanted]
        cases ordered with
        | true =>
          refine ⟨defined_ok _, fun next run => ?_⟩
          cases run
          exact ⟨grows, (and_iff_left (List.not_mem_nil)).symm⟩
        | false => exact ih later grows

theorem update_tight {union : ThetaUnion} {view : SketchView} (grows : Grows union.table)
    (readable : Readable view) :
    Defined (union.update view) ∧ ∀ next, union.update view = .ok next → Grows next.table ∧
      (next.table.Tight ↔ union.table.Tight ∧ 0 ∉ union.searches view) := by
  obtain ⟨loopDefined, loop⟩ := @updateLoop_tight view.isOrdered view.entries readable.reads {
    table := { union.table with isEmpty := false }
    unionTheta := min union.unionTheta view.theta } grows.opened
  by_cases flagged : view.isEmpty = true
  · simp only [update, searches, if_pos flagged]
    refine ⟨defined_ok _, fun next run => ?_⟩
    cases run
    exact ⟨grows, (and_iff_left List.not_mem_nil).symm⟩
  simp only [update, searches, if_neg flagged]
  by_cases seed : view.seedHash = computeSeedHash union.table.seed
  · rw [if_neg (not_not.mpr seed)]
    refine ⟨defined_bind_iff.mpr ⟨loopDefined, fun _ _ => defined_ok _⟩, fun next run => ?_⟩
    obtain ⟨looped, loopRun, same⟩ := Run.bind_eq_ok.mp run
    cases same
    exact loop looped loopRun
  · rw [if_pos seed]
    exact defined_refused (by rintro what ⟨⟩)

end ThetaUnion

/-! Intersections. -/

/-- A table that an intersection can go on with. -/
structure Ready (table : HashTable) : Prop where
  counted : table.stored.card = table.numEntries
  slots : table.numEntries ≠ 0 →
    Slots table.lgCurSize table.entries ∧ table.numEntries < 2 ^ table.lgCurSize

theorem Ready.tight {table : HashTable} (ready : Ready table) : table.Tight := by
  by_cases bare : table.numEntries = 0
  · exact tight_of_bare bare ready.counted
  · exact (tight_iff (ready.slots bare).1).mpr ready.counted

theorem ready_renew (table : HashTable) : Ready (table.renew 0) :=
  ⟨by rw [HashTable.renew, stored_new]; rfl, fun some => absurd rfl some⟩

structure Holds (table : HashTable) : Prop where
  slots : Slots table.lgCurSize table.entries
  counted : table.stored.card ≤ table.numEntries
  fits : table.numEntries ≤ HashTable.getCapacity table.lgCurSize table.lgNomSize

theorem Holds.ready {table : HashTable} (holds : Holds table) (tight : table.Tight) : Ready table :=
  ⟨(tight_iff holds.slots).mp tight, fun _ => ⟨holds.slots, holds.fits.trans_lt (getCapacity_lt _ _)⟩⟩

section Write

variable {table : HashTable} {hash : ℕ} {entries : List ℕ}

theorem Holds.write (holds : Holds table)
    (fits : table.numEntries + 1 ≤ HashTable.getCapacity table.lgCurSize table.lgNomSize)
    (placed : Slots table.lgCurSize entries)
    (written : keys 0 entries = (insert hash table.stored).erase 0) :
    Holds { table with entries := entries, numEntries := table.numEntries + 1 } := by
  refine ⟨placed, ?_, fits⟩
  have size := Finset.card_insert_le hash table.stored
  have erased := Finset.card_erase_le (s := insert hash table.stored) (a := 0)
  have counted := holds.counted
  change (keys 0 entries).card ≤ table.numEntries + 1
  rw [written]
  omega

theorem Holds.tight_write (holds : Holds table) (fresh : hash ∉ table.stored)
    (placed : Slots table.lgCurSize entries)
    (written : keys 0 entries = (insert hash table.stored).erase 0) :
    HashTable.Tight { table with entries := entries, numEntries := table.numEntries + 1 } ↔
      table.Tight ∧ hash ≠ 0 := by
  have counted := holds.counted
  have proper : 0 ∉ table.stored := Finset.notMem_erase 0 _
  rw [tight_iff holds.slots, @tight_iff { table with
    entries := entries, numEntries := table.numEntries + 1 } placed]
  change (keys 0 entries).card = table.numEntries + 1 ↔ _
  rw [written]
  by_cases zero : hash = 0
  · subst zero
    rw [Finset.erase_insert fresh]
    exact iff_of_false (by omega) fun both => both.2 rfl
  · rw [Finset.erase_eq_of_notMem, Finset.card_insert_of_notMem fresh, and_iff_left zero]
    · omega
    · rw [Finset.mem_insert, not_or]
      exact ⟨Ne.symm zero, proper⟩

end Write

theorem holds_renew (table : HashTable) (count : ℕ) :
    Holds (table.renew (lgSizeFromCount count)) ∧ (table.renew (lgSizeFromCount count)).Tight := by
  have filled := filled_new (lgSizeFromCount_pos count) (lgSizeFromCount count - 1) .X1 1 table.theta
    table.seed table.isEmpty
  refine ⟨⟨filled.slots, ?_, Nat.zero_le _⟩, (tight_iff filled.slots).mpr ?_⟩
  · exact (congrArg Finset.card filled.stored).trans_le (Nat.zero_le _)
  · exact congrArg Finset.card filled.stored

namespace ThetaIntersection

theorem fillLoop_tight (reads : List (Run ℕ)) (defined : ∀ read ∈ reads, Defined read)
    {table : HashTable} (holds : Holds table)
    (fits : table.numEntries + reads.length ≤
      HashTable.getCapacity table.lgCurSize table.lgNomSize) :
    Defined (fillLoop table reads) ∧ ∀ next, fillLoop table reads = .ok next → Holds next ∧
      (next.Tight ↔ table.Tight ∧ 0 ∉ hashesOf reads) := by
  induction reads generalizing table with
  | nil =>
    refine ⟨defined_ok _, fun next run => ?_⟩
    cases run
    exact ⟨holds, (and_iff_left List.not_mem_nil).symm⟩
  | cons read rest ih =>
    obtain ⟨here, later⟩ := List.forall_mem_cons.mp defined
    cases read with
    | error exit =>
      exact defined_refused (defined_error_iff.mp here)
    | ok hash =>
      rw [List.length_cons] at fits
      obtain ⟨slot, entries, found, run, placed, written⟩ :=
        insert_fits holds.slots holds.counted (by omega) hash
      simp only [fillLoop, Run.ok_bind, found, run, decide_eq_true_eq]
      by_cases known : hash ∈ table.stored
      · simp only [if_pos known]
        exact defined_refused (by rintro what ⟨⟩)
      · have after := holds.write (by omega) placed written
        obtain ⟨loopDefined, loop⟩ := ih later after (by
          change table.numEntries + 1 + rest.length ≤
            HashTable.getCapacity table.lgCurSize table.lgNomSize
          omega)
        simp only [if_neg known]
        refine ⟨loopDefined, fun next done => ?_⟩
        obtain ⟨holdsNext, tight⟩ := loop next done
        refine ⟨holdsNext, tight.trans ?_⟩
        rw [holds.tight_write known placed written, hashesOf_ok, List.mem_cons, not_or, and_assoc,
          ne_comm]

/-- Keys that are put once or more often are each stored once, and counted each time. -/
theorem putAll_counts (hashes : List ℕ) (proper : ∀ hash ∈ hashes, hash ≠ 0) {table : HashTable}
    (holds : Holds table)
    (fits : table.numEntries + hashes.length ≤
      HashTable.getCapacity table.lgCurSize table.lgNomSize) :
    ∃ next, hashes.foldlM HashTable.put table = .ok next ∧ Holds next ∧
      next.stored = table.stored ∪ hashes.toFinset ∧
      next.numEntries = table.numEntries + hashes.length := by
  induction hashes generalizing table with
  | nil => exact ⟨table, rfl, holds, by simp, rfl⟩
  | cons hash rest ih =>
    obtain ⟨nonzero, later⟩ := List.forall_mem_cons.mp proper
    rw [List.length_cons] at fits
    obtain ⟨slot, entries, found, run, placed, written⟩ :=
      insert_fits holds.slots holds.counted (by omega) hash
    have after := holds.write (by omega) placed written
    obtain ⟨next, runs, holdsNext, stored, counted⟩ := ih later after (by
      change table.numEntries + 1 + rest.length ≤
        HashTable.getCapacity table.lgCurSize table.lgNomSize
      omega)
    refine ⟨next, ?_, holdsNext, ?_, ?_⟩
    · simp only [List.foldlM_cons, HashTable.put, found, Run.ok_bind, run]
      exact runs
    · -- The slot may hold the hash already, but the counter moves all the same.
      have kept : keys 0 entries = insert hash table.stored := by
        rw [written, Finset.erase_eq_of_notMem]
        rw [Finset.mem_insert, not_or]
        exact ⟨Ne.symm nonzero, Finset.notMem_erase 0 _⟩
      rw [stored]
      change keys 0 entries ∪ _ = _
      rw [kept, List.toFinset_cons, Finset.insert_union, Finset.union_insert]
    · rw [counted, List.length_cons]
      change table.numEntries + 1 + rest.length = _
      omega

def matched (theta : ℕ) (K : Finset ℕ) (ordered : Bool) (hashes : List ℕ) : List ℕ :=
  (if ordered then hashes.takeWhile (· < theta) else hashes).filter
    fun hash => hash < theta ∧ hash ∈ K

theorem matched_cons_below {theta hash : ℕ} (below : hash < theta) (K : Finset ℕ) (ordered : Bool)
    (rest : List ℕ) : matched theta K ordered (hash :: rest) =
      if hash ∈ K then hash :: matched theta K ordered rest else matched theta K ordered rest := by
  cases ordered <;> by_cases known : hash ∈ K <;> simp [matched, below, known]

theorem matchLoop_matched {ordered : Bool} {maxMatches : ℕ} (reads : List (Run ℕ))
    (defined : ∀ read ∈ reads, Defined read) {table : HashTable}
    (slots : Slots table.lgCurSize table.entries) (room : table.stored.card < 2 ^ table.lgCurSize)
    (before : List ℕ) (count : ℕ) :
    Defined (matchLoop table ordered maxMatches before count reads) ∧
      ∀ result, matchLoop table ordered maxMatches before count reads = .ok result →
        result.1 = before ++ matched table.theta table.stored ordered (hashesOf reads) := by
  induction reads generalizing before count with
  | nil =>
    refine ⟨defined_ok _, fun result run => ?_⟩
    cases run
    cases ordered <;> simp [matched]
  | cons read rest ih =>
    obtain ⟨here, later⟩ := List.forall_mem_cons.mp defined
    cases read with
    | error exit =>
      exact defined_refused (defined_error_iff.mp here)
    | ok hash =>
      simp only [matchLoop, Run.ok_bind, hashesOf_ok]
      -- Past `theta` an ordered sketch ends the loop, an unordered one skips the entry.
      by_cases below : hash < table.theta
      · obtain ⟨slot, found, _⟩ := slots.find room hash
        change table.find hash = .ok (slot, decide (hash ∈ table.stored)) at found
        simp only [if_pos below, found, Run.ok_bind, decide_eq_true_eq]
        by_cases known : hash ∈ table.stored
        · simp only [if_pos known]
          -- The source throws when there are more matches than it made room for.
          by_cases full : before.length = maxMatches
          · simp only [if_pos full]
            exact defined_refused (by rintro what ⟨⟩)
          · simp only [if_neg full]
            obtain ⟨loopDefined, loop⟩ := ih later (before ++ [hash]) (count + 1)
            refine ⟨loopDefined, fun result run => ?_⟩
            rw [loop result run, matched_cons_below below, if_pos known, List.append_assoc]
            rfl
        · simp only [if_neg known]
          obtain ⟨loopDefined, loop⟩ := ih later before (count + 1)
          refine ⟨loopDefined, fun result run => ?_⟩
          rw [loop result run, matched_cons_below below, if_neg known]
      · simp only [if_neg below]
        cases ordered with
        | true =>
          refine ⟨defined_ok _, fun result run => ?_⟩
          cases run
          simp [matched, below]
        | false =>
          obtain ⟨loopDefined, loop⟩ := ih later before (count + 1)
          refine ⟨loopDefined, fun result run => ?_⟩
          rw [loop result run]
          simp [matched, below]

section Update

variable {table : HashTable} {view : SketchView}

theorem copyWith_tight (readable : Readable view) :
    Defined (copyWith HashTable.insert table view) ∧
      ∀ next, copyWith HashTable.insert table view = .ok next →
        (next.table.Tight ↔ 0 ∉ hashesOf view.entries) ∧ (next.table.Tight → Ready next.table) := by
  obtain ⟨holds, start⟩ := holds_renew table view.numRetained
  have fits : (table.renew (lgSizeFromCount view.numRetained)).numEntries + view.entries.length ≤
      HashTable.getCapacity (table.renew (lgSizeFromCount view.numRetained)).lgCurSize
        (table.renew (lgSizeFromCount view.numRetained)).lgNomSize := by
    change 0 + view.entries.length ≤
      HashTable.getCapacity (lgSizeFromCount view.numRetained) (lgSizeFromCount view.numRetained - 1)
    have few := readable.few
    have capacity := le_getCapacity_lgSizeFromCount view.numRetained
    omega
  obtain ⟨loopDefined, loop⟩ := fillLoop_tight view.entries readable.reads holds fits
  simp only [copyWith, fillLoopWith_insert]
  refine ⟨defined_bind_iff.mpr ⟨loopDefined, fun filled _ => ?_⟩, fun next run => ?_⟩
  · split
    · exact defined_error_iff.mpr (by rintro what ⟨⟩)
    · exact defined_ok _
  · obtain ⟨filled, filledRun, rest⟩ := Run.bind_eq_ok.mp run
    obtain ⟨holdsFilled, tight⟩ := loop filled filledRun
    split at rest
    · cases rest
    · cases rest
      exact ⟨tight.trans (and_iff_right start), holdsFilled.ready⟩

theorem narrowWith_tight (slots : Slots table.lgCurSize table.entries)
    (room : table.stored.card < 2 ^ table.lgCurSize) (readable : Readable view) :
    Defined (narrowWith HashTable.insert table view) ∧
      ∀ next, narrowWith HashTable.insert table view = .ok next →
        (next.table.Tight ↔
          (matched table.theta table.stored view.isOrdered (hashesOf view.entries)).Nodup) ∧
        (next.table.Tight → Ready next.table) := by
  obtain ⟨loopDefined, loop⟩ := @matchLoop_matched view.isOrdered
    (min table.numEntries view.numRetained) view.entries readable.reads table slots room [] 0
  obtain ⟨hashes, same⟩ : ∃ hashes, hashes =
    matched table.theta table.stored view.isOrdered (hashesOf view.entries) := ⟨_, rfl⟩
  have proper : ∀ hash ∈ hashes, hash ≠ 0 := by
    intro hash member
    rw [same, matched, List.mem_filter, decide_eq_true_iff] at member
    exact (mem_keys.mp member.2.2).1
  obtain ⟨holds, _⟩ := holds_renew table hashes.length
  obtain ⟨built, puts, holdsBuilt, stored, counted⟩ := putAll_counts hashes proper holds (by
    change 0 + hashes.length ≤
      HashTable.getCapacity (lgSizeFromCount hashes.length) (lgSizeFromCount hashes.length - 1)
    have capacity := le_getCapacity_lgSizeFromCount hashes.length
    omega)
  rw [← same]
  simp only [narrowWith]
  cases matching : matchLoop table view.isOrdered (min table.numEntries view.numRetained) [] 0
      view.entries with
  | error exit =>
    rw [matching] at loopDefined
    exact defined_refused (defined_error_iff.mp loopDefined)
  | ok result =>
    obtain ⟨found, count⟩ := result
    have found_eq : found = hashes := by
      rw [same]
      exact loop _ matching
    subst found_eq
    simp only [Run.ok_bind]
    split
    · exact defined_refused (by rintro what ⟨⟩)
    split
    · exact defined_refused (by rintro what ⟨⟩)
    split
    -- No match: the table is cleared, and with it every reason for a wrong count.
    next bare =>
      refine ⟨defined_ok _, fun next run => ?_⟩
      cases run
      have ready : Ready (if table.theta = maxTheta then { table.renew 0 with isEmpty := true }
          else table.renew 0) := by
        split
        · exact ⟨(ready_renew table).counted, (ready_renew table).slots⟩
        · exact ready_renew table
      rw [List.eq_nil_of_length_eq_zero bare]
      exact ⟨iff_of_true ready.tight List.nodup_nil, fun _ => ready⟩
    next =>
      -- The matches go into a new table, which counts each of them.
      rw [putWith_insert, puts]
      refine ⟨defined_ok _, fun next run => ?_⟩
      cases run
      refine ⟨?_, holdsBuilt.ready⟩
      rw [tight_iff holdsBuilt.slots, stored, counted, HashTable.renew, stored_new,
        Finset.empty_union, HashTable.new_numEntries, Nat.zero_add]
      exact Multiset.toFinset_card_eq_card_iff_nodup

end Update

def bound (intersection : ThetaIntersection) (sketch : SketchView) : ℕ :=
  if intersection.table.isEmpty || sketch.isEmpty then maxTheta
  else min intersection.table.theta sketch.theta

/-- A first update meets no zero, and a later one matches no entry twice. A result
that is settled already looks at nothing. -/
def Clean (intersection : ThetaIntersection) (sketch : SketchView) : Prop :=
  intersection.table.isEmpty = true ∨
    if intersection.isValid then
      (matched (intersection.bound sketch) intersection.table.stored sketch.isOrdered
        (hashesOf sketch.entries)).Nodup
    else 0 ∉ hashesOf sketch.entries

instance (intersection : ThetaIntersection) (sketch : SketchView) :
    Decidable (intersection.Clean sketch) := by
  unfold Clean
  infer_instance

theorem acceptWith_tight {intersection : ThetaIntersection} {view : SketchView}
    (ready : Ready intersection.table) (readable : Readable view)
    (unsettled : intersection.table.isEmpty = false) :
    Defined (acceptWith HashTable.insert intersection view) ∧
      ∀ next, acceptWith HashTable.insert intersection view = .ok next →
        (next.table.Tight ↔ intersection.Clean view) ∧ (next.table.Tight → Ready next.table) := by
  obtain ⟨isValid, table⟩ := intersection
  change table.isEmpty = false at unsettled
  obtain ⟨bounded, same⟩ : ∃ bounded : HashTable, bounded =
    { table with
      isEmpty := table.isEmpty || view.isEmpty
      theta := bound ⟨isValid, table⟩ view } := ⟨_, rfl⟩
  have readyBounded : Ready bounded := same ▸ ⟨ready.counted, ready.slots⟩
  have stored : bounded.stored = table.stored := same ▸ rfl
  have theta : bounded.theta = bound ⟨isValid, table⟩ view := same ▸ rfl
  have count : table.numEntries = bounded.numEntries := same ▸ rfl
  have accepts : acceptWith HashTable.insert ⟨isValid, table⟩ view =
      if isValid && decide (bounded.numEntries = 0) then .ok ⟨isValid, bounded⟩
      else if view.numRetained = 0 then .ok ⟨true, bounded.renew 0⟩
      else if !isValid then copyWith HashTable.insert bounded view
      else narrowWith HashTable.insert bounded view := by
    rw [same]
    rfl
  rw [accepts]
  cases isValid with
  | false =>
    have clean : Clean ⟨false, table⟩ view ↔ 0 ∉ hashesOf view.entries := by simp [Clean, unsettled]
    rw [clean]
    simp only [Bool.false_and, Bool.false_eq_true, if_false, Bool.not_false, if_true]
    by_cases none_offered : view.numRetained = 0
    · rw [if_pos none_offered, readable.nothing none_offered]
      refine ⟨defined_ok _, fun next run => ?_⟩
      cases run
      exact ⟨iff_of_true (ready_renew bounded).tight List.not_mem_nil, fun _ => ready_renew bounded⟩
    · rw [if_neg none_offered]
      exact copyWith_tight readable
  | true =>
    have clean : Clean ⟨true, table⟩ view ↔ (matched bounded.theta bounded.stored view.isOrdered
        (hashesOf view.entries)).Nodup := by
      rw [theta, stored]
      simp [Clean, unsettled]
    rw [clean]
    simp only [Bool.true_and, decide_eq_true_eq, Bool.not_true, Bool.false_eq_true, if_false]
    by_cases bare : bounded.numEntries = 0
    · -- Without keys there is nothing to match.
      have nothing : bounded.stored = ∅ := Finset.card_eq_zero.mp (readyBounded.counted.trans bare)
      rw [if_pos bare, nothing]
      refine ⟨defined_ok _, fun next run => ?_⟩
      cases run
      exact ⟨iff_of_true readyBounded.tight (by simp [matched]), fun _ => readyBounded⟩
    obtain ⟨slots, room⟩ := readyBounded.slots bare
    rw [if_neg bare]
    by_cases none_offered : view.numRetained = 0
    · rw [if_pos none_offered, readable.nothing none_offered]
      refine ⟨defined_ok _, fun next run => ?_⟩
      cases run
      refine ⟨iff_of_true (ready_renew bounded).tight ?_, fun _ => ready_renew bounded⟩
      cases view.isOrdered <;> simp [matched]
    · rw [if_neg none_offered]
      exact narrowWith_tight slots (readyBounded.counted.trans_lt room) readable

theorem update_tight {intersection : ThetaIntersection} {view : SketchView}
    (ready : Ready intersection.table) (readable : Readable view) :
    Defined (intersection.update view) ∧ ∀ next, intersection.update view = .ok next →
      (next.table.Tight ↔ intersection.Clean view) ∧ (next.table.Tight → Ready next.table) := by
  rw [← updateWith_insert]
  simp only [updateWith]
  by_cases settled : intersection.table.isEmpty = true
  · rw [if_pos settled]
    refine ⟨defined_ok _, fun next run => ?_⟩
    cases run
    exact ⟨iff_of_true ready.tight (.inl settled), fun _ => ready⟩
  · rw [if_neg settled]
    split
    · exact defined_refused (by rintro what ⟨⟩)
    · exact acceptWith_tight ready readable (by simpa using settled)

end ThetaIntersection

/-! Blobs. -/

theorem length_iterate_le {bytes : List UInt8} {entryBits numEntries : ℕ} (turns : ℕ)
    (run : Run WrappedIterator) :
    (WrappedIterator.iterate bytes entryBits numEntries turns run).length ≤ turns := by
  induction turns generalizing run with
  | zero => exact le_rfl
  | succ turns ih =>
    cases run with
    | error exit => exact Nat.succ_le_succ (Nat.zero_le turns)
    | ok it => exact Nat.succ_le_succ (ih _)

/-- Bytes that the parser accepts and whose entries all lie inside them. -/
structure AcceptedBlob (seed : UInt64) where
  bytes : List UInt8
  data : CompactThetaSketchData
  parsed : CompactThetaSketchParser.parse bytes seed false = .ok data
  inside : EntriesInside bytes seed data

namespace AcceptedBlob

variable {seed : UInt64}

def view (blob : AcceptedBlob seed) : SketchView := blob.data.view blob.bytes

theorem readable (blob : AcceptedBlob seed) : Readable blob.view where
  reads := blob.inside.view
  few := length_iterate_le _ _

def ofWords (bytes : List UInt8) (data : CompactThetaSketchData)
    (parsed : CompactThetaSketchParser.parse bytes seed false = .ok data)
    (words : data.entryBits = 64) (inside : data.Inside bytes) : AcceptedBlob seed where
  bytes := bytes
  data := data
  parsed := parsed
  inside := by
    refine (entriesInside_iff_data parsed).mpr ⟨inside, fun hollow => ?_, fun packed => ?_⟩
    · have bits := hollow.1
      omega
    · omega

end AcceptedBlob

/-- Corrupt entries break the tables of unions and intersections exactly when an
update of a union searches for a zero, a first update of an intersection meets a
zero, or a later one matches an entry twice. -/
theorem corrupt_entries_iff {seed : UInt64} (builder : ThetaBaseBuilder)
    (large : minLgK ≤ builder.lgK) (blobs : List (AcceptedBlob seed)) :
    (Always ThetaUnion.update (fun union => union.table.Tight) (ThetaUnion.new builder)
        (blobs.map AcceptedBlob.view) ↔
      Throughout ThetaUnion.update (fun union sketch => 0 ∉ union.searches sketch)
        (ThetaUnion.new builder) (blobs.map AcceptedBlob.view)) ∧
    (Always ThetaIntersection.update (fun intersection => intersection.table.Tight)
        (ThetaIntersection.new seed) (blobs.map AcceptedBlob.view) ↔
      Throughout ThetaIntersection.update ThetaIntersection.Clean (ThetaIntersection.new seed)
        (blobs.map AcceptedBlob.view)) := by
  have readable : ∀ view ∈ blobs.map AcceptedBlob.view, Readable view :=
    List.forall_mem_map.mpr fun blob _ => blob.readable
  constructor
  · have grows := builder.table_grows large
    have tight : builder.table.Tight := by
      rw [tight_iff grows.slots, ThetaBaseBuilder.table, stored_new]
      rfl
    exact @always_iff _ _ _ _ (fun union => Grows union.table ∧ union.table.Tight) _
      (fun _ good => good.2) _ (fun union view member good => by
        obtain ⟨defined, later⟩ := ThetaUnion.update_tight good.1 (readable view member)
        refine ⟨defined, fun next run => ?_⟩
        obtain ⟨growsNext, settles⟩ := later next run
        exact ⟨settles.trans (and_iff_right good.2), fun tightNext => ⟨growsNext, tightNext⟩⟩)
      (ThetaUnion.new builder) ⟨grows, tight⟩
  · exact @always_iff _ _ _ _ (fun intersection => Ready intersection.table) _
      (fun _ ready => ready.tight) _
      (fun _ view member ready => ThetaIntersection.update_tight ready (readable view member))
      (ThetaIntersection.new seed) (ready_renew (HashTable.new 0 0 .X1 1 maxTheta seed false))

def shuffledBlob : AcceptedBlob defaultSeed :=
  .ofWords [2, 3, 3, 0, 0, 26, 204, 147, 3, 0, 0, 0, 0, 0, 0, 0,
      9, 0, 0, 0, 0, 0, 0, 0, 5, 0, 0, 0, 0, 0, 0, 0, 7, 0, 0, 0, 0, 0, 0, 0]
    ⟨false, true, 37836, 3, maxTheta, some 16, 64⟩ (by decide +kernel) rfl (by decide)

def twiceBlob : AcceptedBlob defaultSeed :=
  .ofWords [2, 3, 3, 0, 0, 26, 204, 147, 2, 0, 0, 0, 0, 0, 0, 0,
      5, 0, 0, 0, 0, 0, 0, 0, 5, 0, 0, 0, 0, 0, 0, 0]
    ⟨false, true, 37836, 2, maxTheta, some 16, 64⟩ (by decide +kernel) rfl (by decide)

def highBlob : AcceptedBlob defaultSeed :=
  .ofWords [3, 3, 3, 0, 0, 10, 204, 147, 2, 0, 0, 0, 0, 0, 0, 0, 8, 0, 0, 0, 0, 0, 0, 0,
      9, 0, 0, 0, 0, 0, 0, 0, 5, 0, 0, 0, 0, 0, 0, 0]
    ⟨false, false, 37836, 2, 8, some 24, 64⟩ (by decide +kernel) rfl (by decide)

/-- Entries that are out of order or not below the bound do no harm, nor do entries that a union
meets twice. -/
theorem corrupt_entries_iff_harmless :
    Always ThetaUnion.update (fun union => union.table.Tight) (ThetaUnion.new {})
      [shuffledBlob.view, twiceBlob.view, highBlob.view] ∧
    Always ThetaIntersection.update (fun intersection => intersection.table.Tight)
      (ThetaIntersection.new defaultSeed) [shuffledBlob.view, highBlob.view] :=
  ⟨(corrupt_entries_iff {} (by decide) [shuffledBlob, twiceBlob, highBlob]).1.mpr (by decide +kernel),
    (corrupt_entries_iff {} (by decide) [shuffledBlob, highBlob]).2.mpr (by decide +kernel)⟩

def zeroBlob : AcceptedBlob defaultSeed :=
  .ofWords [1, 3, 3, 0, 0, 26, 204, 147, 0, 0, 0, 0, 0, 0, 0, 0]
    ⟨false, true, 37836, 1, maxTheta, some 8, 64⟩ (by decide +kernel) rfl (by decide)

def pairBlob : AcceptedBlob defaultSeed :=
  .ofWords [2, 3, 3, 0, 0, 26, 204, 147, 2, 0, 0, 0, 0, 0, 0, 0,
      5, 0, 0, 0, 0, 0, 0, 0, 7, 0, 0, 0, 0, 0, 0, 0]
    ⟨false, true, 37836, 2, maxTheta, some 16, 64⟩ (by decide +kernel) rfl (by decide)

theorem corrupt_entries_break :
    ¬ Always ThetaUnion.update (fun union => union.table.Tight) (ThetaUnion.new {}) [zeroBlob.view] ∧
    ¬ Always ThetaIntersection.update (fun intersection => intersection.table.Tight)
      (ThetaIntersection.new defaultSeed) [zeroBlob.view] ∧
    ¬ Always ThetaIntersection.update (fun intersection => intersection.table.Tight)
      (ThetaIntersection.new defaultSeed) [pairBlob.view, twiceBlob.view] :=
  ⟨not_always (by decide +kernel), not_always (by decide +kernel), not_always (by decide +kernel)⟩

end ThetaSketch
