import ThetaSketch.Sketch.Sketch
import ThetaSketch.Table.Filling

/-! The intersection of sketches.

The first sketch is copied into a table; every later one keeps the keys that it
shares with the table below the common `theta`. `Meet` is the state that the
bookkeeping amounts to, with its early exits.
-/

set_option autoImplicit false

namespace ThetaSketch

open OpenAddressing Threshold

structure ThetaIntersection where
  isValid : Bool
  table : HashTable
  deriving Repr

namespace ThetaIntersection

def new (seed : UInt64) : ThetaIntersection :=
  ⟨false, HashTable.new 0 0 .X1 1 maxTheta seed false⟩

def fillLoop : HashTable → List (Run ℕ) → Run HashTable
  | table, [] => return table
  | table, read :: rest => do
    let hash ← read
    let result ← table.find hash
    if result.2 then throw (.invalidArg "duplicate key, possibly corrupted input sketch")
    let table ← table.insert result.1 hash
    fillLoop table rest

def matchLoop (table : HashTable) (ordered : Bool) (maxMatches : ℕ) :
    List ℕ → ℕ → List (Run ℕ) → Run (List ℕ × ℕ)
  | matched, count, [] => return (matched, count)
  | matched, count, read :: rest => do
    let hash ← read
    if hash < table.theta then
      let result ← table.find hash
      if result.2 then
        if matched.length = maxMatches then
          throw (.invalidArg "max matches exceeded, possibly corrupted input sketch")
        matchLoop table ordered maxMatches (matched ++ [hash]) (count + 1) rest
      else matchLoop table ordered maxMatches matched (count + 1) rest
    else if ordered then return (matched, count)
    else matchLoop table ordered maxMatches matched (count + 1) rest

def update (intersection : ThetaIntersection) (sketch : SketchView) : Run ThetaIntersection := do
  let seed := intersection.table.seed
  if intersection.table.isEmpty then return intersection
  if !sketch.isEmpty && decide (sketch.seedHash ≠ computeSeedHash seed) then
    throw (.invalidArg "seed hash mismatch")
  let isEmpty := intersection.table.isEmpty || sketch.isEmpty
  let theta := if isEmpty then maxTheta else min intersection.table.theta sketch.theta
  let table := { intersection.table with isEmpty := isEmpty, theta := theta }
  if intersection.isValid && decide (table.numEntries = 0) then return { intersection with table := table }
  if sketch.numRetained = 0 then return ⟨true, HashTable.new 0 0 .X1 1 theta seed isEmpty⟩
  if !intersection.isValid then
    let lgSize := lgSizeFromCount sketch.numRetained
    let table ← fillLoop (HashTable.new lgSize (lgSize - 1) .X1 1 theta seed isEmpty) sketch.entries
    if table.numEntries ≠ sketch.numRetained then
      throw (.invalidArg "num entries mismatch, possibly corrupted input sketch")
    return ⟨true, table⟩
  else
    let maxMatches := min table.numEntries sketch.numRetained
    let (matched, count) ← matchLoop table sketch.isOrdered maxMatches [] 0 sketch.entries
    if sketch.numRetained < count then
      throw (.invalidArg " more keys than expected, possibly corrupted input sketch")
    if !sketch.isOrdered && decide (count < sketch.numRetained) then
      throw (.invalidArg " fewer keys than expected, possibly corrupted input sketch")
    if matched.length = 0 then
      let table := HashTable.new 0 0 .X1 1 theta seed isEmpty
      return ⟨true, if theta = maxTheta then { table with isEmpty := true } else table⟩
    else
      let lgSize := lgSizeFromCount matched.length
      let table ← matched.foldlM HashTable.put
        (HashTable.new lgSize (lgSize - 1) .X1 1 theta seed isEmpty)
      return ⟨true, table⟩

def getResult (intersection : ThetaIntersection) (ordered : Bool) : Run CompactSketch := do
  if !intersection.isValid then
    throw (.invalidArg "calling get_result() before calling update() is undefined")
  let table := intersection.table
  let entries := if 0 < table.numEntries then
      if ordered then sort table.iterate else table.iterate
    else []
  return CompactSketch.new table.isEmpty ordered (computeSeedHash table.seed) table.theta entries

end ThetaIntersection

/-! What the bookkeeping amounts to. -/

/-- A sketch, or the running intersection of sketches, without its representation. -/
structure Meet where
  isEmpty : Bool
  theta : ℕ
  keys : Finset ℕ
  deriving DecidableEq

namespace Meet

def void : Meet := ⟨true, maxTheta, ∅⟩

/-- Intersect a running state with a sketch that is not flagged empty. No common
key in exact mode makes the state an empty sketch, but only when both sides had
keys to compare. -/
def narrow (state : Meet) (sketch : Meet) : Meet :=
  let theta := min state.theta sketch.theta
  if state.keys = ∅ ∨ sketch.keys = ∅ then ⟨false, theta, ∅⟩
  else
    let common := sample (state.keys ∩ sketch.keys) theta
    if common = ∅ then ⟨decide (theta = maxTheta), theta, ∅⟩ else ⟨false, theta, common⟩

def update (state : Option Meet) (sketch : Meet) : Meet :=
  match state with
  | none => if sketch.isEmpty then void else ⟨false, min maxTheta sketch.theta, sketch.keys⟩
  | some state =>
    if state.isEmpty then state else if sketch.isEmpty then void else state.narrow sketch

end Meet

/-- The table shows a state. Only a state with keys has slots to search. -/
structure Shows (table : HashTable) (meet : Meet) : Prop where
  seed : table.seed = defaultSeed
  isEmpty : table.isEmpty = meet.isEmpty
  theta : table.theta = meet.theta
  stored : table.stored = meet.keys
  count : table.numEntries = meet.keys.card
  filled : meet.keys.Nonempty →
    Filled table meet.keys ∧ meet.keys.card < 2 ^ table.lgCurSize
  range : ∀ hash ∈ meet.keys, 0 < hash ∧ hash < meet.theta
  void : meet.isEmpty = true → meet = Meet.void

/-- The running intersection stands for a state; the fresh one stands for none. -/
inductive Meets : ThetaIntersection → Option Meet → Prop where
  | fresh : Meets (ThetaIntersection.new defaultSeed) none
  | shown {table : HashTable} {meet : Meet} (shows : Shows table meet) : Meets ⟨true, table⟩ (some meet)

theorem shows_blank (theta : ℕ) (isEmpty : Bool) (void : isEmpty = true → theta = maxTheta) :
    Shows (HashTable.new 0 0 .X1 1 theta defaultSeed isEmpty) ⟨isEmpty, theta, ∅⟩ where
  seed := rfl
  isEmpty := rfl
  theta := rfl
  stored := stored_new ..
  count := rfl
  filled := fun some => absurd some Finset.not_nonempty_empty
  range := by simp
  void := by
    intro flagged
    change isEmpty = true at flagged
    rw [flagged, void flagged]
    rfl

theorem ThetaIntersection.fillLoop_eq {table : HashTable} {K : Finset ℕ}
    (filled : Filled table K) (E : List ℕ) (distinct : E.Nodup)
    (fresh : ∀ hash ∈ E, hash ∉ K ∧ hash ≠ 0) (takes : Takes table (K.card + E.length)) :
    ThetaIntersection.fillLoop table (E.map .ok) = E.foldlM HashTable.put table := by
  induction E generalizing table K with
  | nil => rfl
  | cons hash rest ih =>
    obtain ⟨new, proper⟩ := fresh hash List.mem_cons_self
    obtain ⟨apart, distinctRest⟩ := List.nodup_cons.mp distinct
    rw [List.length_cons] at takes
    obtain ⟨slot, next, found, run, after, config⟩ :=
      filled.insert new proper (takes.mono (by omega))
    have size := card_union_fresh new
    have rest_eq := ih after distinctRest (fresh_rest apart fresh)
      ((takes.config config).mono (by omega))
    simp [ThetaIntersection.fillLoop, HashTable.put, found, run, rest_eq]

theorem shows_built {E : List ℕ} {theta : ℕ} (distinct : E.Nodup)
    (range : ∀ hash ∈ E, 0 < hash ∧ hash < theta) :
    ∃ table, E.foldlM HashTable.put (HashTable.new (lgSizeFromCount E.length)
        (lgSizeFromCount E.length - 1) .X1 1 theta defaultSeed false) = .ok table ∧
      ThetaIntersection.fillLoop (HashTable.new (lgSizeFromCount E.length)
        (lgSizeFromCount E.length - 1) .X1 1 theta defaultSeed false) (E.map .ok) = .ok table ∧
      Shows table ⟨false, theta, E.toFinset⟩ := by
  have start := filled_new (lgSizeFromCount_pos E.length) (lgSizeFromCount E.length - 1) .X1 1
    theta defaultSeed false
  have takes : Takes (HashTable.new (lgSizeFromCount E.length) (lgSizeFromCount E.length - 1) .X1 1
      theta defaultSeed false) ((∅ : Finset ℕ).card + E.length) := by
    rw [Finset.card_empty, Nat.zero_add]
    exact Or.inl (le_getCapacity_lgSizeFromCount E.length)
  have fresh : ∀ hash ∈ E, hash ∉ (∅ : Finset ℕ) ∧ hash ≠ 0 := fun hash member =>
    ⟨Finset.notMem_empty _, (range hash member).1.ne'⟩
  -- The table is sized for the count, so the filling never rebuilds it.
  obtain ⟨table, run, filled, config⟩ := start.putAll E distinct fresh takes
  rw [Finset.empty_union] at filled
  have size : table.lgCurSize = lgSizeFromCount E.length := by
    have same := congrArg HashTable.lgCurSize config
    exact same
  have card : E.toFinset.card = E.length := List.toFinset_card_of_nodup distinct
  refine ⟨table, run, (ThetaIntersection.fillLoop_eq start E distinct fresh takes).trans run, ?_⟩
  refine ⟨?_, ?_, ?_, filled.stored, filled.count, fun _ => ⟨filled, ?_⟩, ?_,
    by rintro ⟨⟩⟩
  · have same := congrArg HashTable.seed config
    exact same
  · have same := congrArg HashTable.isEmpty config
    exact same
  · have same := congrArg HashTable.theta config
    exact same
  · rw [size]
    change E.toFinset.card < _
    rw [card]
    exact lt_two_pow_lgSizeFromCount E.length
  · exact fun hash member => range hash (List.mem_toFinset.mp member)

/-- A later update finds the shared entries below `theta`, and counts every entry
that it does not skip by stopping early. -/
theorem ThetaIntersection.matchLoop_spec {table : HashTable} {K : Finset ℕ}
    (filled : Filled table K) (room : K.card < 2 ^ table.lgCurSize) {ordered : Bool}
    (before rest : List ℕ) (distinct : (before ++ rest).Nodup)
    (sorted : ordered = true → (before ++ rest).Pairwise (· < ·)) :
    ∃ count, ThetaIntersection.matchLoop table ordered (min K.card (before ++ rest).length)
        (before.filter fun hash => hash < table.theta ∧ hash ∈ K) before.length (rest.map .ok) =
      .ok ((before ++ rest).filter fun hash => hash < table.theta ∧ hash ∈ K, count) ∧
      count ≤ (before ++ rest).length ∧ (ordered = false → count = (before ++ rest).length) := by
  induction rest generalizing before with
  | nil =>
    rw [List.append_nil]
    exact ⟨before.length, rfl, le_rfl, fun _ => rfl⟩
  | cons hash rest ih =>
    have shift : before ++ hash :: rest = (before ++ [hash]) ++ rest := by simp
    rw [shift] at distinct sorted ⊢
    obtain ⟨count, loop, most, all⟩ := ih (before ++ [hash]) distinct sorted
    simp only [List.map_cons, ThetaIntersection.matchLoop, Run.ok_bind]
    have longer : (before ++ [hash]).length = before.length + 1 := by simp
    have filtered : (before ++ [hash]).filter (fun hash => hash < table.theta ∧ hash ∈ K) =
        before.filter (fun hash => hash < table.theta ∧ hash ∈ K) ++
          [hash].filter (fun hash => hash < table.theta ∧ hash ∈ K) := List.filter_append _ _
    rw [longer, filtered] at loop
    by_cases below : hash < table.theta
    · obtain ⟨slot, found⟩ := filled.find room hash
      rw [if_pos below, found, Run.ok_bind]
      by_cases shared : hash ∈ K
      · -- One more shared entry still fits the smaller of the two counts.
        have fits : (before.filter fun hash => hash < table.theta ∧ hash ∈ K).length + 1 ≤
            min K.card (before ++ [hash] ++ rest).length := by
          have nodup : ((before ++ [hash]).filter fun hash => hash < table.theta ∧ hash ∈ K).Nodup :=
            (distinct.sublist (List.sublist_append_left _ _)).filter _
          have inside : ((before ++ [hash]).filter fun hash =>
              hash < table.theta ∧ hash ∈ K).toFinset ⊆ K := by
            intro x member
            rw [List.mem_toFinset, List.mem_filter, decide_eq_true_iff] at member
            exact member.2.2
          have bound := Finset.card_le_card inside
          have shorter := List.length_filter_le (fun hash => hash < table.theta ∧ hash ∈ K) before
          rw [List.toFinset_card_of_nodup nodup, filtered, List.length_append] at bound
          simp only [below, shared, and_self, decide_true, List.filter_cons_of_pos,
            List.filter_nil, List.length_singleton] at bound
          rw [List.length_append, List.length_append, List.length_singleton]
          omega
        have single : [hash].filter (fun hash => hash < table.theta ∧ hash ∈ K) = [hash] := by
          simp [below, shared]
        rw [single] at loop
        refine ⟨count, ?_, most, all⟩
        rw [if_pos (by simpa using shared), if_neg (by omega)]
        exact loop
      · have single : [hash].filter (fun hash => hash < table.theta ∧ hash ∈ K) = [] := by
          simp [shared]
        rw [single, List.append_nil] at loop
        refine ⟨count, ?_, most, all⟩
        rw [if_neg (by simpa using shared)]
        exact loop
    · have single : [hash].filter (fun hash => hash < table.theta ∧ hash ∈ K) = [] := by
        simp [below]
      rw [single, List.append_nil] at loop
      rw [if_neg below]
      cases flagged : ordered with
      | false =>
        rw [flagged] at loop
        exact ⟨count, by simpa using loop, most, fun _ => all flagged⟩
      | true =>
        have tail : (hash :: rest).filter (fun hash => hash < table.theta ∧ hash ∈ K) = [] := by
          have increasing := sorted flagged
          rw [← shift, List.pairwise_append] at increasing
          rw [List.filter_eq_nil_iff]
          intro x member small
          have small : x < table.theta := (of_decide_eq_true small).1
          rcases List.mem_cons.mp member with rfl | later
          · exact below small
          · exact below (((List.pairwise_cons.mp increasing.2.1).1 x later).trans small)
        refine ⟨before.length, ?_, by simp, by rintro ⟨⟩⟩
        rw [← shift, List.filter_append, tail, List.append_nil]
        rfl

def SketchView.meet (view : SketchView) (E : List ℕ) : Meet := ⟨view.isEmpty, view.theta, E.toFinset⟩

namespace Meets

variable {view : SketchView} {E : List ℕ}

theorem update_fresh (valid : view.Valid E) (bounded : view.theta ≤ maxTheta) :
    ∃ next, (ThetaIntersection.new defaultSeed).update view = .ok next ∧
      Meets next (some (Meet.update none (view.meet E))) := by
  -- The first update copies: an empty sketch, one without entries, or its entries.
  rcases Bool.eq_false_or_eq_true view.isEmpty with flagged | flagged
  · have count : view.numRetained = 0 := by rw [valid.count, valid.empty flagged, List.length_nil]
    refine ⟨⟨true, HashTable.new 0 0 .X1 1 maxTheta defaultSeed true⟩, ?_, ?_⟩
    · simp [ThetaIntersection.update, ThetaIntersection.new, flagged, count]
    · have voided : Meet.update none (view.meet E) = Meet.void := by
        simp [Meet.update, SketchView.meet, flagged]
      rw [voided]
      exact Meets.shown (shows_blank maxTheta true fun _ => rfl)
  have seed : view.seedHash = computeSeedHash defaultSeed := valid.seed flagged
  have meet : Meet.update none (view.meet E) = ⟨false, view.theta, E.toFinset⟩ := by
    simp [Meet.update, SketchView.meet, flagged, bounded]
  rw [meet]
  by_cases none_kept : E = []
  · have count : view.numRetained = 0 := by rw [valid.count, none_kept, List.length_nil]
    refine ⟨⟨true, HashTable.new 0 0 .X1 1 view.theta defaultSeed false⟩, ?_, ?_⟩
    · simp [ThetaIntersection.update, ThetaIntersection.new, flagged, count, seed, bounded]
    · rw [none_kept]
      exact Meets.shown (shows_blank view.theta false (by rintro ⟨⟩))
  · have count : view.numRetained ≠ 0 := by
      rw [valid.count]
      exact fun zero => none_kept (List.eq_nil_of_length_eq_zero zero)
    obtain ⟨table, _, run, shows⟩ := shows_built valid.distinct valid.range
    -- The source compares this count with the announced one.
    have size : table.numEntries = view.numRetained := by
      rw [shows.count, valid.count, List.toFinset_card_of_nodup valid.distinct]
    rw [← valid.count, ← valid.reads] at run
    refine ⟨⟨true, table⟩, ?_, Meets.shown shows⟩
    simp [ThetaIntersection.update, ThetaIntersection.new, flagged, count, seed, bounded, run, size]

theorem shows_bare {table : HashTable} {meet : Meet} (shows : Shows table meet)
    (bare : meet.keys = ∅) (theta : ℕ) (isEmpty : Bool)
    (void : isEmpty = true → theta = maxTheta) :
    Shows { table with isEmpty := isEmpty, theta := theta } ⟨isEmpty, theta, ∅⟩ where
  seed := shows.seed
  isEmpty := rfl
  theta := rfl
  stored := shows.stored.trans bare
  count := by
    have none_counted := shows.count
    rwa [bare, Finset.card_empty] at none_counted
  filled := fun some => absurd some Finset.not_nonempty_empty
  range := by simp
  void := by
    intro flagged
    change isEmpty = true at flagged
    rw [flagged, void flagged]
    rfl

theorem update_match {table : HashTable} {meet : Meet} (shows : Shows table meet)
    (valid : view.Valid E) (proper : view.isEmpty = false) (unempty : meet.isEmpty = false)
    (kept : meet.keys.Nonempty) (offered : E ≠ []) :
    ∃ next, (ThetaIntersection.mk true table).update view = .ok next ∧
      Meets next (some (meet.narrow (view.meet E))) := by
  have tableOpen : table.isEmpty = false := shows.isEmpty.trans unempty
  have seed : view.seedHash = computeSeedHash defaultSeed := valid.seed proper
  have counted : table.numEntries ≠ 0 := by
    rw [shows.count]
    exact Finset.card_ne_zero.mpr kept
  have count : view.numRetained ≠ 0 := by
    rw [valid.count]
    exact fun zero => offered (List.eq_nil_of_length_eq_zero zero)
  obtain ⟨filled, room⟩ := shows.filled kept
  obtain ⟨theta, sameTheta⟩ : ∃ theta, theta = min table.theta view.theta := ⟨_, rfl⟩
  have searched : Filled { table with isEmpty := false, theta := theta } meet.keys :=
    ⟨filled.slots, filled.stored, filled.count⟩
  obtain ⟨looked, loop, most, all⟩ := @ThetaIntersection.matchLoop_spec _ _ searched room
    view.isOrdered [] E valid.distinct valid.ordered
  obtain ⟨matched, sameMatched⟩ : ∃ matched, matched =
      E.filter (fun hash => decide (hash < theta ∧ hash ∈ meet.keys)) := ⟨_, rfl⟩
  have distinct : matched.Nodup := sameMatched ▸ valid.distinct.filter _
  have common : matched.toFinset = sample (meet.keys ∩ E.toFinset) theta := by
    ext x
    rw [sameMatched, List.mem_toFinset, List.mem_filter, decide_eq_true_iff, mem_sample,
      Finset.mem_inter, List.mem_toFinset]
    tauto
  change ThetaIntersection.matchLoop _ _ _ [] 0 _ = .ok (E.filter _, looked) at loop
  rw [List.nil_append, ← shows.count, ← valid.count, ← valid.reads] at loop
  rw [List.nil_append, ← valid.count] at most all
  change ThetaIntersection.matchLoop _ _ _ [] 0 _ =
    .ok (E.filter (fun hash => decide (hash < theta ∧ hash ∈ meet.keys)), looked) at loop
  rw [← sameMatched, shows.seed] at loop
  have enough : view.isOrdered = false → ¬ looked < view.numRetained := by
    intro flagged
    rw [all flagged]
    exact lt_irrefl _
  have some_offered : E.toFinset ≠ ∅ := by simpa using offered
  have state : meet.narrow (view.meet E) = if matched = [] then ⟨decide (theta = maxTheta), theta, ∅⟩
      else ⟨false, theta, matched.toFinset⟩ := by
    have empty_iff : sample (meet.keys ∩ E.toFinset) theta = ∅ ↔ matched = [] := by
      rw [← common, List.toFinset_eq_empty_iff]
    simp only [Meet.narrow, SketchView.meet, kept.ne_empty, some_offered, or_self, if_false,
      ← shows.theta, ← sameTheta, empty_iff, common]
  rw [state]
  by_cases disjoint : matched = []
  · -- Nothing is shared: exact sketches leave an empty one.
    rw [if_pos disjoint]
    refine ⟨⟨true, HashTable.new 0 0 .X1 1 theta defaultSeed (decide (theta = maxTheta))⟩, ?_,
      Meets.shown (shows_blank theta _ fun whole => of_decide_eq_true whole)⟩
    rw [disjoint] at loop
    simp [ThetaIntersection.update, tableOpen, proper, seed, shows.seed, counted, count, ← sameTheta,
      loop, Nat.not_lt.mpr most]
    rw [if_neg fun both => enough both.1 both.2]
    by_cases whole : theta = maxTheta
    · simp [whole, HashTable.new]
    · simp [whole]
  · rw [if_neg disjoint]
    obtain ⟨built, run, _, builtShows⟩ := @shows_built _ theta distinct (by
      intro hash member
      rw [sameMatched, List.mem_filter, decide_eq_true_iff] at member
      exact ⟨(valid.range hash member.1).1, member.2.1⟩)
    refine ⟨⟨true, built⟩, ?_, Meets.shown builtShows⟩
    simp [ThetaIntersection.update, tableOpen, proper, seed, shows.seed, counted, count, ← sameTheta,
      loop, Nat.not_lt.mpr most, disjoint, run]
    exact fun flagged => not_lt.mp (enough flagged)

theorem update_shown {table : HashTable} {meet : Meet} (shows : Shows table meet)
    (valid : view.Valid E) :
    ∃ next, (ThetaIntersection.mk true table).update view = .ok next ∧
      Meets next (some (Meet.update (some meet) (view.meet E))) := by
  -- An empty intersection stays as it is.
  rcases Bool.eq_false_or_eq_true meet.isEmpty with closed | open_state
  · refine ⟨⟨true, table⟩, ?_, ?_⟩
    · simp [ThetaIntersection.update, shows.isEmpty, closed]
    · simpa [Meet.update, closed] using Meets.shown shows
  have tableOpen : table.isEmpty = false := shows.isEmpty.trans open_state
  -- An empty sketch empties the intersection, with or without entries in its table.
  rcases Bool.eq_false_or_eq_true view.isEmpty with flagged | flagged
  · have count : view.numRetained = 0 := by rw [valid.count, valid.empty flagged, List.length_nil]
    have meet_void : Meet.update (some meet) (view.meet E) = Meet.void := by
      simp [Meet.update, SketchView.meet, open_state, flagged]
    rw [meet_void]
    by_cases bare : meet.keys = ∅
    · have zero : table.numEntries = 0 := by rw [shows.count, bare, Finset.card_empty]
      refine ⟨⟨true, { table with isEmpty := true, theta := maxTheta }⟩, ?_,
        Meets.shown (shows_bare shows bare maxTheta true fun _ => rfl)⟩
      simp [ThetaIntersection.update, tableOpen, flagged, zero]
    · have some_kept : table.numEntries ≠ 0 := by
        rw [shows.count]
        exact fun zero => bare (Finset.card_eq_zero.mp zero)
      refine ⟨⟨true, HashTable.new 0 0 .X1 1 maxTheta defaultSeed true⟩, ?_,
        Meets.shown (shows_blank maxTheta true fun _ => rfl)⟩
      simp [ThetaIntersection.update, tableOpen, flagged, some_kept, count, shows.seed]
  have seed : view.seedHash = computeSeedHash defaultSeed := valid.seed flagged
  have narrowed : Meet.update (some meet) (view.meet E) = meet.narrow (view.meet E) := by
    simp [Meet.update, SketchView.meet, open_state, flagged]
  rw [narrowed]
  by_cases bare : meet.keys = ∅
  · have zero : table.numEntries = 0 := by rw [shows.count, bare, Finset.card_empty]
    refine ⟨⟨true, { table with isEmpty := false, theta := min table.theta view.theta }⟩, ?_, ?_⟩
    · simp [ThetaIntersection.update, tableOpen, flagged, zero, seed, shows.seed]
    · have state : meet.narrow (view.meet E) = ⟨false, min meet.theta view.theta, ∅⟩ := by
        simp [Meet.narrow, SketchView.meet, bare]
      rw [state, shows.theta]
      exact Meets.shown (shows_bare shows bare _ false (by rintro ⟨⟩))
  have some_kept : table.numEntries ≠ 0 := by
    rw [shows.count]
    exact fun zero => bare (Finset.card_eq_zero.mp zero)
  -- The source gives up its table when the sketch has no entries.
  by_cases none_offered : E = []
  · have count : view.numRetained = 0 := by rw [valid.count, none_offered, List.length_nil]
    refine ⟨⟨true, HashTable.new 0 0 .X1 1 (min table.theta view.theta) defaultSeed false⟩, ?_, ?_⟩
    · simp [ThetaIntersection.update, tableOpen, flagged, some_kept, count, seed, shows.seed]
    · have state : meet.narrow (view.meet E) = ⟨false, min meet.theta view.theta, ∅⟩ := by
        simp [Meet.narrow, SketchView.meet, none_offered]
      rw [state, shows.theta]
      exact Meets.shown (shows_blank _ false (by rintro ⟨⟩))
  -- Both sides have entries: only this case searches the table.
  exact update_match shows valid flagged open_state (Finset.nonempty_iff_ne_empty.mpr bare)
    none_offered

theorem update {intersection : ThetaIntersection} {state : Option Meet}
    (meets : Meets intersection state) (valid : view.Valid E) (bounded : view.theta ≤ maxTheta) :
    ∃ next, intersection.update view = .ok next ∧
      Meets next (some (Meet.update state (view.meet E))) := by
  cases meets with
  | fresh => exact update_fresh valid bounded
  | shown shows => exact update_shown shows valid

theorem listed {table : HashTable} {meet : Meet} (shows : Shows table meet) (ordered : Bool)
    {entries : List ℕ} (copy : entries = if 0 < table.numEntries then
      if ordered then sort table.iterate else table.iterate else []) :
    entries.Nodup ∧ entries.toFinset = meet.keys ∧ (ordered = true → entries.Pairwise (· < ·)) := by
  rw [shows.count] at copy
  by_cases bare : meet.keys = ∅
  · rw [bare, Finset.card_empty, if_neg (lt_irrefl 0)] at copy
    subst copy
    exact ⟨List.nodup_nil, bare.symm, fun _ => List.Pairwise.nil⟩
  · have kept := Finset.nonempty_iff_ne_empty.mpr bare
    obtain ⟨filled, _⟩ := shows.filled kept
    have distinct : table.iterate.Nodup := filled.slots.placed.nodup
    have members : table.iterate.toFinset = meet.keys :=
      (toFinset_keyNotZero _).trans filled.stored
    rw [if_pos (Finset.card_pos.mpr kept)] at copy
    subst copy
    cases ordered with
    | true =>
      exact ⟨nodup_of_sorted (sort_sorted distinct), (toFinset_sort _).trans members,
        fun _ => sort_sorted distinct⟩
    | false => exact ⟨distinct, members, by rintro ⟨⟩⟩

/-- The result lists the shared keys in increasing order. -/
theorem getResult_eq {intersection : ThetaIntersection} {meet : Meet}
    (meets : Meets intersection (some meet)) :
    intersection.getResult true = .ok {
      isEmpty := meet.isEmpty
      isOrdered := true
      seedHash := computeSeedHash defaultSeed
      theta := meet.theta
      entries := meet.keys.sort (· ≤ ·) } := by
  cases meets with
  | shown shows =>
    rename_i table
    obtain ⟨entries, copy⟩ : ∃ entries, entries = if 0 < table.numEntries then
        if true then sort table.iterate else table.iterate else [] := ⟨_, rfl⟩
    obtain ⟨_, members, sorted⟩ := listed shows true copy
    have same : entries = meet.keys.sort (· ≤ ·) := by
      refine sorted_unique (sorted rfl) (Finset.sortedLT_sort _).pairwise ?_
      rw [members, Finset.sort_toFinset]
    rw [same] at copy
    simp only [if_true] at copy
    simp [ThetaIntersection.getResult, CompactSketch.new, shows.isEmpty, shows.seed, shows.theta,
      ← copy]

end Meets

end ThetaSketch
