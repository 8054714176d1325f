import ThetaSketch.Extension.BuildPlans
import ThetaSketch.Extension.IntersectionPlans
import ThetaSketch.SetOperations.Meaning

/-! Whole query expressions.

The leaves build sketches from rows; the inner nodes are the scalar set functions
and the aggregates over sketches. Every intermediate result is a blob. What an
expression returns stands for the set that it denotes.
-/

set_option autoImplicit false

namespace ThetaSketch

open Threshold

/-- The blob is that of a sketch that stands for the set. -/
def Yields (D : Finset ℕ) (blob : Blob) : Prop := ∃ sketch, Decodes blob sketch ∧ sketch.Denotes D

def unionAll (sets : List (Finset ℕ)) : Finset ℕ := sets.foldr (· ∪ ·) ∅

def intersectAll : List (Finset ℕ) → Finset ℕ
  | [] => ∅
  | D :: rest => D.filter fun hash => ∀ E ∈ rest, hash ∈ E

theorem unionAll_append (sets others : List (Finset ℕ)) :
    unionAll (sets ++ others) = unionAll sets ∪ unionAll others := by
  induction sets with
  | nil => exact (Finset.empty_union _).symm
  | cons D rest ih =>
    rw [List.cons_append, unionAll, List.foldr_cons, ← unionAll, ih, ← Finset.union_assoc]
    rfl

theorem mem_intersectAll {sets : List (Finset ℕ)} (some_set : sets ≠ []) {hash : ℕ} :
    hash ∈ intersectAll sets ↔ ∀ D ∈ sets, hash ∈ D := by
  cases sets with
  | nil => exact absurd rfl some_set
  | cons D rest => simp [intersectAll]

theorem intersectAll_append {sets others : List (Finset ℕ)} (some_set : sets ≠ [])
    (some_other : others ≠ []) : intersectAll (sets ++ others) = intersectAll sets ∩ intersectAll others := by
  ext hash
  have some_both : sets ++ others ≠ [] := by simp [some_set]
  rw [Finset.mem_inter, mem_intersectAll some_both, mem_intersectAll some_set, mem_intersectAll some_other]
  exact List.forall_mem_append

theorem intersectAll_singleton (D : Finset ℕ) : intersectAll [D] = D := by
  ext hash
  rw [mem_intersectAll (List.cons_ne_nil _ _), List.forall_mem_singleton]

/-! Aggregates whose rows are evaluated first. -/

section Aggregates

variable {Row : Type} (evaluate : Row → HeapM Blob)

def unionOver : Aggregate Row where
  accum := fun handle row => do
    let blob ← evaluate row
    extensionSketchHandleUnionAccum handle (some blob)
  merge := extensionSketchHandleUnionMerge

def intersectionOver : Aggregate Row where
  accum := fun handle row => do
    let blob ← evaluate row
    extensionSketchHandleIntersectionAccum handle (some blob)
  merge := extensionSketchHandleIntersectionMerge

def ShowsSet (D : Finset ℕ) (object : Object) : Prop :=
  ∃ sketch, object.finished = .ok sketch ∧ object.shown = .ok sketch.view ∧ sketch.Denotes D

variable {evaluate}

theorem returns_evaluated {heap : Heap} {handle : Handle} {state : Option Object} {row : Row}
    {accum : Handle → Option Blob → HeapM Handle} {object : Object} {blob : Blob}
    (owns : heap.OwnsHandle handle state)
    (returns : Returns (evaluate row) heap [] fun result _ => result = blob)
    (step : ∀ middle : Heap, middle.OwnsHandle handle state →
      Returns (accum handle (some blob)) middle handle.toList (Accumulated middle handle object)) :
    Returns (do
      let blob ← evaluate row
      accum handle (some blob)) heap handle.toList (Accumulated heap handle object) := by
  refine returns.look ?_
  rintro _ middle frame rfl
  refine (step middle (owns.frame frame (by simp))).imp ?_
  rintro result after - ⟨address, same, place, there⟩
  exact ⟨address, same, place.imp id frame.next.trans, there⟩

def YieldsRow (evaluate : Row → HeapM Blob) (meaning : Row → Finset ℕ) (row : Row) : Prop :=
  ∀ heap, Returns (evaluate row) heap [] fun blob _ => Yields (meaning row) blob

theorem YieldsRow.blob {meaning : Row → Finset ℕ} {row : Row}
    (yields : YieldsRow evaluate meaning row) (heap : Heap) :
    ∃ blob sketch, Returns (evaluate row) heap [] (fun result _ => result = blob) ∧
      Decodes blob sketch ∧ sketch.Denotes (meaning row) := by
  obtain ⟨blob, after, run, frame, sketch, decodes, denotes⟩ := yields heap
  exact ⟨blob, sketch, ⟨blob, after, run, frame, rfl⟩, decodes, denotes⟩

variable (meaning : Row → Finset ℕ)

/-! Unions. -/

def CollectsSets (rows : List Row) (object : Object) : Prop :=
  ∃ union, object = .thetaUnion union ∧ UnitesSet union (unionAll (rows.map meaning))

theorem unionAll_map_append (rows others : List Row) :
    unionAll ((rows ++ others).map meaning) =
      unionAll (rows.map meaning) ∪ unionAll (others.map meaning) := by
  rw [List.map_append, unionAll_append]

theorem CollectsSets.shows {rows : List Row} {object : Object}
    (collects : CollectsSets meaning rows object) :
    ShowsSet (unionAll (rows.map meaning)) object := by
  obtain ⟨union, rfl, unites⟩ := collects
  exact ⟨_, rfl, rfl, unites.getResult⟩

theorem contributes_set {union : ThetaUnion} {rows others : List Row}
    (unites : UnitesSet union (unionAll (rows.map meaning))) {side : Option Object}
    (shown : Shown (fun rows => ShowsSet (unionAll (rows.map meaning))) others side) :
    ∃ next, UnitesSet next (unionAll ((rows ++ others).map meaning)) ∧
      Contributes thetaUnionUpdateWithSketch (.thetaUnion union) side (.thetaUnion next) := by
  cases side with
  | none =>
    cases shown
    refine ⟨union, ?_, rfl⟩
    rwa [List.append_nil]
  | some object =>
    obtain ⟨_, sketch, _, shows, denotes⟩ := shown
    obtain ⟨next, run, after⟩ := unites.update denotes
    rw [← unionAll_map_append] at after
    exact ⟨next, after, contributes_union shows run⟩

theorem unionOver_tracks :
    (unionOver evaluate).Tracks (YieldsRow evaluate meaning) (CollectsSets meaning)
      (fun rows => ShowsSet (unionAll (rows.map meaning))) where
  accum := by
    intro heap handle state rows row owns shown yields
    obtain ⟨union, same, unites⟩ :
        CollectsSets meaning rows (state.getD (.thetaUnion (ThetaUnion.new {}))) := by
      cases state with
      | none =>
        cases shown
        exact ⟨_, rfl, UnitesSet.new⟩
      | some object => exact shown.2
    obtain ⟨blob, sketch, returns, decodes, denotes⟩ := yields.blob heap
    obtain ⟨next, run, after⟩ := unites.update denotes
    refine ⟨.thetaUnion next, ⟨next, rfl, ?_⟩, returns_evaluated owns returns fun middle owned =>
      returns_unionAccum owned same decodes.wrap run⟩
    rw [unionAll_map_append]
    have one : unionAll ([row].map meaning) = meaning row := Finset.union_empty _
    rwa [one]
  collected := CollectsSets.shows meaning
  merge := by
    intro heap left right x y rows others ownsLeft ownsRight apart some_side shownLeft shownRight
    obtain ⟨middle, unites, first⟩ := @contributes_set _ meaning _ [] _ UnitesSet.new _ shownLeft
    obtain ⟨final, unites, second⟩ := contributes_set meaning unites shownRight
    exact ⟨.thetaUnion final, CollectsSets.shows meaning ⟨final, rfl, unites⟩,
      returns_unionMerge ownsLeft ownsRight apart some_side first second⟩
  nothing := rfl
  hop := by
    intro rows object _ shows
    obtain ⟨sketch, finished, _, denotes⟩ := shows
    exact ⟨sketch, finished, denotes.sound.serializable denotes.few, sketch, rfl, rfl, denotes⟩

/-! Intersections. -/

theorem Meet.Denotes.result {state : Meet} {D : Finset ℕ} (denotes : state.Denotes D) :
    state.result.Denotes D where
  sound := denotes.proper.sound
  few := by
    rw [Meet.result, Finset.length_sort]
    exact denotes.few
  hashes := denotes.hashes
  entries := (Finset.sort_toFinset _ _).trans denotes.keys
  empty := denotes.empty

def MeetsSet (intersection : ThetaIntersection) (D : Finset ℕ) : Prop :=
  ∃ state, Meets intersection (some state) ∧ state.Denotes D

namespace MeetsSet

variable {intersection : ThetaIntersection} {D E : Finset ℕ} {sketch : CompactSketch}

theorem first (denotes : sketch.Denotes D) :
    ∃ next, (ThetaIntersection.new defaultSeed).update sketch.view = .ok next ∧ MeetsSet next D := by
  obtain ⟨next, run, meets⟩ := Meets.fresh.update denotes.sound.valid denotes.sound.bound
  rw [Meet.update_none denotes.meet.proper] at meets
  exact ⟨next, run, _, meets, denotes.meet⟩

theorem update (meets : MeetsSet intersection D) (denotes : sketch.Denotes E) :
    ∃ next, intersection.update sketch.view = .ok next ∧ MeetsSet next (D ∩ E) := by
  obtain ⟨state, meets, stands⟩ := meets
  obtain ⟨next, run, meets⟩ := meets.update denotes.sound.valid denotes.sound.bound
  exact ⟨next, run, _, meets, stands.update denotes.meet⟩

theorem getResult (meets : MeetsSet intersection D) :
    ∃ sketch, intersection.getResult true = .ok sketch ∧ sketch.Denotes D := by
  obtain ⟨state, meets, stands⟩ := meets
  exact ⟨state.result, meets.getResult_eq, stands.result⟩

theorem shows (meets : MeetsSet intersection D) : ShowsSet D (.thetaIntersection intersection) := by
  obtain ⟨state, meets, stands⟩ := meets
  exact ⟨state.result, (finished_meets meets).1, (finished_meets meets).2, stands.result⟩

end MeetsSet

def CollectsCommon (rows : List Row) (object : Object) : Prop :=
  ∃ intersection, object = .thetaIntersection intersection ∧
    MeetsSet intersection (intersectAll (rows.map meaning))

/-- An intersection on the way through some rows; without any it is fresh. -/
structure GathersCommon (intersection : ThetaIntersection) (rows : List Row) : Prop where
  fresh : rows = [] → intersection = ThetaIntersection.new defaultSeed
  meets : rows ≠ [] → MeetsSet intersection (intersectAll (rows.map meaning))

theorem gathersCommon_nil : GathersCommon meaning (ThetaIntersection.new defaultSeed) [] :=
  ⟨fun _ => rfl, fun some_row => absurd rfl some_row⟩

theorem GathersCommon.join {intersection : ThetaIntersection} {rows others : List Row}
    (gathers : GathersCommon meaning intersection rows) (some_other : others ≠ [])
    {sketch : CompactSketch} (denotes : sketch.Denotes (intersectAll (others.map meaning))) :
    ∃ next, intersection.update sketch.view = .ok next ∧
      MeetsSet next (intersectAll ((rows ++ others).map meaning)) := by
  by_cases none_left : rows = []
  · rw [gathers.fresh none_left, none_left]
    exact MeetsSet.first denotes
  · obtain ⟨next, run, meets⟩ := (gathers.meets none_left).update denotes
    rw [List.map_append, intersectAll_append (by simpa using none_left) (by simpa using some_other)]
    exact ⟨next, run, meets⟩

theorem contributes_common {intersection : ThetaIntersection} {rows others : List Row}
    (gathers : GathersCommon meaning intersection rows) {side : Option Object}
    (shown : Shown (fun rows => ShowsSet (intersectAll (rows.map meaning))) others side) :
    ∃ next, GathersCommon meaning next (rows ++ others) ∧
      Contributes thetaIntersectionUpdateWithSketch (.thetaIntersection intersection) side
        (.thetaIntersection next) := by
  cases side with
  | none =>
    cases shown
    refine ⟨intersection, ?_, rfl⟩
    rwa [List.append_nil]
  | some object =>
    obtain ⟨some_other, sketch, _, shows, denotes⟩ := shown
    obtain ⟨next, run, meets⟩ := gathers.join meaning some_other denotes
    refine ⟨next, ⟨fun none_left => ?_, fun _ => meets⟩, contributes_intersection shows run⟩
    exact absurd (List.append_eq_nil_iff.mp none_left).2 some_other

theorem intersectionOver_tracks :
    (intersectionOver evaluate).Tracks (YieldsRow evaluate meaning) (CollectsCommon meaning)
      (fun rows => ShowsSet (intersectAll (rows.map meaning))) where
  accum := by
    intro heap handle state rows row owns shown yields
    obtain ⟨intersection, same, gathers⟩ : ∃ intersection,
        state.getD (.thetaIntersection (ThetaIntersection.new defaultSeed)) =
          .thetaIntersection intersection ∧ GathersCommon meaning intersection rows := by
      cases state with
      | none =>
        cases shown
        exact ⟨_, rfl, gathersCommon_nil meaning⟩
      | some object =>
        obtain ⟨some_row, intersection, rfl, meets⟩ := shown
        exact ⟨intersection, rfl, fun none_left => absurd none_left some_row, fun _ => meets⟩
    obtain ⟨blob, sketch, returns, decodes, denotes⟩ := yields.blob heap
    rw [← intersectAll_singleton (meaning row)] at denotes
    obtain ⟨next, run, meets⟩ := gathers.join meaning (List.cons_ne_nil row []) denotes
    exact ⟨.thetaIntersection next, ⟨next, rfl, meets⟩, returns_evaluated owns returns fun middle owned =>
      returns_intersectionAccum owned same decodes.wrap run⟩
  collected := by
    rintro rows object ⟨intersection, rfl, meets⟩
    exact meets.shows
  merge := by
    intro heap left right x y rows others ownsLeft ownsRight apart some_side shownLeft shownRight
    obtain ⟨middle, gathers, first⟩ := contributes_common meaning (gathersCommon_nil meaning) shownLeft
    obtain ⟨final, gathers, second⟩ := contributes_common meaning gathers shownRight
    have some_row := shown_append_ne_nil ownsLeft ownsRight some_side shownLeft shownRight
    exact ⟨.thetaIntersection final, (gathers.meets some_row).shows,
      returns_intersectionMerge ownsLeft ownsRight apart some_side first second⟩
  nothing := rfl
  hop := by
    intro rows object _ shows
    obtain ⟨sketch, finished, _, denotes⟩ := shows
    exact ⟨sketch, finished, denotes.sound.serializable denotes.few, sketch, rfl, rfl, denotes⟩

end Aggregates

/-! Expressions. -/

/-- Every node comes with what fresh memory holds when its result is written. An
aggregate runs over its children in any plan, and over at least one of them. -/
inductive Expression where
  | build (plan : Plan BuildRow) (some_row : plan.inputs ≠ []) (malloc : ℕ → UInt8)
  | union (left right : Expression) (malloc : ℕ → UInt8)
  | intersection (left right : Expression) (malloc : ℕ → UInt8)
  | aNotB (left right : Expression) (malloc : ℕ → UInt8)
  | unionAggregate {n : ℕ} (children : Fin n → Expression) (plan : Plan (Fin n))
    (some_child : plan.inputs ≠ []) (malloc : ℕ → UInt8)
  | intersectionAggregate {n : ℕ} (children : Fin n → Expression) (plan : Plan (Fin n))
    (some_child : plan.inputs ≠ []) (malloc : ℕ → UInt8)

namespace Expression

def evaluate : Expression → HeapM Blob
  | build plan _ malloc => plan.output buildAggregate malloc
  | union left right malloc => do
    let left ← left.evaluate
    let right ← right.evaluate
    extensionSketchUnion (some left) (some right) malloc
  | intersection left right malloc => do
    let left ← left.evaluate
    let right ← right.evaluate
    extensionSketchIntersection (some left) (some right) malloc
  | aNotB left right malloc => do
    let left ← left.evaluate
    let right ← right.evaluate
    extensionSketchANotB (some left) (some right) malloc
  | unionAggregate children plan _ malloc =>
    plan.output (unionOver fun child => (children child).evaluate) malloc
  | intersectionAggregate children plan _ malloc =>
    plan.output (intersectionOver fun child => (children child).evaluate) malloc

/-- The same expression over sets. -/
def meaning : Expression → Finset ℕ
  | build plan _ _ => fedHashes plan.inputs
  | union left right _ => left.meaning ∪ right.meaning
  | intersection left right _ => left.meaning ∩ right.meaning
  | aNotB left right _ => left.meaning \ right.meaning
  | unionAggregate children plan _ _ =>
    unionAll (plan.inputs.map fun child => (children child).meaning)
  | intersectionAggregate children plan _ _ =>
    intersectAll (plan.inputs.map fun child => (children child).meaning)

end Expression

/-! Each kind of node. -/

section Nodes

variable {D E F : Finset ℕ} {heap : Heap}

theorem CompactSketch.Denotes.yields {sketch : CompactSketch} (denotes : sketch.Denotes D)
    (malloc : ℕ → UInt8) : Yields D (sketch.serialize2 malloc) :=
  ⟨sketch, (denotes.sound.serializable denotes.few).decodes malloc, denotes⟩

theorem returns_arguments {first second : HeapM Blob} {compute : Blob → Blob → HeapM Blob}
    (left : ∀ heap, Returns first heap [] fun blob _ => Yields D blob)
    (right : ∀ heap, Returns second heap [] fun blob _ => Yields E blob)
    (step : ∀ left right heap, Yields D left → Yields E right →
      Returns (compute left right) heap [] fun blob _ => Yields F blob) :
    Returns (do
      let left ← first
      let right ← second
      compute left right) heap [] fun blob _ => Yields F blob := by
  refine (left heap).andThen fun leftBlob middle _ yieldsLeft => ?_
  refine (right middle).andThen fun rightBlob after _ yieldsRight => ?_
  exact step leftBlob rightBlob after yieldsLeft yieldsRight

variable {left right : Blob}

theorem yields_union (first : Yields D left) (second : Yields E right) (malloc : ℕ → UInt8) :
    Returns (extensionSketchUnion (some left) (some right) malloc) heap [] fun blob _ =>
      Yields (D ∪ E) blob := by
  obtain ⟨_, decodesLeft, denotesLeft⟩ := first
  obtain ⟨_, decodesRight, denotesRight⟩ := second
  obtain ⟨middle, runLeft, unites⟩ := UnitesSet.new.update denotesLeft
  obtain ⟨final, runRight, unites⟩ := unites.update denotesRight
  rw [Finset.empty_union] at unites
  refine (returns_extensionSketchUnion decodesLeft.wrap decodesRight.wrap runLeft runRight malloc).imp ?_
  rintro blob after - rfl
  exact unites.getResult.yields malloc

theorem yields_intersection (first : Yields D left) (second : Yields E right) (malloc : ℕ → UInt8) :
    Returns (extensionSketchIntersection (some left) (some right) malloc) heap [] fun blob _ =>
      Yields (D ∩ E) blob := by
  obtain ⟨_, decodesLeft, denotesLeft⟩ := first
  obtain ⟨_, decodesRight, denotesRight⟩ := second
  obtain ⟨middle, runLeft, meets⟩ := MeetsSet.first denotesLeft
  obtain ⟨final, runRight, meets⟩ := meets.update denotesRight
  obtain ⟨sketch, result, denotes⟩ := meets.getResult
  refine (returns_extensionSketchIntersection decodesLeft.wrap decodesRight.wrap runLeft runRight result
    malloc).imp ?_
  rintro blob after - rfl
  exact denotes.yields malloc

theorem yields_aNotB (first : Yields D left) (second : Yields E right) (malloc : ℕ → UInt8) :
    Returns (extensionSketchANotB (some left) (some right) malloc) heap [] fun blob _ =>
      Yields (D \ E) blob := by
  obtain ⟨_, decodesLeft, denotesLeft⟩ := first
  obtain ⟨_, decodesRight, denotesRight⟩ := second
  obtain ⟨sketch, run, denotes⟩ := denotesLeft.compute denotesRight
  refine (returns_extensionSketchANotB decodesLeft.wrap decodesRight.wrap run malloc).imp ?_
  rintro blob after - rfl
  exact denotes.yields malloc

theorem yields_build (plan : Plan BuildRow) (some_row : plan.inputs ≠ []) (malloc : ℕ → UInt8) :
    Returns (plan.output buildAggregate malloc) heap [] fun blob _ =>
      Yields (fedHashes plan.inputs) blob := by
  refine (buildAggregate_tracks.output plan some_row (fun _ _ => trivial) heap malloc).imp ?_
  rintro blob after - ⟨object, sketch, shows, finished, fits, rfl⟩
  obtain ⟨_, again, sound, few, samples⟩ := shows.finished
  cases finished.symm.trans again
  have hashes : Hashes (fedHashes plan.inputs) := fun hash member => (Finset.mem_filter.mp member).2
  refine CompactSketch.Denotes.yields ⟨sound, few, hashes, samples.entries_eq sound, fun flagged => ?_⟩ malloc
  exact absurd (samples.fed.symm.trans flagged) Bool.false_ne_true

theorem yields_aggregate {Row : Type} {aggregate : Aggregate Row} {accepts : Row → Prop}
    {collects : List Row → Object → Prop} {sets : List Row → Finset ℕ}
    (tracks : aggregate.Tracks accepts collects fun rows => ShowsSet (sets rows)) (plan : Plan Row)
    (some_row : plan.inputs ≠ []) (accepted : ∀ row ∈ plan.inputs, accepts row) (malloc : ℕ → UInt8) :
    Returns (plan.output aggregate malloc) heap [] fun blob _ => Yields (sets plan.inputs) blob := by
  refine (tracks.output plan some_row accepted heap malloc).imp ?_
  rintro blob after - ⟨object, sketch, ⟨_, again, _, denotes⟩, finished, _, rfl⟩
  cases finished.symm.trans again
  exact denotes.yields malloc

end Nodes

/-- Evaluation returns the blob of a sketch that stands for the meaning. -/
theorem Expression.returns (expression : Expression) (heap : Heap) :
    Returns expression.evaluate heap [] fun blob _ => Yields expression.meaning blob := by
  induction expression generalizing heap with
  | build plan some_row malloc => exact yields_build plan some_row malloc
  | union left right malloc ihLeft ihRight =>
    exact returns_arguments ihLeft ihRight fun _ _ _ first second => yields_union first second malloc
  | intersection left right malloc ihLeft ihRight =>
    exact returns_arguments ihLeft ihRight fun _ _ _ first second => yields_intersection first second malloc
  | aNotB left right malloc ihLeft ihRight =>
    exact returns_arguments ihLeft ihRight fun _ _ _ first second => yields_aNotB first second malloc
  | unionAggregate children plan some_child malloc ih =>
    exact yields_aggregate (unionOver_tracks _) plan some_child (fun child _ => ih child) malloc
  | intersectionAggregate children plan some_child malloc ih =>
    exact yields_aggregate (intersectionOver_tracks _) plan some_child (fun child _ => ih child) malloc

/-- Every expression finishes, and the blob that it returns decodes to the members of
its meaning below some bound. -/
theorem evaluate_denotes (expression : Expression) (heap : Heap) :
    Returns expression.evaluate heap [] fun blob _ => ∃ isEmpty theta entries,
      Decodes blob ⟨isEmpty, true, computeSeedHash defaultSeed, theta, entries⟩ ∧
      entries.Pairwise (· < ·) ∧ (∀ hash ∈ entries, 0 < hash ∧ hash < theta) ∧
      entries.toFinset = expression.meaning.filter (· < theta) ∧ theta ≤ maxTheta ∧
      (isEmpty = true → expression.meaning = ∅) := by
  refine (expression.returns heap).imp ?_
  rintro blob after - ⟨sketch, decodes, denotes⟩
  have sound := denotes.sound
  have shape : sketch = ⟨sketch.isEmpty, true, computeSeedHash defaultSeed, sketch.theta, sketch.entries⟩ := by
    rw [← sound.ordered, ← sound.seed]
  exact ⟨sketch.isEmpty, sketch.theta, sketch.entries, shape ▸ decodes, sound.sorted, sound.range,
    denotes.entries, sound.bound, denotes.empty⟩

end ThetaSketch
