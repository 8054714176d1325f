import ThetaSketch.SetOperations.MeetOrder
import ThetaSketch.Extension.UnionPlans

/-! What the intersection aggregate returns, and when the plan matters.

The entries are the common ones under every plan. The empty flag, and `theta` with
it, can depend on which exact sketches meet first.
-/

set_option autoImplicit false

namespace ThetaSketch

/-- A valid blob whose sketch is blank when it is flagged empty. It has so few
entries that a 32-bit memory can hold them. -/
structure BoundedBlob extends ValidBlob where
  blank : view.isEmpty = true → view.theta = maxTheta
  few : entries.length + 3 < 2 ^ 29

def BoundedBlob.written (sketch : CompactSketch) (sound : sketch.Sound)
    (few : sketch.entries.length + 3 < 2 ^ 29) (malloc : ℕ → UInt8) : BoundedBlob where
  toValidBlob := .written sketch sound few malloc
  blank := fun flagged => (sound.empty flagged).2
  few := few

def intersectionAggregate : Aggregate BoundedBlob where
  accum := fun handle input => extensionSketchHandleIntersectionAccum handle (some input.bytes)
  merge := extensionSketchHandleIntersectionMerge

def BoundedBlob.meet (input : BoundedBlob) : Meet := input.view.meet input.entries

theorem BoundedBlob.proper (input : BoundedBlob) : input.meet.Proper where
  bound := input.bounded
  range := fun hash member => input.valid.range hash (List.mem_toFinset.mp member)
  void := by
    intro flagged
    change input.view.isEmpty = true at flagged
    rw [meet, SketchView.meet, flagged, input.blank flagged, input.valid.empty flagged]
    rfl

/-! What the inputs amount to. -/

def commonEntries : List BoundedBlob → Finset ℕ
  | [] => ∅
  | input :: rest => input.entries.toFinset.filter fun hash => ∀ other ∈ rest, hash ∈ other.entries

/-- The intersection of all inputs: their common entries, under the smallest
`theta` unless it is flagged empty. -/
def intersectionOf (inputs : List BoundedBlob) (isEmpty : Bool) : CompactSketch where
  isEmpty := isEmpty
  isOrdered := true
  seedHash := computeSeedHash defaultSeed
  theta := if isEmpty then maxTheta else Meet.leastTheta (inputs.map BoundedBlob.meet)
  entries := (commonEntries inputs).sort (· ≤ ·)

def Vanishes (inputs : List BoundedBlob) : Prop :=
  (∃ input ∈ inputs, input.view.isEmpty = true) ∨ ¬ Meet.Shares (inputs.map BoundedBlob.meet)

/-- The exact inputs have no entry in common, no input is flagged empty, and some
input is not exact or has no entries. -/
def Unsettled (inputs : List BoundedBlob) : Prop := Meet.Unsettled (inputs.map BoundedBlob.meet)

section Inputs

variable {inputs others : List BoundedBlob}

theorem proper_inputs (inputs : List BoundedBlob) :
    ∀ input ∈ inputs.map BoundedBlob.meet, input.Proper := by
  intro input member
  obtain ⟨blob, _, rfl⟩ := List.mem_map.mp member
  exact blob.proper

theorem mem_commonEntries (some_input : inputs ≠ []) {hash : ℕ} :
    hash ∈ commonEntries inputs ↔ ∀ input ∈ inputs, hash ∈ input.entries := by
  cases inputs with
  | nil => exact absurd rfl some_input
  | cons input rest => simp [commonEntries]

theorem intersectionOf_perm (same : inputs.Perm others) (isEmpty : Bool) :
    intersectionOf inputs isEmpty = intersectionOf others isEmpty := by
  have least : Meet.leastTheta (inputs.map BoundedBlob.meet) =
      Meet.leastTheta (others.map BoundedBlob.meet) := ((same.map _).map _).foldr_eq _
  have common : commonEntries inputs = commonEntries others := by
    by_cases none : inputs = []
    · subst none
      rw [List.nil_perm.mp same]
    · have some_other : others ≠ [] := fun gone => none (List.perm_nil.mp (gone ▸ same))
      ext hash
      simp only [mem_commonEntries none, mem_commonEntries some_other, same.mem_iff]
  rw [intersectionOf, intersectionOf, least, common]

theorem shares_perm {first second : List Meet} (same : first.Perm second) :
    Meet.Shares first ↔ Meet.Shares second := by
  simp only [Meet.Shares, same.mem_iff]

theorem vanishes_perm (same : inputs.Perm others) : Vanishes inputs ↔ Vanishes others := by
  simp only [Vanishes, same.mem_iff, shares_perm (same.map BoundedBlob.meet)]

theorem unsettled_perm (same : inputs.Perm others) : Unsettled inputs ↔ Unsettled others := by
  simp only [Unsettled, Meet.Unsettled, (same.map BoundedBlob.meet).mem_iff,
    shares_perm (same.map BoundedBlob.meet)]

end Inputs

/-! Results. -/

def Meet.result (state : Meet) : CompactSketch where
  isEmpty := state.isEmpty
  isOrdered := true
  seedHash := computeSeedHash defaultSeed
  theta := state.theta
  entries := state.keys.sort (· ≤ ·)

theorem Meet.Proper.sound {state : Meet} (proper : state.Proper) : state.result.Sound where
  sorted := (Finset.sortedLT_sort _).pairwise
  range := fun hash member => proper.range hash ((Finset.mem_sort _).mp member)
  bound := proper.bound
  ordered := rfl
  seed := rfl
  empty := by
    intro flagged
    rw [proper.void flagged]
    exact ⟨Finset.sort_empty _, rfl⟩

theorem Meet.meet_result (state : Meet) : state.result.view.meet state.result.entries = state := by
  have keys : (state.keys.sort (· ≤ ·)).toFinset = state.keys := Finset.sort_toFinset _ _
  change (⟨state.isEmpty, state.theta, (state.keys.sort (· ≤ ·)).toFinset⟩ : Meet) = state
  rw [keys]

section Results

variable {inputs others : List BoundedBlob} {state : Meet}

theorem agrees_of_combines (combines : Meet.Combines (inputs.map BoundedBlob.meet) state) :
    Meet.Agrees (inputs.map BoundedBlob.meet) state :=
  .of_combines combines (proper_inputs inputs)

theorem keys_eq (some_input : inputs ≠ [])
    (agrees : Meet.Agrees (inputs.map BoundedBlob.meet) state) : state.keys = commonEntries inputs := by
  ext hash
  rw [agrees.keys, mem_commonEntries some_input, List.forall_mem_map]
  simp [BoundedBlob.meet, SketchView.meet]

theorem result_eq (some_input : inputs ≠ [])
    (agrees : Meet.Agrees (inputs.map BoundedBlob.meet) state) :
    state.result = intersectionOf inputs state.isEmpty := by
  rw [Meet.result, intersectionOf, keys_eq some_input agrees]
  cases flagged : state.isEmpty with
  | true => rw [agrees.proper.void flagged]; rfl
  | false => rw [agrees.theta flagged]; rfl

theorem vanishes_iff (agrees : Meet.Agrees (inputs.map BoundedBlob.meet) state)
    (settled : ¬ Unsettled inputs) : state.isEmpty = true ↔ Vanishes inputs := by
  rw [agrees.isEmpty_iff settled, Vanishes]
  simp [BoundedBlob.meet, SketchView.meet]

theorem result_few (some_input : inputs ≠ [])
    (agrees : Meet.Agrees (inputs.map BoundedBlob.meet) state) :
    state.result.entries.length + 3 < 2 ^ 29 := by
  rw [Meet.result, Finset.length_sort, keys_eq some_input agrees]
  cases inputs with
  | nil => exact absurd rfl some_input
  | cons input rest =>
    have fewer := (Finset.card_filter_le input.entries.toFinset
      fun hash => ∀ other ∈ rest, hash ∈ other.entries).trans input.entries.toFinset_card_le
    exact lt_of_le_of_lt (Nat.add_le_add_right fewer 3) input.few

end Results

/-! Plans. -/

/-- An intersection that went through the inputs one after the other. -/
def CollectsMeet (inputs : List BoundedBlob) (object : Object) : Prop :=
  ∃ intersection state, object = .thetaIntersection intersection ∧
    Meets intersection (some state) ∧ Meet.fold (inputs.map BoundedBlob.meet) = some state

/-- A state whose result is some way to intersect the inputs. -/
def ShowsMeet (inputs : List BoundedBlob) (object : Object) : Prop :=
  ∃ state, Meet.Combines (inputs.map BoundedBlob.meet) state ∧
    object.finished = .ok state.result ∧ object.shown = .ok state.result.view

theorem finished_meets {intersection : ThetaIntersection} {state : Meet}
    (meets : Meets intersection (some state)) :
    (Object.thetaIntersection intersection).finished = .ok state.result ∧
      (Object.thetaIntersection intersection).shown = .ok state.result.view := by
  have finished : (Object.thetaIntersection intersection).finished = .ok state.result :=
    meets.getResult_eq
  refine ⟨finished, ?_⟩
  change (Object.thetaIntersection intersection).finished.map CompactSketch.view = _
  rw [finished]
  rfl

theorem CollectsMeet.combines {inputs : List BoundedBlob} {object : Object}
    (collects : CollectsMeet inputs object) : ShowsMeet inputs object := by
  obtain ⟨intersection, state, rfl, meets, folded⟩ := collects
  have some_input : inputs.map BoundedBlob.meet ≠ [] := by
    intro none
    rw [none] at folded
    cases folded
  obtain ⟨other, again, combines⟩ := Meet.combines_fold (proper_inputs inputs) some_input
  cases folded.symm.trans again
  exact ⟨state, combines, finished_meets meets⟩

structure Gathered (intersection : ThetaIntersection) (inputs : List BoundedBlob) : Prop where
  fresh : inputs = [] → intersection = ThetaIntersection.new defaultSeed
  shown : inputs ≠ [] → ∃ state, Meets intersection (some state) ∧
    Meet.Combines (inputs.map BoundedBlob.meet) state

theorem contributes_meet {intersection : ThetaIntersection} {inputs others : List BoundedBlob}
    (gathered : Gathered intersection inputs) {side : Option Object}
    (shown : Shown ShowsMeet others side) :
    ∃ next, Gathered next (inputs ++ others) ∧
      Contributes thetaIntersectionUpdateWithSketch (.thetaIntersection intersection) side
        (.thetaIntersection next) := by
  cases side with
  | none =>
    cases shown
    refine ⟨intersection, ?_, rfl⟩
    rwa [List.append_nil]
  | some object =>
    obtain ⟨some_other, state, combines, _, shows⟩ := shown
    have proper := (agrees_of_combines combines).proper
    have sound := proper.sound
    by_cases none : inputs = []
    · -- The first side is taken over as it is.
      rw [gathered.fresh none, none]
      obtain ⟨next, run, meets⟩ := Meets.fresh.update sound.valid sound.bound
      rw [Meet.meet_result, Meet.update_none proper] at meets
      exact ⟨next, ⟨fun gone => absurd gone some_other, fun _ => ⟨state, meets, combines⟩⟩,
        contributes_intersection shows run⟩
    · obtain ⟨earlier, meets, before⟩ := gathered.shown none
      obtain ⟨next, run, meets⟩ := meets.update sound.valid sound.bound
      rw [Meet.meet_result] at meets
      refine ⟨next, ⟨fun gone => ?_, fun _ => ⟨_, meets, ?_⟩⟩, contributes_intersection shows run⟩
      · exact absurd (List.append_eq_nil_iff.mp gone).1 none
      · rw [List.map_append]
        exact before.join combines

theorem intersectionAggregate_tracks :
    intersectionAggregate.Tracks (fun _ => True) CollectsMeet ShowsMeet where
  accum := by
    intro heap handle state inputs row owns shown _
    obtain ⟨intersection, same, meets⟩ : ∃ intersection,
        state.getD (.thetaIntersection (ThetaIntersection.new defaultSeed)) =
          .thetaIntersection intersection ∧
        Meets intersection (Meet.fold (inputs.map BoundedBlob.meet)) := by
      cases state with
      | none =>
        cases shown
        exact ⟨_, rfl, .fresh⟩
      | some object =>
        obtain ⟨intersection, state, rfl, meets, folded⟩ := shown.2
        exact ⟨intersection, rfl, folded ▸ meets⟩
    obtain ⟨next, run, after⟩ := meets.update row.valid row.bounded
    refine ⟨.thetaIntersection next, ⟨next, _, rfl, after, ?_⟩,
      returns_intersectionAccum owns same row.wrapped run⟩
    rw [List.map_append]
    exact Meet.fold_append _ _
  collected := CollectsMeet.combines
  merge := by
    intro heap left right x y inputs others ownsLeft ownsRight apart some_side shownLeft shownRight
    have start : Gathered (ThetaIntersection.new defaultSeed) [] :=
      ⟨fun _ => rfl, fun some => absurd rfl some⟩
    obtain ⟨middle, gathered, first⟩ := contributes_meet start shownLeft
    obtain ⟨final, gathered, second⟩ := contributes_meet gathered shownRight
    have some_input := shown_append_ne_nil ownsLeft ownsRight some_side shownLeft shownRight
    obtain ⟨state, meets, combines⟩ := gathered.shown some_input
    exact ⟨.thetaIntersection final, ⟨state, combines, finished_meets meets⟩,
      returns_intersectionMerge ownsLeft ownsRight apart some_side first second⟩
  nothing := rfl
  hop := by
    intro inputs object some_input shows
    obtain ⟨state, combines, finished, _⟩ := shows
    have agrees := agrees_of_combines combines
    exact ⟨state.result, finished, agrees.proper.sound.serializable (result_few some_input agrees),
      state, combines, rfl, rfl⟩

theorem returns_rows_intersection {inputs : List BoundedBlob} (some_input : inputs ≠ []) {state : Meet}
    (folded : Meet.fold (inputs.map BoundedBlob.meet) = some state) (heap : Heap)
    (malloc : ℕ → UInt8) :
    Returns ((Plan.rows inputs).output intersectionAggregate malloc) heap [] fun blob _ =>
      Decodes blob (intersectionOf inputs state.isEmpty) := by
  refine (intersectionAggregate_tracks.output_rows some_input (fun _ _ => trivial) heap malloc).imp ?_
  rintro blob after - ⟨object, sketch, ⟨intersection, final, rfl, meets, again⟩, finished, fits, rfl⟩
  cases folded.symm.trans again
  cases finished.symm.trans (finished_meets meets).1
  obtain ⟨other, again, combines⟩ := Meet.combines_fold (proper_inputs inputs)
    (fun none => some_input (List.map_eq_nil_iff.mp none))
  cases folded.symm.trans again
  rw [← result_eq some_input (agrees_of_combines combines)]
  exact fits.decodes malloc

/-- Unsettled inputs come to either flag: the exact ones first, or another one first. -/
theorem Unsettled.orders {inputs : List BoundedBlob} (unsettled : Unsettled inputs) (isEmpty : Bool) :
    ∃ order : List BoundedBlob, order.Perm inputs ∧
      ∃ state, Meet.fold (order.map BoundedBlob.meet) = some state ∧ state.isEmpty = isEmpty := by
  cases isEmpty with
  | true =>
    refine ⟨inputs.filter (fun input => input.meet.isExact) ++
      inputs.filter fun input => !input.meet.isExact, List.filter_append_perm _ _, ?_⟩
    have first := Meet.fold_exact_first unsettled (proper_inputs inputs)
    rwa [List.filter_map, List.filter_map, ← List.map_append] at first
  | false =>
    obtain ⟨full, _, _, member, other⟩ := unsettled
    obtain ⟨input, inside, rfl⟩ := List.mem_map.mp member
    obtain ⟨before, after, rfl⟩ := List.append_of_mem inside
    have same : (input :: (before ++ after)).Perm (before ++ input :: after) := List.perm_middle.symm
    refine ⟨_, same, Meet.fold_other_first other ?_ ?_⟩
    · exact proper_inputs (input :: (before ++ after))
    · exact fun sketch member => full sketch ((same.map BoundedBlob.meet).mem_iff.mp member)

/-- Every plan over the inputs returns their common entries. When the inputs are
settled, the empty flag is the same for all plans; when they are not, either flag
is what some plan returns. -/
theorem intersection_settles (inputs : List BoundedBlob) (some_input : inputs ≠ []) (heap : Heap)
    (malloc : ℕ → UInt8) :
    (∀ plan : Plan BoundedBlob, plan.inputs.Perm inputs →
      Returns (plan.output intersectionAggregate malloc) heap [] fun blob _ => ∃ isEmpty,
        Decodes blob (intersectionOf inputs isEmpty) ∧
        (¬ Unsettled inputs → (isEmpty = true ↔ Vanishes inputs))) ∧
    (Unsettled inputs → ∀ isEmpty, ∃ plan : Plan BoundedBlob, plan.inputs.Perm inputs ∧
      Returns (plan.output intersectionAggregate malloc) heap [] fun blob _ =>
        Decodes blob (intersectionOf inputs isEmpty)) := by
  refine ⟨?_, ?_⟩
  · intro plan same
    have reads : plan.inputs ≠ [] := fun none => some_input (List.nil_perm.mp (none ▸ same))
    refine (intersectionAggregate_tracks.output plan reads (fun _ _ => trivial) heap malloc).imp ?_
    rintro blob after - ⟨object, sketch, ⟨state, combines, again, _⟩, finished, fits, rfl⟩
    cases finished.symm.trans again
    have agrees := agrees_of_combines combines
    refine ⟨state.isEmpty, ?_, fun settled => ?_⟩
    · rw [← intersectionOf_perm same, ← result_eq reads agrees]
      exact fits.decodes malloc
    · rw [vanishes_iff agrees (mt (unsettled_perm same).mp settled), vanishes_perm same]
  · intro unsettled isEmpty
    obtain ⟨order, same, state, folded, rfl⟩ := unsettled.orders isEmpty
    have some_order : order ≠ [] := fun none => some_input (List.nil_perm.mp (none ▸ same))
    refine ⟨.rows order, same, ?_⟩
    have written := returns_rows_intersection some_order folded heap malloc
    rwa [intersectionOf_perm same] at written

def singleBlob (theta hash : ℕ) (range : 0 < hash ∧ hash < theta) (bound : theta ≤ maxTheta) :
    BoundedBlob :=
  .written ⟨false, true, computeSeedHash defaultSeed, theta, [hash]⟩
    (sound_of_entries (List.pairwise_singleton _ _) (by simpa using range) bound) (by simp) fun _ => 0

def exactFive : BoundedBlob := singleBlob maxTheta 5 (by decide) le_rfl
def exactSeven : BoundedBlob := singleBlob maxTheta 7 (by decide) le_rfl
def sampledNine : BoundedBlob := singleBlob (maxTheta - 1) 9 (by decide) (by decide)

theorem unsettled_three : Unsettled [exactFive, exactSeven, sampledNine] := by
  refine ⟨by decide, ?_, sampledNine.meet, by simp, by decide⟩
  rintro ⟨hash, common⟩
  have five := common exactFive.meet (by simp) (by decide)
  have seven := common exactSeven.meet (by simp) (by decide)
  simp [exactFive, exactSeven, singleBlob, BoundedBlob.written, ValidBlob.written, BoundedBlob.meet,
    SketchView.meet] at five seven
  omega

theorem intersection_settles_three :
    (∃ plan : Plan BoundedBlob, plan.inputs.Perm [exactFive, exactSeven, sampledNine] ∧
      Returns (plan.output intersectionAggregate fun _ => 0) Heap.empty [] fun blob _ =>
        Decodes blob (intersectionOf [exactFive, exactSeven, sampledNine] true)) ∧
    Returns ((Plan.rows [exactFive]).output intersectionAggregate fun _ => 0) Heap.empty []
      fun blob _ => ∃ isEmpty, Decodes blob (intersectionOf [exactFive] isEmpty) ∧
        (isEmpty = true ↔ Vanishes [exactFive]) := by
  obtain ⟨_, either⟩ := intersection_settles [exactFive, exactSeven, sampledNine]
    (List.cons_ne_nil _ _) Heap.empty fun _ => 0
  obtain ⟨same, _⟩ := intersection_settles [exactFive] (List.cons_ne_nil _ _) Heap.empty fun _ => 0
  refine ⟨either unsettled_three true, (same (.rows [exactFive]) (List.Perm.refl _)).imp ?_⟩
  rintro blob after - ⟨isEmpty, decodes, settled⟩
  refine ⟨isEmpty, decodes, settled ?_⟩
  rintro ⟨_, _, input, member, other⟩
  cases List.mem_singleton.mp member
  exact absurd other (by decide)

/-- The same three inputs in two orders: once the two exact ones meet first and leave
an empty sketch, once the sampled one comes between them. -/
theorem intersection_order_matters :
    [exactFive, sampledNine, exactSeven].Perm [exactFive, exactSeven, sampledNine] ∧
    ∃ first second : Blob,
      ((Plan.rows [exactFive, exactSeven, sampledNine]).output intersectionAggregate
        fun _ => 0).outcome = .ok first ∧
      ((Plan.rows [exactFive, sampledNine, exactSeven]).output intersectionAggregate
        fun _ => 0).outcome = .ok second ∧
      CompactSketch.deserialize first defaultSeed =
        .ok ⟨true, true, computeSeedHash defaultSeed, maxTheta, []⟩ ∧
      CompactSketch.deserialize second defaultSeed =
        .ok ⟨false, true, computeSeedHash defaultSeed, maxTheta - 1, []⟩ := by
  refine ⟨(List.Perm.swap _ _ _).cons _, ?_⟩
  have closed : Meet.fold ([exactFive, exactSeven, sampledNine].map BoundedBlob.meet) =
      some Meet.void := by decide
  have opened : Meet.fold ([exactFive, sampledNine, exactSeven].map BoundedBlob.meet) =
      some ⟨false, maxTheta - 1, ∅⟩ := by decide
  obtain ⟨first, _, runFirst, decodesFirst⟩ :=
    (returns_rows_intersection (List.cons_ne_nil _ _) closed Heap.empty fun _ => 0).outcome
  obtain ⟨second, _, runSecond, decodesSecond⟩ :=
    (returns_rows_intersection (List.cons_ne_nil _ _) opened Heap.empty fun _ => 0).outcome
  have noneFirst : commonEntries [exactFive, exactSeven, sampledNine] = ∅ := by decide
  have noneSecond : commonEntries [exactFive, sampledNine, exactSeven] = ∅ := by decide
  refine ⟨first, second, runFirst, runSecond, ?_, ?_⟩
  · have read := decodesFirst.deserialize
    rwa [intersectionOf, noneFirst, Finset.sort_empty] at read
  · have read := decodesSecond.deserialize
    rwa [intersectionOf, noneSecond, Finset.sort_empty] at read

end ThetaSketch
