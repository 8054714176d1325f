import ThetaSketch.Extension.Estimates

/-! How large the blobs of queries get.

The table of a build or of a union stops growing at twice the nominal number of
slots, and the other set functions keep no more than they are given. However many rows
a query reads, what it returns is of bounded size.
-/

set_option autoImplicit false

namespace ThetaSketch

open LittleEndian Threshold

/-- The most entries that a table of the default size takes. -/
def mostEntries : ℕ := HashTable.getCapacity (defaultLgK + 1) defaultLgK

theorem getCapacity_le_mostEntries {lgCurSize : ℕ} (sized : lgCurSize ≤ defaultLgK + 1) :
    HashTable.getCapacity lgCurSize defaultLgK ≤ mostEntries := by
  have checked : ∀ size ≤ defaultLgK + 1, HashTable.getCapacity size defaultLgK ≤ mostEntries := by decide
  exact checked lgCurSize sized

theorem nominal_le_mostEntries : 2 ^ defaultLgK ≤ mostEntries := by decide

theorem CompactSketch.length_serialize2_le (sketch : CompactSketch) (malloc : ℕ → UInt8) :
    (sketch.serialize2 malloc).length ≤ 8 * (3 + sketch.entries.length) := by
  have words : (sketch.entries.flatMap (encode 8)).length = 8 * sketch.entries.length := by
    simp [List.length_flatMap, Nat.mul_comm]
  rw [serialize2, image, List.length_append, words]
  split_ifs <;> simp <;> omega

/-- The blob is that of a small sketch, with nothing behind it. -/
def YieldsFew (D : Finset ℕ) (blob : Blob) : Prop :=
  ∃ sketch, Decodes blob sketch ∧ sketch.Denotes D ∧ sketch.entries.length ≤ mostEntries ∧
    blob.length ≤ 8 * (3 + sketch.entries.length)

theorem YieldsFew.yields {D : Finset ℕ} {blob : Blob} (few : YieldsFew D blob) : Yields D blob := by
  obtain ⟨sketch, decodes, denotes, _⟩ := few
  exact ⟨sketch, decodes, denotes⟩

theorem Yields.few {D : Finset ℕ} {sketch : CompactSketch} {malloc : ℕ → UInt8}
    (yields : Yields D (sketch.serialize2 malloc)) (fits : sketch.Serializable defaultSeed)
    (few : sketch.entries.length ≤ mostEntries) : YieldsFew D (sketch.serialize2 malloc) :=
  ⟨sketch, fits.decodes malloc, yields.denotes (fits.decodes malloc), few, sketch.length_serialize2_le malloc⟩

def BoundedBlob.Brief (input : BoundedBlob) : Prop := input.entries.length ≤ mostEntries

theorem YieldsFew.input {D : Finset ℕ} {blob : Blob} (few : YieldsFew D blob) :
    ∃ input : BoundedBlob, input.bytes = blob ∧ input.Brief := by
  obtain ⟨sketch, decodes, denotes, brief, _⟩ := few
  exact ⟨.decoded decodes denotes.sound denotes.few, rfl, brief⟩

/-! Builds. -/

/-- The result of the state has few entries. -/
def Object.Brief (object : Object) : Prop :=
  ∃ sketch, object.finished = .ok sketch ∧ sketch.entries.length ≤ mostEntries

theorem CollectsRows.brief {rows : List BuildRow} {object : Object} (collects : CollectsRows rows object) :
    object.Brief := by
  obtain ⟨sketch, rfl, some_row, rows_fed⟩ := collects
  have gathers := rows_fed.gathers
  have valid := gathers.valid rows_fed.seed (rows_fed.fed some_row)
  obtain ⟨entries, run, sorted, same⟩ := CompactSketch.ofSketch_ordered valid
  refine ⟨_, run, ?_⟩
  have stored : entries.toFinset = sketch.table.stored := same.trans (toFinset_keyNotZero _)
  have sized := gathers.grows.sized
  rw [rows_fed.nominal] at sized
  calc entries.length = sketch.table.numEntries := by
        rw [← List.toFinset_card_of_nodup (nodup_of_sorted sorted), stored, gathers.counted]
    _ ≤ HashTable.getCapacity sketch.table.lgCurSize defaultLgK := rows_fed.nominal ▸ gathers.grows.fits
    _ ≤ mostEntries := getCapacity_le_mostEntries sized

theorem UnitesRows.brief {union : ThetaUnion} {rows : List BuildRow} (unites : UnitesRows union rows) :
    (Object.thetaUnion union).Brief := by
  refine ⟨_, rfl, ?_⟩
  have few := length_cutKeys_le (2 ^ union.table.lgNomSize) maxTheta (nonzeroHashes rows)
  rw [unites.nominal] at few
  rw [unites.unites.getResult_eq, unites.nominal]
  exact few.trans nominal_le_mostEntries

theorem Shown.imp {Row : Type} {shows holds : List Row → Object → Prop} {inputs : List Row}
    {state : Option Object} (shown : Shown shows inputs state)
    (imp : ∀ inputs object, shows inputs object → holds inputs object) : Shown holds inputs state := by
  cases state with
  | none => exact shown
  | some object => exact ⟨shown.1, imp _ _ shown.2⟩

theorem buildAggregate_brief : buildAggregate.Tracks (fun _ => True) CollectsRows
    fun rows object => ShowsRows rows object ∧ object.Brief where
  accum := buildAggregate_tracks.accum
  collected := fun collects => ⟨collects.shows, collects.brief⟩
  merge := by
    intro heap left right x y rows others ownsLeft ownsRight apart some_side shownLeft shownRight
    obtain ⟨middle, unites, first⟩ :=
      contributes_rows unitesRows_new (shownLeft.imp fun _ _ shows => shows.1)
    obtain ⟨final, unites, second⟩ := contributes_rows unites (shownRight.imp fun _ _ shows => shows.1)
    have some_row := shown_append_ne_nil ownsLeft ownsRight some_side shownLeft shownRight
    exact ⟨.thetaUnion final, ⟨unites.shows some_row, unites.brief⟩,
      returns_unionMerge ownsLeft ownsRight apart some_side first second⟩
  nothing := rfl
  hop := by
    rintro rows object some_row ⟨shows, again, finishedToo, brief⟩
    obtain ⟨sketch, finished, fits, kept⟩ := buildAggregate_tracks.hop some_row shows
    cases finished.symm.trans finishedToo
    exact ⟨_, finished, fits, kept, _, rfl, brief⟩

/-! Each kind of node. -/

section Nodes

variable {D E : Finset ℕ} {heap : Heap} {left right : Blob}

theorem yieldsFew_build (plan : Plan BuildRow) (some_row : plan.inputs ≠ []) (malloc : ℕ → UInt8) :
    Returns (plan.output buildAggregate malloc) heap [] fun blob _ =>
      YieldsFew (fedHashes plan.inputs) blob := by
  refine ((yields_build plan some_row malloc).both
    (buildAggregate_brief.output plan some_row (fun _ _ => trivial) heap malloc)).imp ?_
  rintro blob after - ⟨yields, object, sketch, ⟨_, again, finishedToo, brief⟩, finished, fits, rfl⟩
  cases finished.symm.trans finishedToo
  exact yields.few fits brief

theorem yieldsFew_union (first : YieldsFew D left) (second : YieldsFew E right) (malloc : ℕ → UInt8) :
    Returns (extensionSketchUnion (some left) (some right) malloc) heap [] fun blob _ =>
      YieldsFew (D ∪ E) blob := by
  obtain ⟨x, rfl, _⟩ := first.input
  obtain ⟨y, rfl, _⟩ := second.input
  refine ((yields_union first.yields second.yields malloc).both
    (returns_unionOf x.toValidBlob y.toValidBlob malloc)).imp ?_
  rintro blob after - ⟨yields, rfl⟩
  exact yields.few (unionOf_serializable _) ((length_unionOf_le _).trans nominal_le_mostEntries)

theorem length_result_le {inputs : List BoundedBlob} {state : Meet}
    (agrees : Meet.Agrees (inputs.map BoundedBlob.meet) state) {input : BoundedBlob}
    (inside : input ∈ inputs) : state.result.entries.length ≤ input.entries.length := by
  have some_input := List.ne_nil_of_mem inside
  rw [Meet.result, Finset.length_sort, keys_eq some_input agrees]
  refine (Finset.card_le_card fun hash member => ?_).trans input.entries.toFinset_card_le
  exact List.mem_toFinset.mpr ((mem_commonEntries some_input).mp member input inside)

theorem yieldsFew_intersection (first : YieldsFew D left) (second : YieldsFew E right)
    (malloc : ℕ → UInt8) :
    Returns (extensionSketchIntersection (some left) (some right) malloc) heap [] fun blob _ =>
      YieldsFew (D ∩ E) blob := by
  obtain ⟨x, rfl, brief⟩ := first.input
  obtain ⟨y, rfl, _⟩ := second.input
  have agrees := @agrees_of_combines [x, y] _ (.join (.one x.meet) (.one y.meet))
  have fits := agrees.proper.sound.serializable (result_few (List.cons_ne_nil _ _) agrees)
  refine ((yields_intersection first.yields second.yields malloc).both (returns_meetOf x y malloc)).imp ?_
  rintro blob after - ⟨yields, rfl⟩
  exact yields.few fits ((length_result_le agrees List.mem_cons_self).trans brief)

theorem yieldsFew_aNotB (first : YieldsFew D left) (second : YieldsFew E right) (malloc : ℕ → UInt8) :
    Returns (extensionSketchANotB (some left) (some right) malloc) heap [] fun blob _ =>
      YieldsFew (D \ E) blob := by
  obtain ⟨a, decodesLeft, denotesLeft, brief, _⟩ := first
  obtain ⟨b, decodesRight, denotesRight, _, _⟩ := second
  obtain ⟨sketch, run, denotes⟩ := denotesLeft.compute denotesRight
  obtain ⟨_, again, count, _⟩ := difference_pair (denotesLeft.sound.shaped denotesLeft.few)
    (denotesRight.sound.shaped denotesRight.few)
  cases run.symm.trans again
  have fewer : sketch.entries.length ≤ a.entries.length := by
    rw [count]
    exact (Finset.card_filter_le _ _).trans
      ((Finset.card_le_card Finset.sdiff_subset).trans a.entries.toFinset_card_le)
  refine (returns_extensionSketchANotB decodesLeft.wrap decodesRight.wrap run malloc).imp ?_
  rintro blob after - rfl
  exact (denotes.yields malloc).few (denotes.sound.serializable denotes.few) (fewer.trans brief)

variable {n : ℕ} {evaluate : Fin n → HeapM Blob} {meaning : Fin n → Finset ℕ}

theorem yieldsFew_unionAggregate (plan : Plan (Fin n)) (some_child : plan.inputs ≠ [])
    (few : ∀ child ∈ plan.inputs, ∀ heap, Returns (evaluate child) heap [] fun blob _ =>
      YieldsFew (meaning child) blob) (malloc : ℕ → UInt8) :
    Returns (plan.output (unionOver evaluate) malloc) heap [] fun blob _ =>
      YieldsFew (unionAll (plan.inputs.map meaning)) blob := by
  have yields : ∀ child ∈ plan.inputs, YieldsRow evaluate meaning child := fun child inside heap =>
    (few child inside heap).imp fun _ _ _ => YieldsFew.yields
  have whole := @yields_aggregate heap _ _ _ _ (fun rows => unionAll (rows.map meaning))
    (unionOver_tracks meaning) plan some_child yields malloc
  have tracks := @Aggregate.Tracks.through _ _ _ _ ValidBlob.bytes _ _ _ evaluate
    unionAggregate_tracks fun _ _ => True
  refine (whole.both (tracks.output plan some_child (fun child inside heap => ?_) heap malloc)).imp ?_
  · obtain ⟨_, after, run, frame, few⟩ := few child inside heap
    obtain ⟨input, rfl, _⟩ := few.input
    exact ⟨input.toValidBlob, trivial, trivial, _, after, run, frame, rfl⟩
  · rintro blob after - ⟨yields, object, sketch, ⟨inputs, _, shown, _⟩, finished, fits, rfl⟩
    cases finished.symm.trans shown
    exact yields.few fits ((length_unionOf_le inputs).trans nominal_le_mostEntries)

theorem yieldsFew_intersectionAggregate (plan : Plan (Fin n)) (some_child : plan.inputs ≠ [])
    (few : ∀ child ∈ plan.inputs, ∀ heap, Returns (evaluate child) heap [] fun blob _ =>
      YieldsFew (meaning child) blob) (malloc : ℕ → UInt8) :
    Returns (plan.output (intersectionOver evaluate) malloc) heap [] fun blob _ =>
      YieldsFew (intersectAll (plan.inputs.map meaning)) blob := by
  have yields : ∀ child ∈ plan.inputs, YieldsRow evaluate meaning child := fun child inside heap =>
    (few child inside heap).imp fun _ _ _ => YieldsFew.yields
  have whole := @yields_aggregate heap _ _ _ _ (fun rows => intersectAll (rows.map meaning))
    (intersectionOver_tracks meaning) plan some_child yields malloc
  have tracks := @Aggregate.Tracks.through _ BoundedBlob _ _ (fun input => input.bytes) _ _ _ evaluate
    intersectionAggregate_tracks fun _ input => input.Brief
  refine (whole.both (tracks.output plan some_child (fun child inside heap => ?_) heap malloc)).imp ?_
  · obtain ⟨_, after, run, frame, few⟩ := few child inside heap
    obtain ⟨input, rfl, brief⟩ := few.input
    exact ⟨input, brief, trivial, _, after, run, frame, rfl⟩
  · rintro blob after - ⟨yields, object, sketch, ⟨inputs, same, state, combines, shown, _⟩, finished, fits, rfl⟩
    cases finished.symm.trans shown
    cases inputs with
    | nil => exact absurd (List.forall₂_nil_right_iff.mp same) some_child
    | cons input rest =>
      obtain ⟨_, _, brief, _, _⟩ := List.forall₂_cons_right_iff.mp same
      have fewer := length_result_le (agrees_of_combines combines) List.mem_cons_self
      exact yields.few fits (fewer.trans brief)

end Nodes

theorem Expression.returns_few (expression : Expression) (heap : Heap) :
    Returns expression.evaluate heap [] fun blob _ => YieldsFew expression.meaning blob := by
  induction expression generalizing heap with
  | build plan some_row malloc => exact yieldsFew_build plan some_row malloc
  | union left right malloc ihLeft ihRight =>
    refine (ihLeft heap).andThen fun _ middle _ first => ?_
    exact (ihRight middle).andThen fun _ after _ second => yieldsFew_union first second malloc
  | intersection left right malloc ihLeft ihRight =>
    refine (ihLeft heap).andThen fun _ middle _ first => ?_
    exact (ihRight middle).andThen fun _ after _ second => yieldsFew_intersection first second malloc
  | aNotB left right malloc ihLeft ihRight =>
    refine (ihLeft heap).andThen fun _ middle _ first => ?_
    exact (ihRight middle).andThen fun _ after _ second => yieldsFew_aNotB first second malloc
  | unionAggregate children plan some_child malloc ih =>
    exact yieldsFew_unionAggregate plan some_child (fun child _ => ih child) malloc
  | intersectionAggregate children plan some_child malloc ih =>
    exact yieldsFew_intersectionAggregate plan some_child (fun child _ => ih child) malloc

/-- No query returns more than 7680 entries in 61464 bytes, whatever it reads. -/
theorem evaluate_bounded (expression : Expression) (heap : Heap) :
    Returns expression.evaluate heap [] fun blob _ => blob.length ≤ 61464 ∧
      ∃ sketch, Decodes blob sketch ∧ sketch.entries.length ≤ 7680 := by
  refine (expression.returns_few heap).imp ?_
  rintro blob after - ⟨sketch, decodes, _, brief, length⟩
  have most : mostEntries = 7680 := by decide
  rw [most] at brief
  exact ⟨by omega, sketch, decodes, brief⟩

end ThetaSketch
