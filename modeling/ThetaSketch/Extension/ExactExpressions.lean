import ThetaSketch.Extension.Expression
import ThetaSketch.Extension.Scalars

/-! Expressions over small sets.

As long as no set that is built or united has more members than the nominal number,
nothing is ever cut: each intermediate result is the whole set, and the estimate
counts it.
-/

set_option autoImplicit false

namespace ThetaSketch

open Threshold

/-! Aggregates over rows that are evaluated first. -/

section Evaluated

variable {Row Inner : Type} {accum : Handle → Option Blob → HeapM Handle}
  {merge : Handle → Handle → HeapM Handle} {bytes : Inner → Blob} {accepts : Inner → Prop}
  {collects shows : List Inner → Object → Prop}

/-- The rows may be exchanged for what they evaluate to. -/
def Through (means : Row → Inner → Prop) (shows : List Inner → Object → Prop) (rows : List Row)
    (object : Object) : Prop :=
  ∃ inners, List.Forall₂ means rows inners ∧ shows inners object

theorem Shown.through {means : Row → Inner → Prop} {rows : List Row} {state : Option Object}
    (shown : Shown (Through means shows) rows state) :
    ∃ inners, List.Forall₂ means rows inners ∧ Shown shows inners state := by
  cases state with
  | none =>
    cases shown
    exact ⟨[], .nil, rfl⟩
  | some object =>
    obtain ⟨some_row, inners, same, holds⟩ := shown
    refine ⟨inners, same, fun none_left => ?_, holds⟩
    rw [none_left] at same
    exact some_row (List.forall₂_nil_right_iff.mp same)

theorem Aggregate.Tracks.through {evaluate : Row → HeapM Blob}
    (tracks : (Aggregate.mk (fun handle input => accum handle (some (bytes input))) merge).Tracks
      accepts collects shows) (means : Row → Inner → Prop) :
    (Aggregate.mk (fun handle row => do
      let blob ← evaluate row
      accum handle (some blob)) merge).Tracks
      (fun row => ∀ heap, ∃ inner, means row inner ∧ accepts inner ∧
        Returns (evaluate row) heap [] fun blob _ => blob = bytes inner)
      (Through means collects) (Through means shows) where
  accum := by
    intro heap handle state rows row owns shown accepted
    obtain ⟨inners, same, shown⟩ := shown.through
    obtain ⟨inner, stands, accepted, _, middle, run, frame, rfl⟩ := accepted heap
    obtain ⟨object, collected, step⟩ := tracks.accum (owns.frame frame (by simp)) shown accepted
    refine ⟨object, ⟨inners ++ [inner], List.rel_append same (.cons stands .nil), collected⟩, ?_⟩
    have evaluated : Returns (evaluate row) heap [] fun blob after =>
        blob = bytes inner ∧ after = middle := ⟨_, middle, run, frame, rfl, rfl⟩
    refine evaluated.look ?_
    rintro _ _ - ⟨rfl, rfl⟩
    refine step.imp ?_
    rintro result after - ⟨address, isAddress, place, there⟩
    exact ⟨address, isAddress, place.imp id frame.next.trans, there⟩
  collected := by
    rintro rows object ⟨inners, same, collected⟩
    exact ⟨inners, same, tracks.collected collected⟩
  merge := by
    intro heap left right x y rows others ownsLeft ownsRight apart some_side shownLeft shownRight
    obtain ⟨inners, same, shownLeft⟩ := shownLeft.through
    obtain ⟨further, sameToo, shownRight⟩ := shownRight.through
    obtain ⟨object, shown, returns⟩ :=
      tracks.merge ownsLeft ownsRight apart some_side shownLeft shownRight
    exact ⟨object, ⟨inners ++ further, List.rel_append same sameToo, shown⟩, returns⟩
  nothing := tracks.nothing
  hop := by
    rintro rows object some_row ⟨inners, same, shown⟩
    have some_inner : inners ≠ [] := fun none_left => by
      rw [none_left] at same
      exact some_row (List.forall₂_nil_right_iff.mp same)
    obtain ⟨sketch, finished, fits, kept⟩ := tracks.hop some_inner shown
    exact ⟨sketch, finished, fits, inners, same, kept⟩

end Evaluated

/-! Blobs that are returned. -/

theorem Decodes.unique {blob : Blob} {sketch other : CompactSketch} (first : Decodes blob sketch)
    (second : Decodes blob other) : sketch = other :=
  Except.ok.inj (first.deserialize.symm.trans second.deserialize)

theorem Yields.denotes {D : Finset ℕ} {blob : Blob} {sketch : CompactSketch} (yields : Yields D blob)
    (decodes : Decodes blob sketch) : sketch.Denotes D := by
  obtain ⟨other, decodesToo, denotes⟩ := yields
  obtain rfl := decodes.unique decodesToo
  exact denotes

theorem Returns.both {A : Type} {code : HeapM A} {heap : Heap} {owned : List ℕ}
    {post other : A → Heap → Prop} (first : Returns code heap owned post)
    (second : Returns code heap owned other) :
    Returns code heap owned fun value after => post value after ∧ other value after := by
  obtain ⟨value, after, run, frame, holds⟩ := first
  obtain ⟨_, _, again, _, holdsToo⟩ := second
  cases run.symm.trans again
  exact ⟨value, after, run, frame, holds, holdsToo⟩

/-! Sketches of whole sets. -/

/-- The sketch holds every member of the set. -/
structure CompactSketch.Holds (sketch : CompactSketch) (D : Finset ℕ) : Prop where
  denotes : sketch.Denotes D
  whole : sketch.theta = maxTheta

namespace CompactSketch.Holds

variable {sketch : CompactSketch} {D : Finset ℕ}

theorem of_entries (sound : sketch.Sound) (few : sketch.entries.length + 3 < 2 ^ 29)
    (whole : sketch.theta = maxTheta) (entries : sketch.entries.toFinset = D) : sketch.Holds D := by
  have hashes : Hashes D := fun hash member =>
    whole ▸ sound.range hash (List.mem_toFinset.mp (entries ▸ member))
  refine ⟨⟨sound, few, hashes, ?_, fun flagged => ?_⟩, whole⟩
  · rw [whole, hashes.sample_eq, entries]
  · rw [← entries, (sound.empty flagged).1]
    rfl

theorem entries_eq (holds : sketch.Holds D) : sketch.entries = D.sort (· ≤ ·) := by
  refine sorted_unique holds.denotes.sound.sorted (Finset.sortedLT_sort _).pairwise ?_
  rw [Finset.sort_toFinset, holds.denotes.entries, holds.whole, holds.denotes.hashes.sample_eq]

theorem shape (holds : sketch.Holds D) : sketch =
    ⟨sketch.isEmpty, true, computeSeedHash defaultSeed, maxTheta, D.sort (· ≤ ·)⟩ := by
  rw [← holds.denotes.sound.ordered, ← holds.denotes.sound.seed, ← holds.whole, ← holds.entries_eq]

end CompactSketch.Holds

structure ValidBlob.Holds (blob : ValidBlob) (D : Finset ℕ) : Prop where
  whole : blob.view.theta = maxTheta
  entries : blob.entries.toFinset = D

def BoundedBlob.decoded {bytes : Blob} {sketch : CompactSketch} (decodes : Decodes bytes sketch)
    (sound : sketch.Sound) (few : sketch.entries.length + 3 < 2 ^ 29) : BoundedBlob where
  bytes := bytes
  view := sketch.view
  entries := sketch.entries
  wrapped := decodes.wrap
  valid := sound.valid
  bounded := sound.bound
  blank := fun flagged => (sound.empty flagged).2
  few := few

section Inputs

theorem leastTheta_whole {inputs : List ValidBlob}
    (whole : ∀ input ∈ inputs, input.view.theta = maxTheta) : leastTheta inputs = maxTheta := by
  induction inputs with
  | nil => rfl
  | cons input rest ih =>
    obtain ⟨first, others⟩ := List.forall_mem_cons.mp whole
    have append := leastTheta_append [input] rest
    have one : leastTheta [input] = maxTheta := by
      cases flagged : input.view.isEmpty <;> simp [leastTheta, flagged, first]
    rw [List.singleton_append] at append
    rw [append, one, ih others, min_self]

theorem allEntries_eq {inputs : List ValidBlob} {sets : List (Finset ℕ)}
    (holds : List.Forall₂ ValidBlob.Holds inputs sets) : allEntries inputs = unionAll sets := by
  induction holds with
  | nil => rfl
  | @cons input D inputs sets first _ ih =>
    have append := allEntries_append [input] inputs
    rw [List.singleton_append] at append
    have one : allEntries [input] = D := by simp [allEntries, first.entries]
    rw [append, one, ih]
    rfl

theorem whole_of_holds {inputs : List ValidBlob} {sets : List (Finset ℕ)}
    (holds : List.Forall₂ ValidBlob.Holds inputs sets) :
    ∀ input ∈ inputs, input.view.theta = maxTheta := by
  induction holds with
  | nil => simp
  | cons first _ ih => exact List.forall_mem_cons.mpr ⟨first.whole, ih⟩

theorem unionOf_holds {inputs : List ValidBlob} {sets : List (Finset ℕ)}
    (holds : List.Forall₂ ValidBlob.Holds inputs sets)
    (small : (unionAll sets).card ≤ 2 ^ defaultLgK) : (unionOf inputs).Holds (unionAll sets) := by
  have least := leastTheta_whole (whole_of_holds holds)
  have entries := allEntries_eq holds
  have hashes : sample (unionAll sets) maxTheta = unionAll sets := by
    refine Finset.filter_true_of_mem fun hash member => ?_
    obtain ⟨input, among, inside⟩ := mem_allEntries.mp (entries ▸ member)
    exact whole_of_holds holds input among ▸ (input.valid.range hash inside).2
  have few : ((sample (unionAll sets) maxTheta).sort (· ≤ ·)).length ≤ 2 ^ defaultLgK := by
    rw [Finset.length_sort, hashes]
    exact small
  refine .of_entries (unionOf_sound inputs) ?_ ?_ ?_
  · exact lt_of_le_of_lt (Nat.add_le_add_right (length_unionOf_le inputs) 3) (by decide)
  · rw [unionOf_theta, least, entries, cutBound, List.getElem?_eq_none few, Option.getD_none]
  · rw [unionOf_entries, least, entries, cutKeys, List.take_of_length_le few, Finset.sort_toFinset,
      hashes]

theorem mem_all_iff {inputs : List ValidBlob} {sets : List (Finset ℕ)}
    (holds : List.Forall₂ ValidBlob.Holds inputs sets) {hash : ℕ} :
    (∀ input ∈ inputs, hash ∈ input.entries) ↔ ∀ D ∈ sets, hash ∈ D := by
  induction holds with
  | nil => simp
  | cons first _ ih =>
    rw [List.forall_mem_cons, List.forall_mem_cons, ih, ← first.entries, List.mem_toFinset]

/-- Whole sketches meet in a whole sketch, whatever the order and the grouping. -/
theorem combines_holds {inputs : List BoundedBlob} {sets : List (Finset ℕ)} {state : Meet}
    (some_input : inputs ≠ [])
    (holds : List.Forall₂ ValidBlob.Holds (inputs.map BoundedBlob.toValidBlob) sets)
    (combines : Meet.Combines (inputs.map BoundedBlob.meet) state) :
    state.result.Holds (intersectAll sets) := by
  have agrees := agrees_of_combines combines
  have some_set : sets ≠ [] := fun none_left => by
    rw [none_left] at holds
    exact some_input (List.map_eq_nil_iff.mp (List.forall₂_nil_right_iff.mp holds))
  refine .of_entries agrees.proper.sound (result_few some_input agrees) ?_ ?_
  · change state.theta = maxTheta
    cases closed : state.isEmpty with
    | true => rw [agrees.proper.void closed]; rfl
    | false =>
      refine le_antisymm agrees.proper.bound ?_
      rw [agrees.theta closed, Meet.le_leastTheta_iff, List.forall_mem_map]
      refine ⟨le_rfl, fun input inside => ?_⟩
      exact (whole_of_holds holds _ (List.mem_map_of_mem inside)).ge
  · ext hash
    rw [Meet.result, Finset.sort_toFinset, keys_eq some_input agrees, mem_commonEntries some_input,
      mem_intersectAll some_set, ← mem_all_iff holds, List.forall_mem_map]

end Inputs

/-! Each kind of node. -/

def YieldsAll (D : Finset ℕ) (blob : Blob) : Prop := ∃ sketch, Decodes blob sketch ∧ sketch.Holds D

section Nodes

variable {D E F : Finset ℕ} {heap : Heap} {left right : Blob}

theorem CompactSketch.Holds.yields {sketch : CompactSketch} (holds : sketch.Holds D)
    (malloc : ℕ → UInt8) : YieldsAll D (sketch.serialize2 malloc) :=
  ⟨sketch, (holds.denotes.sound.serializable holds.denotes.few).decodes malloc, holds⟩

theorem YieldsAll.input {blob : Blob} (yields : YieldsAll D blob) :
    ∃ input : BoundedBlob, input.bytes = blob ∧ input.toValidBlob.Holds D := by
  obtain ⟨sketch, decodes, denotes, whole⟩ := yields
  refine ⟨.decoded decodes denotes.sound denotes.few, rfl, whole, ?_⟩
  exact denotes.entries.trans (whole ▸ denotes.hashes.sample_eq)

theorem returns_arguments_all {first second : HeapM Blob} {compute : Blob → Blob → HeapM Blob}
    (first_yields : ∀ heap, Returns first heap [] fun blob _ => YieldsAll D blob)
    (second_yields : ∀ heap, Returns second heap [] fun blob _ => YieldsAll E blob)
    (step : ∀ left right heap, YieldsAll D left → YieldsAll E right →
      Returns (compute left right) heap [] fun blob _ => YieldsAll F blob) :
    Returns (do
      let left ← first
      let right ← second
      compute left right) heap [] fun blob _ => YieldsAll F blob := by
  refine (first_yields heap).andThen fun left middle _ yieldsLeft => ?_
  refine (second_yields middle).andThen fun right after _ yieldsRight => ?_
  exact step left right after yieldsLeft yieldsRight

theorem yieldsAll_build (plan : Plan BuildRow) (some_row : plan.inputs ≠ [])
    (small : (fedHashes plan.inputs).card ≤ 2 ^ defaultLgK) (malloc : ℕ → UInt8) :
    Returns (plan.output buildAggregate malloc) heap [] fun blob _ =>
      YieldsAll (fedHashes plan.inputs) blob := by
  refine (buildAggregate_tracks.output plan some_row (fun _ _ => trivial) heap malloc).imp ?_
  rintro blob after - ⟨object, sketch, shows, finished, fits, rfl⟩
  obtain ⟨_, again, sound, few, samples⟩ := shows.finished
  cases finished.symm.trans again
  rw [fedHashes_eq] at small
  have whole : sketch.theta = maxTheta := samples.trims.eq_of_card_le small
  have hashes : Hashes (fedHashes plan.inputs) := fun hash member => (Finset.mem_filter.mp member).2
  refine CompactSketch.Holds.yields (.of_entries sound few whole ?_) malloc
  rw [samples.entries_eq sound, whole, hashes.sample_eq]

theorem returns_unionOf (x y : ValidBlob) (malloc : ℕ → UInt8) :
    Returns (extensionSketchUnion (some x.bytes) (some y.bytes) malloc) heap [] fun blob _ =>
      blob = (unionOf [x, y]).serialize2 malloc := by
  obtain ⟨middle, runLeft, carries⟩ := Carries.new.accumulate x
  obtain ⟨final, runRight, carries⟩ := carries.accumulate y
  refine (returns_extensionSketchUnion x.wrapped y.wrapped runLeft runRight malloc).imp ?_
  rintro blob after - rfl
  rw [carries.getResult_eq]
  rfl

theorem yieldsAll_union (first : YieldsAll D left) (second : YieldsAll E right)
    (small : (D ∪ E).card ≤ 2 ^ defaultLgK) (malloc : ℕ → UInt8) :
    Returns (extensionSketchUnion (some left) (some right) malloc) heap [] fun blob _ =>
      YieldsAll (D ∪ E) blob := by
  obtain ⟨x, rfl, holdsLeft⟩ := first.input
  obtain ⟨y, rfl, holdsRight⟩ := second.input
  have both : unionAll [D, E] = D ∪ E := by simp [unionAll]
  have holds := unionOf_holds (.cons holdsLeft (.cons holdsRight .nil)) (both ▸ small)
  refine (returns_unionOf x.toValidBlob y.toValidBlob malloc).imp ?_
  rintro blob after - rfl
  exact (both ▸ holds).yields malloc

theorem returns_meetOf (x y : BoundedBlob) (malloc : ℕ → UInt8) :
    Returns (extensionSketchIntersection (some x.bytes) (some y.bytes) malloc) heap [] fun blob _ =>
      blob = (Meet.update (some x.meet) y.meet).result.serialize2 malloc := by
  obtain ⟨middle, runLeft, meets⟩ := Meets.fresh.update x.valid x.bounded
  obtain ⟨final, runRight, meets⟩ := meets.update y.valid y.bounded
  have taken : Meet.update none (x.view.meet x.entries) = x.meet := Meet.update_none x.proper
  rw [taken] at meets
  exact returns_extensionSketchIntersection x.wrapped y.wrapped runLeft runRight meets.getResult_eq malloc

theorem yieldsAll_intersection (first : YieldsAll D left) (second : YieldsAll E right)
    (malloc : ℕ → UInt8) :
    Returns (extensionSketchIntersection (some left) (some right) malloc) heap [] fun blob _ =>
      YieldsAll (D ∩ E) blob := by
  obtain ⟨x, rfl, holdsLeft⟩ := first.input
  obtain ⟨y, rfl, holdsRight⟩ := second.input
  have both : intersectAll [D, E] = D ∩ E := by
    ext hash
    simp [intersectAll]
  have holds := @combines_holds [x, y] _ _ (List.cons_ne_nil _ _)
    (.cons holdsLeft (.cons holdsRight .nil)) (.join (.one x.meet) (.one y.meet))
  refine (returns_meetOf x y malloc).imp ?_
  rintro blob after - rfl
  exact (both ▸ holds).yields malloc

theorem yieldsAll_aNotB (first : YieldsAll D left) (second : YieldsAll E right) (malloc : ℕ → UInt8) :
    Returns (extensionSketchANotB (some left) (some right) malloc) heap [] fun blob _ =>
      YieldsAll (D \ E) blob := by
  obtain ⟨a, decodesLeft, holdsLeft⟩ := first
  obtain ⟨b, decodesRight, holdsRight⟩ := second
  obtain ⟨sketch, run, denotes⟩ := holdsLeft.denotes.compute holdsRight.denotes
  obtain ⟨theta, entries, again, isTheta, _⟩ := ThetaANotB.compute_eq holdsLeft.denotes.sound.valid
    holdsRight.denotes.sound.valid holdsLeft.denotes.sound.seed holdsRight.denotes.sound.seed
  cases run.symm.trans again
  have thetaA : a.view.theta = maxTheta := holdsLeft.whole
  have thetaB : b.view.theta = maxTheta := holdsRight.whole
  rw [thetaA, thetaB, min_self, ite_self] at isTheta
  refine (returns_extensionSketchANotB decodesLeft.wrap decodesRight.wrap run malloc).imp ?_
  rintro blob after - rfl
  exact CompactSketch.Holds.yields ⟨denotes, isTheta⟩ malloc

end Nodes

/-! Aggregates over nodes. -/

section Children

variable {n : ℕ} {evaluate : Fin n → HeapM Blob} {meaning : Fin n → Finset ℕ} {heap : Heap}

theorem evaluates_input {child : Fin n}
    (yields : ∀ heap, Returns (evaluate child) heap [] fun blob _ => YieldsAll (meaning child) blob)
    (heap : Heap) : ∃ input : BoundedBlob, input.toValidBlob.Holds (meaning child) ∧
      Returns (evaluate child) heap [] fun blob _ => blob = input.bytes := by
  obtain ⟨_, after, run, frame, yields⟩ := yields heap
  obtain ⟨input, rfl, holds⟩ := yields.input
  exact ⟨input, holds, _, after, run, frame, rfl⟩

theorem yieldsAll_unionAggregate (plan : Plan (Fin n)) (some_child : plan.inputs ≠ [])
    (yields : ∀ child ∈ plan.inputs, ∀ heap, Returns (evaluate child) heap [] fun blob _ =>
      YieldsAll (meaning child) blob)
    (small : (unionAll (plan.inputs.map meaning)).card ≤ 2 ^ defaultLgK) (malloc : ℕ → UInt8) :
    Returns (plan.output (unionOver evaluate) malloc) heap [] fun blob _ =>
      YieldsAll (unionAll (plan.inputs.map meaning)) blob := by
  have tracks := @Aggregate.Tracks.through _ _ _ _ ValidBlob.bytes _ _ _ evaluate
    unionAggregate_tracks fun child input => input.Holds (meaning child)
  refine (tracks.output plan some_child (fun child inside heap => ?_) heap malloc).imp ?_
  · obtain ⟨input, holds, returns⟩ := evaluates_input (yields child inside) heap
    exact ⟨input.toValidBlob, holds, trivial, returns⟩
  · rintro blob after - ⟨object, sketch, ⟨inputs, same, shown, _⟩, finished, _, rfl⟩
    cases finished.symm.trans shown
    have holds : List.Forall₂ ValidBlob.Holds inputs (plan.inputs.map meaning) :=
      List.forall₂_map_right_iff.mpr same.flip
    exact (unionOf_holds holds small).yields malloc

theorem yieldsAll_intersectionAggregate (plan : Plan (Fin n)) (some_child : plan.inputs ≠ [])
    (yields : ∀ child ∈ plan.inputs, ∀ heap, Returns (evaluate child) heap [] fun blob _ =>
      YieldsAll (meaning child) blob) (malloc : ℕ → UInt8) :
    Returns (plan.output (intersectionOver evaluate) malloc) heap [] fun blob _ =>
      YieldsAll (intersectAll (plan.inputs.map meaning)) blob := by
  have tracks := @Aggregate.Tracks.through _ BoundedBlob _ _ (fun input => input.bytes) _ _ _ evaluate
    intersectionAggregate_tracks fun child input => input.toValidBlob.Holds (meaning child)
  refine (tracks.output plan some_child (fun child inside heap => ?_) heap malloc).imp ?_
  · obtain ⟨input, holds, returns⟩ := evaluates_input (yields child inside) heap
    exact ⟨input, holds, trivial, returns⟩
  · rintro blob after - ⟨object, sketch, ⟨inputs, same, state, combines, shown, _⟩, finished, _, rfl⟩
    cases finished.symm.trans shown
    have holds : List.Forall₂ ValidBlob.Holds (inputs.map BoundedBlob.toValidBlob)
        (plan.inputs.map meaning) :=
      List.forall₂_map_left_iff.mpr (List.forall₂_map_right_iff.mpr same.flip)
    have some_input : inputs ≠ [] := fun none_left => by
      rw [none_left] at same
      exact some_child (List.forall₂_nil_right_iff.mp same)
    exact (combines_holds some_input holds combines).yields malloc

end Children

/-! Expressions. -/

namespace Expression

/-- What is built and what is united has at most the nominal number of members. -/
def Small : Expression → Prop
  | build plan _ _ => (fedHashes plan.inputs).card ≤ 2 ^ defaultLgK
  | union left right _ =>
    left.Small ∧ right.Small ∧ (left.meaning ∪ right.meaning).card ≤ 2 ^ defaultLgK
  | intersection left right _ => left.Small ∧ right.Small
  | aNotB left right _ => left.Small ∧ right.Small
  | unionAggregate children plan _ _ => (∀ child ∈ plan.inputs, (children child).Small) ∧
    (unionAll (plan.inputs.map fun child => (children child).meaning)).card ≤ 2 ^ defaultLgK
  | intersectionAggregate children plan _ _ => ∀ child ∈ plan.inputs, (children child).Small

theorem returns_all (expression : Expression) (small : expression.Small) (heap : Heap) :
    Returns expression.evaluate heap [] fun blob _ => YieldsAll expression.meaning blob := by
  induction expression generalizing heap with
  | build plan some_row malloc => exact yieldsAll_build plan some_row small malloc
  | union left right malloc ihLeft ihRight =>
    obtain ⟨smallLeft, smallRight, few⟩ := small
    exact returns_arguments_all (ihLeft smallLeft) (ihRight smallRight)
      fun _ _ _ first second => yieldsAll_union first second few malloc
  | intersection left right malloc ihLeft ihRight =>
    obtain ⟨smallLeft, smallRight⟩ := small
    exact returns_arguments_all (ihLeft smallLeft) (ihRight smallRight)
      fun _ _ _ first second => yieldsAll_intersection first second malloc
  | aNotB left right malloc ihLeft ihRight =>
    obtain ⟨smallLeft, smallRight⟩ := small
    exact returns_arguments_all (ihLeft smallLeft) (ihRight smallRight)
      fun _ _ _ first second => yieldsAll_aNotB first second malloc
  | unionAggregate children plan some_child malloc ih =>
    obtain ⟨smallChildren, few⟩ := small
    exact yieldsAll_unionAggregate plan some_child
      (fun child inside => ih child (smallChildren child inside)) few malloc
  | intersectionAggregate children plan some_child malloc ih =>
    exact yieldsAll_intersectionAggregate plan some_child
      (fun child inside => ih child (small child inside)) malloc

end Expression

theorem returns_getEstimate_decoded {sketch : CompactSketch} {blob : Blob} (decodes : Decodes blob sketch)
    (heap : Heap) :
    Returns (extensionSketchGetEstimate (some blob)) heap [] fun estimate _ =>
      estimate = sketch.view.getEstimate := by
  rw [extensionSketchGetEstimate, bailIfShort_eq (length_of_wrap decodes.wrap)]
  refine (returns_sketchDeserialize decodes.deserialize heap).bind (fun ptr => [ptr]) ?_
  rintro ptr middle - ⟨new, made⟩
  refine ⟨by simpa using new, ?_⟩
  have asked : Returns (thetaSketchGetEstimate ptr) middle [] fun estimate _ =>
      estimate = sketch.view.getEstimate := by
    refine (returns_castTo Object.asThetaSketch made _ rfl).look ?_
    rintro _ later - rfl
    exact .pure rfl
  refine asked.look ?_
  rintro _ second frame rfl
  exact (returns_delete (frame.holds made (by simp)) .thetaSketch).andThen fun _ _ _ _ => .pure rfl

/-- The estimate of a whole sketch counts its set. -/
theorem returns_getEstimate_all {D : Finset ℕ} {blob : Blob} (yields : YieldsAll D blob) (heap : Heap) :
    Returns (extensionSketchGetEstimate (some blob)) heap [] fun estimate _ => estimate = D.card := by
  obtain ⟨sketch, decodes, holds⟩ := yields
  refine (returns_getEstimate_decoded decodes heap).imp ?_
  rintro _ after - rfl
  have nonzero : (maxTheta : ℚ) ≠ 0 := by norm_num [maxTheta]
  have theta : sketch.view.theta = maxTheta := holds.whole
  have count : sketch.view.numRetained = D.card := by
    rw [holds.denotes.sound.valid.count, holds.entries_eq, Finset.length_sort]
  rw [SketchView.getEstimate, SketchView.getTheta, theta, div_self nonzero, div_one, count]

/-- An expression whose builds and unions stay small returns its whole meaning,
and the estimate of what it returns is the number of members. -/
theorem evaluate_exact (expression : Expression) (small : expression.Small) (heap : Heap) :
    Returns expression.evaluate heap [] fun blob _ =>
      (∃ isEmpty, Decodes blob ⟨isEmpty, true, computeSeedHash defaultSeed, maxTheta,
        expression.meaning.sort (· ≤ ·)⟩) ∧
      ∀ later, Returns (extensionSketchGetEstimate (some blob)) later [] fun estimate _ =>
        estimate = expression.meaning.card := by
  refine (expression.returns_all small heap).imp ?_
  rintro blob after - yields
  refine ⟨?_, returns_getEstimate_all yields⟩
  obtain ⟨sketch, decodes, holds⟩ := yields
  exact ⟨sketch.isEmpty, holds.shape ▸ decodes⟩

def Expression.leaf (hash : UInt64) : Expression :=
  .build (.rows [.hash hash]) (List.cons_ne_nil _ _) fun _ => 0

def Expression.leaves : Expression :=
  .aNotB (.unionAggregate (fun child : Fin 2 => leaf (if child = 0 then 5 else 7))
    (.merge (.rows [0]) (.hop (fun _ => 0) (.rows [1]))) (List.cons_ne_nil _ _) fun _ => 0)
    (leaf 5) fun _ => 0

theorem evaluate_exact_leaves :
    Returns Expression.leaves.evaluate Heap.empty [] fun blob _ => ∀ later,
      Returns (extensionSketchGetEstimate (some blob)) later [] fun estimate _ => estimate = 1 := by
  have leaf : ∀ hash, (Expression.leaf hash).Small := fun hash =>
    (Finset.card_filter_le _ _).trans ((List.toFinset_card_le _).trans (Nat.one_le_two_pow))
  have small : Expression.leaves.Small := ⟨⟨fun _ _ => leaf _, by decide⟩, leaf 5⟩
  refine (evaluate_exact _ small Heap.empty).imp ?_
  rintro blob after - ⟨_, counted⟩ later
  have one : Expression.leaves.meaning.card = 1 := by decide
  exact (counted later).imp fun _ _ _ same => by rw [same, one, Nat.cast_one]

end ThetaSketch
