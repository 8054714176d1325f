import ThetaSketch.Extension.BuildPlans
import ThetaSketch.Extension.IntersectionPlans
import ThetaSketch.Extension.Scalars
import ThetaSketch.Extension.Sessions
import ThetaSketch.SetOperations.Reachable

/-! What the functions of the extension return is what they accept.

A blob is well formed if it reads as a sketch of the right shape. Whatever comes out
of an aggregate or of a scalar function is well formed, and a well formed blob is
accepted everywhere. The blob of an aggregate without rows is empty, and that one is
accepted by `handle_deserialize` only.
-/

set_option autoImplicit false

namespace ThetaSketch

def WellFormed (blob : Blob) : Prop :=
  ∃ sketch, Decodes blob sketch ∧ Shaped defaultSeed sketch.view sketch.entries

theorem builds_default : ThetaBaseBuilder.Builds {} defaultSeed := ⟨by decide, by decide, rfl⟩

section Shapes

variable {view : SketchView} {E : List ℕ} {sketch : CompactSketch}

theorem Shaped.plain (shaped : Shaped defaultSeed view E) : view.Valid E where
  reads := shaped.valid.reads
  count := shaped.valid.count
  distinct := shaped.valid.distinct
  range := shaped.valid.range
  ordered := shaped.valid.ordered
  seed := fun _ => shaped.valid.seedHash
  empty := fun flagged => (shaped.valid.empty flagged).1

theorem CompactSketch.Sound.shaped (sound : sketch.Sound) (few : sketch.entries.length + 3 < 2 ^ 29) :
    Shaped defaultSeed sketch.view sketch.entries where
  valid := ⟨sound.valid.reads, rfl, by omega, nodup_of_sorted sound.sorted, sound.range, sound.bound,
    fun _ => sound.sorted, sound.seed, sound.empty⟩
  fits := few
  short := fun _ => sound.ordered

theorem Shaped.wellFormed (shaped : Shaped defaultSeed sketch.view sketch.entries)
    (malloc : ℕ → UInt8) : WellFormed (sketch.serialize2 malloc) :=
  ⟨sketch, shaped.serializable.decodes malloc, shaped⟩

end Shapes

/-! States that saw well formed blobs only. -/

/-- The object is between two calls, and nothing but well formed blobs went into it. -/
def Object.Proper : Object → Prop
  | updateThetaSketch sketch => Built {} sketch
  | compactThetaSketch sketch => Shaped defaultSeed sketch.view sketch.entries
  | thetaUnion union => Pooled {} union
  | thetaIntersection intersection => ∃ state, Meets intersection (some state) ∧ state.Proper ∧
      state.keys.card + 3 < 2 ^ 29

section States

variable {view : SketchView} {E : List ℕ}

theorem Object.Proper.finished {object : Object} (proper : object.Proper) :
    ∃ sketch, object.finished = .ok sketch ∧ Shaped defaultSeed sketch.view sketch.entries := by
  cases object with
  | updateThetaSketch sketch =>
    have shaped := Built.shaped proper builds_default
    obtain ⟨entries, run, _⟩ := CompactSketch.ofSketch_ordered shaped.plain
    exact ⟨_, run, shaped.ofSketch run⟩
  | compactThetaSketch sketch => exact ⟨sketch, rfl, proper⟩
  | thetaUnion union => exact ⟨_, rfl, Pooled.getResult_shaped proper builds_default (fun _ => rfl) true⟩
  | thetaIntersection intersection =>
    obtain ⟨state, meets, proper, few⟩ := proper
    refine ⟨_, (finished_meets meets).1, proper.sound.shaped ?_⟩
    rwa [Meet.result, Finset.length_sort]

theorem Object.Proper.shown {object : Object} (proper : object.Proper) :
    ∃ view E, object.shown = .ok view ∧ Shaped defaultSeed view E := by
  obtain ⟨sketch, finished, shaped⟩ := proper.finished
  have shows : object.finished.map CompactSketch.view = .ok sketch.view := by
    rw [finished]
    rfl
  cases object with
  | updateThetaSketch update => exact ⟨_, _, rfl, Built.shaped proper builds_default⟩
  | compactThetaSketch compact => exact ⟨_, _, shows, shaped⟩
  | thetaUnion union => exact ⟨_, _, shows, shaped⟩
  | thetaIntersection intersection => exact ⟨_, _, shows, shaped⟩

theorem Pooled.update_shaped {union : ThetaUnion} (pooled : Pooled {} union)
    (shaped : Shaped defaultSeed view E) : ∃ next, union.update view = .ok next ∧ Pooled {} next := by
  obtain ⟨next, run, after, _⟩ := pooled.update_returns shaped fun _ =>
    shaped.valid.seedHash.trans (congrArg computeSeedHash pooled.seed.symm)
  exact ⟨next, run, after⟩

theorem Meets.update_shaped {intersection : ThetaIntersection} {state : Option Meet}
    (meets : Meets intersection state)
    (proper : ∀ meet ∈ state, meet.Proper ∧ meet.keys.card + 3 < 2 ^ 29)
    (shaped : Shaped defaultSeed view E) :
    ∃ next, intersection.update view = .ok next ∧ (Object.thetaIntersection next).Proper := by
  obtain ⟨next, run, after⟩ := meets.update shaped.plain shaped.valid.bound
  have other := shaped.valid.proper
  refine ⟨next, run, _, after, ?_⟩
  cases state with
  | none =>
    rw [Meet.update_none other]
    refine ⟨other, ?_⟩
    exact (Nat.add_le_add_right (List.toFinset_card_le E) 3).trans_lt shaped.fits
  | some meet =>
    obtain ⟨proper, few⟩ := proper meet rfl
    refine ⟨Meet.proper_update proper other, ?_⟩
    rw [Meet.keys_update proper other]
    exact (Nat.add_le_add_right (Finset.card_le_card Finset.inter_subset_left) 3).trans_lt few

theorem Built.updateByHash_returns {sketch : UpdateSketch} (built : Built {} sketch) (hash : ℕ) :
    ∃ next, sketch.updateByHash hash = .ok next ∧ Built {} next := by
  obtain ⟨S, gathers⟩ := built.gathers
  obtain ⟨next, run, _⟩ := gathers.updateByHash hash
  exact ⟨next, run, built.updateByHash run⟩

end States

/-! Callbacks on such states. -/

/-- A proper object lies there under its tag. -/
def Heap.Proper (heap : Heap) (address : ℕ) : Prop :=
  ∃ object, heap.Owns address object ∧ object.Proper

def AggregateFunction.accepts : (function : AggregateFunction) → function.Row → Prop
  | build, _ | buildByHash, _ => True
  | union, row | intersection, row => ∀ blob ∈ row, WellFormed blob

def Callback.Feeds {function : AggregateFunction} : Callback function.Row → Prop
  | accum _ row => function.accepts row
  | deserialize data => data = [] ∨ WellFormed data
  | init | merge _ _ | serialize _ _ => True

/-- What holds if the code returns. -/
def Ends {A : Type} (code : HeapM A) (before : Heap) (post : A → Heap → Prop) : Prop :=
  ∀ value after, code before = .ok value after → post value after

theorem Returns.ends {A : Type} {code : HeapM A} {before : Heap} {owned : List ℕ}
    {post : A → Heap → Prop} (returns : Returns code before owned post) :
    Ends code before fun value after => Frame owned before after ∧ post value after := by
  obtain ⟨value, after, run, done⟩ := returns
  intro other final again
  cases run.symm.trans again
  exact done

theorem Ends.bind {A B : Type} {code : HeapM A} {next : A → HeapM B} {before : Heap}
    {post : A → Heap → Prop} {final : B → Heap → Prop} (first : Ends code before post)
    (rest : ∀ value middle, post value middle → Ends (next value) middle final) :
    Ends (code >>= next) before final := by
  intro result after run
  simp only [Bind.bind, EStateM.bind] at run
  cases step : code before with
  | error exit middle =>
    rw [step] at run
    cases run
  | ok value middle =>
    rw [step] at run
    exact rest value middle (first value middle step) result after run

section Accumulate

variable {heap : Heap} {handle : Handle}

theorem Heap.ownsHandle_of {holds : Object → Prop}
    (live : ∀ address ∈ handle, ∃ object, heap.Owns address object ∧ holds object) :
    ∃ state, heap.OwnsHandle handle state ∧ ∀ object ∈ state, holds object := by
  cases handle with
  | none => exact ⟨none, .none, by simp⟩
  | some address =>
    obtain ⟨object, owns, done⟩ := live address rfl
    exact ⟨some object, .some owns, by simpa using done⟩

def Heap.Accumulates (heap : Heap) (kind : HandleClass) (handle : Handle) : Prop :=
  ∀ address ∈ handle, ∃ object, heap.Owns address object ∧ object.Proper ∧ object.handleClass = kind

theorem Accumulated.proper {before after : Heap} {object : Object} {result : Handle}
    (accumulated : Accumulated before handle object result after) (proper : object.Proper) :
    ∀ address ∈ result, after.Proper address := by
  obtain ⟨place, rfl, _, owns⟩ := accumulated
  intro address member
  cases member
  exact ⟨object, owns, proper⟩

theorem returns_buildProper (live : heap.Accumulates .updateThetaSketch handle) (row : BuildRow) :
    Returns (buildAggregate.accum handle row) heap handle.toList fun result after =>
      ∀ address ∈ result, after.Proper address := by
  obtain ⟨state, owns, mine⟩ := Heap.ownsHandle_of live
  obtain ⟨sketch, start, built⟩ : ∃ sketch, state.getD (.updateThetaSketch (UpdateSketch.new {})) =
      .updateThetaSketch sketch ∧ Built {} sketch := by
    cases state with
    | none => exact ⟨_, rfl, .new (by decide)⟩
    | some object =>
      obtain ⟨proper, same⟩ := mine object rfl
      cases object <;> cases same
      exact ⟨_, rfl, proper⟩
  obtain ⟨next, run, after⟩ := built.updateByHash_returns row.fed
  exact (returns_buildRow owns start built.seed run).imp fun result final _ done => done.proper after

theorem returns_unionProper (live : heap.Accumulates .thetaUnion handle) {blob : Blob}
    (wellFormed : WellFormed blob) :
    Returns (extensionSketchHandleUnionAccum handle (some blob)) heap handle.toList
      fun result after => ∀ address ∈ result, after.Proper address := by
  obtain ⟨state, owns, mine⟩ := Heap.ownsHandle_of live
  obtain ⟨union, start, pooled⟩ : ∃ union, state.getD (.thetaUnion (ThetaUnion.new {})) =
      .thetaUnion union ∧ Pooled {} union := by
    cases state with
    | none => exact ⟨_, rfl, .new (by decide)⟩
    | some object =>
      obtain ⟨proper, same⟩ := mine object rfl
      cases object <;> cases same
      exact ⟨_, rfl, proper⟩
  obtain ⟨sketch, decodes, shaped⟩ := wellFormed
  obtain ⟨next, run, after⟩ := pooled.update_shaped shaped
  exact (returns_unionAccum owns start decodes.wrap run).imp fun result final _ done => done.proper after

theorem returns_intersectionProper (live : heap.Accumulates .thetaIntersection handle) {blob : Blob}
    (wellFormed : WellFormed blob) :
    Returns (extensionSketchHandleIntersectionAccum handle (some blob)) heap handle.toList
      fun result after => ∀ address ∈ result, after.Proper address := by
  obtain ⟨state, owns, mine⟩ := Heap.ownsHandle_of live
  obtain ⟨intersection, start, meet, meets, small⟩ : ∃ intersection,
      state.getD (.thetaIntersection (ThetaIntersection.new defaultSeed)) =
        .thetaIntersection intersection ∧ ∃ state, Meets intersection state ∧
          ∀ meet ∈ state, meet.Proper ∧ meet.keys.card + 3 < 2 ^ 29 := by
    cases state with
    | none => exact ⟨_, rfl, none, .fresh, by simp⟩
    | some object =>
      obtain ⟨proper, same⟩ := mine object rfl
      cases object <;> cases same
      obtain ⟨meet, meets, small⟩ := proper
      exact ⟨_, rfl, some meet, meets, by simpa using small⟩
  obtain ⟨sketch, decodes, shaped⟩ := wellFormed
  obtain ⟨next, run, after⟩ := meets.update_shaped small shaped
  exact (returns_intersectionAccum owns start decodes.wrap run).imp fun result final _ done =>
    done.proper after

/-- Accumulating into an object of another class does not return. -/
theorem ends_wrongClass {A B : Type} {members : Object → Option A} {target : HandleClass}
    {address : ℕ} {object : Object} {next : A → HeapM B} {post : B → Heap → Prop}
    (owns : heap.Owns address object) (nothing : members object = none) :
    Ends (castTo target members address >>= next) heap post := by
  intro value after run
  simp only [castTo, visit, owns.cell, nothing, Bind.bind, EStateM.bind] at run
  cases run

theorem ends_accumWrong {address : ℕ} {newDefault : HeapM ℕ} {stateType : AggStateType}
    {update : ℕ → HeapM Unit} {post : Handle → Heap → Prop}
    (wrong : Ends (update address) heap fun _ _ => False) :
    Ends (do
      let state ← accumulatorState (some address) newDefault stateType
      update state
      return some state) heap post :=
  wrong.bind fun _ _ impossible => impossible.elim

theorem Heap.Accumulates.of_not {kind : HandleClass} (live : ∀ address ∈ handle, heap.Proper address)
    (wrong : ¬ heap.Accumulates kind handle) :
    ∃ address object, handle = some address ∧ heap.Owns address object ∧ object.handleClass ≠ kind := by
  cases handle with
  | none => exact absurd (by rintro _ ⟨⟩) wrong
  | some address =>
    obtain ⟨object, owns, proper⟩ := live address rfl
    refine ⟨address, object, rfl, owns, fun same => wrong ?_⟩
    rintro other member
    cases member
    exact ⟨object, owns, proper, same⟩

theorem Object.members_of_ne (object : Object) :
    (object.handleClass ≠ .updateThetaSketch → object.asUpdateThetaSketch = none) ∧
    (object.handleClass ≠ .thetaUnion → object.asThetaUnion = none) ∧
    (object.handleClass ≠ .thetaIntersection → object.asThetaIntersection = none) := by
  cases object <;> simp [handleClass, asUpdateThetaSketch, asThetaUnion, asThetaIntersection]

theorem ends_accumRow {function : AggregateFunction} {row : function.Row}
    (live : ∀ address ∈ handle, heap.Proper address) (accepts : function.accepts row) :
    Ends (function.callbacks.accum handle row) heap fun result after =>
      Frame handle.toList heap after ∧ ∀ address ∈ result, after.Proper address := by
  have skipped : Ends (pure handle) heap fun result after =>
      Frame handle.toList heap after ∧ ∀ address ∈ result, after.Proper address :=
    (Returns.pure live).ends
  by_cases right : heap.Accumulates function.accumulator handle
  · cases function with
    | build =>
      cases row with
      | none => exact skipped
      | some data => exact (returns_buildProper right (.bytes data)).ends
    | buildByHash => exact (returns_buildProper right (.hash row)).ends
    | union =>
      cases row with
      | none => exact skipped
      | some blob => exact (returns_unionProper right (accepts blob rfl)).ends
    | intersection =>
      cases row with
      | none => exact skipped
      | some blob => exact (returns_intersectionProper right (accepts blob rfl)).ends
  · obtain ⟨address, object, rfl, owns, other⟩ := Heap.Accumulates.of_not live right
    obtain ⟨noSketch, noUnion, noIntersection⟩ := object.members_of_ne
    cases function with
    | build =>
      cases row with
      | none => exact skipped
      | some data => exact ends_accumWrong (ends_wrongClass owns (noSketch other))
    | buildByHash => exact ends_accumWrong (ends_wrongClass owns (noSketch other))
    | union =>
      cases row with
      | none => exact skipped
      | some blob => exact ends_accumWrong (ends_wrongClass owns (noUnion other))
    | intersection =>
      cases row with
      | none => exact skipped
      | some blob => exact ends_accumWrong (ends_wrongClass owns (noIntersection other))

end Accumulate

/-! Merging. -/

section Merge

variable {heap : Heap} {left right : Handle}

theorem contributes_unionProper {union : ThetaUnion} (pooled : Pooled {} union) {side : Option Object}
    (proper : ∀ object ∈ side, object.Proper) :
    ∃ next, Pooled {} next ∧
      Contributes thetaUnionUpdateWithSketch (.thetaUnion union) side (.thetaUnion next) := by
  cases side with
  | none => exact ⟨union, pooled, rfl⟩
  | some object =>
    obtain ⟨view, E, shown, shaped⟩ := (proper object rfl).shown
    obtain ⟨next, run, after⟩ := pooled.update_shaped shaped
    exact ⟨next, after, contributes_union shown run⟩

theorem contributes_intersectionProper {intersection : ThetaIntersection} {state : Option Meet}
    (meets : Meets intersection state)
    (small : ∀ meet ∈ state, meet.Proper ∧ meet.keys.card + 3 < 2 ^ 29) {side : Option Object}
    (proper : ∀ object ∈ side, object.Proper) :
    ∃ next after, Meets next after ∧ (∀ meet ∈ after, meet.Proper ∧ meet.keys.card + 3 < 2 ^ 29) ∧
      (after = none → state = none ∧ side = none) ∧
      Contributes thetaIntersectionUpdateWithSketch (.thetaIntersection intersection) side
        (.thetaIntersection next) := by
  cases side with
  | none => exact ⟨intersection, state, meets, small, fun none_met => ⟨none_met, rfl⟩, rfl⟩
  | some object =>
    obtain ⟨view, E, shown, shaped⟩ := (proper object rfl).shown
    obtain ⟨next, run, after, met, bounded⟩ := meets.update_shaped small shaped
    exact ⟨next, some after, met, by simpa using bounded, by simp, contributes_intersection shown run⟩

theorem merge_proper {function : AggregateFunction} (liveLeft : ∀ address ∈ left, heap.Proper address)
    (liveRight : ∀ address ∈ right, heap.Proper address) (apart : ∀ address ∈ left, address ∉ right) :
    Returns (function.callbacks.merge left right) heap (left.toList ++ right.toList)
      fun handle after => ∀ address ∈ handle, after.Proper address := by
  obtain ⟨x, ownsLeft, properLeft⟩ := Heap.ownsHandle_of liveLeft
  obtain ⟨y, ownsRight, properRight⟩ := Heap.ownsHandle_of liveRight
  by_cases sides : left = none ∧ right = none
  · obtain ⟨rfl, rfl⟩ := sides
    cases function <;> exact .pure (by simp)
  have some_side : left ≠ none ∨ right ≠ none := by tauto
  have union : Returns (extensionSketchHandleUnionMerge left right) heap
      (left.toList ++ right.toList) fun handle after => ∀ address ∈ handle, after.Proper address := by
    obtain ⟨middle, pooled, first⟩ := contributes_unionProper (.new (by decide)) properLeft
    obtain ⟨final, pooled, second⟩ := contributes_unionProper pooled properRight
    refine (returns_unionMerge ownsLeft ownsRight apart some_side first second).imp ?_
    rintro handle after - ⟨place, rfl, _, owns⟩ address member
    cases member
    exact ⟨_, owns, pooled⟩
  cases function with
  | build => exact union
  | buildByHash => exact union
  | union => exact union
  | intersection =>
    obtain ⟨middle, earlier, meets, small, none_left, first⟩ :=
      contributes_intersectionProper .fresh (by simp) properLeft
    obtain ⟨final, state, meets, small, none_right, second⟩ :=
      contributes_intersectionProper meets small properRight
    refine (returns_intersectionMerge ownsLeft ownsRight apart some_side first second).imp ?_
    rintro handle after - ⟨place, rfl, _, owns⟩ address member
    cases member
    cases state with
    | none =>
      -- A side that is there was met.
      obtain ⟨rfl, rfl⟩ := none_right rfl
      obtain ⟨_, rfl⟩ := none_left rfl
      cases ownsLeft
      cases ownsRight
      exact absurd ⟨rfl, rfl⟩ sides
    | some meet => exact ⟨_, owns, meet, meets, small meet rfl⟩

/-! A state that is merged with itself is gone when its second turn comes. -/

theorem ends_true {A : Type} (code : HeapM A) (heap : Heap) : Ends code heap fun _ _ => True :=
  fun _ _ _ => trivial

theorem ends_gone {address : ℕ} {access : Option Cell → Access} (gone : heap.cells address = none) :
    Ends (visit address access) heap fun _ _ => False := by
  intro value after run
  simp only [visit, gone] at run
  cases run

theorem ends_castTo {A : Type} {members : Object → Option A} {target : HandleClass} {address : ℕ} :
    Ends (castTo target members address) heap fun _ after => after.cells = heap.cells := by
  intro value after run
  cases there : heap.cells address with
  | none =>
    simp only [castTo, visit, there, Bind.bind, EStateM.bind] at run
    cases run
  | some cell =>
    simp only [castTo, visit, there, Bind.bind, EStateM.bind] at run
    cases offers : members cell.object with
    | none =>
      simp only [offers] at run
      cases run
    | some value =>
      simp only [offers] at run
      cases run
      rfl

theorem ends_delete {address : ℕ} {target : HandleClass} :
    Ends (delete address target) heap fun _ after => after.cells address = none ∧
      ∀ other, heap.cells other = none → after.cells other = none := by
  intro value after run
  cases there : heap.cells address with
  | none =>
    simp only [delete, visit, there, Bind.bind, EStateM.bind] at run
    cases run
  | some cell =>
    simp only [delete, visit, there, store, Bind.bind, EStateM.bind] at run
    cases run
    refine ⟨Function.update_self _ _ _, fun other gone => ?_⟩
    by_cases same : other = address
    · rw [same]
      exact Function.update_self _ _ _
    · exact (Function.update_of_ne same _ _).trans gone

theorem ends_assign {address : ℕ} {object : Object} :
    Ends (assign address object) heap fun _ after =>
      ∀ other, heap.cells other = none → after.cells other = none := by
  intro value after run other gone
  cases run
  by_cases same : other = address
  · subst same
    simp [gone]
  · exact (Function.update_of_ne same _ _).trans gone

theorem ends_liftRun {A : Type} {run : Run A} :
    Ends (liftRun run) heap fun _ after => after.cells = heap.cells := by
  intro value after same
  cases run <;> cases same
  rfl

theorem ends_updateWithSketch {A : Type} {members : Object → Option A} {target : HandleClass}
    {update : A → SketchView → Run A} {make : A → Object} (state ptr : ℕ) (heap : Heap) :
    Ends (do
      let value ← castTo target members state
      let sketch ← toThetaSketch ptr
      let value ← liftRun (update value sketch)
      assign state (make value)) heap fun _ after =>
        ∀ other, heap.cells other = none → after.cells other = none := by
  refine ends_castTo.bind fun value first same => ?_
  refine ends_castTo.bind fun sketch second again => ?_
  refine ends_liftRun.bind fun value third last => ?_
  rw [← same, ← again, ← last]
  exact ends_assign

theorem ends_replace {address : ℕ} {target : HandleClass} {sketch : CompactSketch} :
    Ends (do
      let sketchptr ← allocate (.compactThetaSketch sketch)
      delete address target
      return sketchptr) heap fun _ after => after.cells address = none := by
  refine (ends_true _ _).bind fun sketchptr middle _ => ends_delete.bind fun _ final deleted => ?_
  intro value after run
  cases run
  exact deleted.1

theorem ends_dataGetResult {address : ℕ} :
    Ends (thetaDataGetResult address) heap fun ptr after =>
      ptr = address ∨ after.cells address = none := by
  refine (ends_true _ _).bind fun stateType middle _ => ?_
  have whole : Ends (pure address) middle fun ptr after => ptr = address ∨ after.cells address = none := by
    intro value after run
    cases run
    exact .inl rfl
  cases stateType with
  | mutableSketch => exact whole
  | immutableSketch => exact whole
  | union =>
    refine (ends_true _ _).bind fun union second _ => ?_
    exact fun value after run => .inr (ends_replace value after run)
  | intersection =>
    refine (ends_true _ _).bind fun intersection second _ => ?_
    refine (ends_true _ _).bind fun sketch third _ => ?_
    exact fun value after run => .inr (ends_replace value after run)

theorem ends_mergeSelf {updateWithSketch : ℕ → ℕ → HeapM Unit} {state address : ℕ}
    (keeps : ∀ ptr heap, Ends (updateWithSketch state ptr) heap fun _ after =>
      ∀ other, heap.cells other = none → after.cells other = none) {post : Handle → Heap → Prop} :
    Ends (do
      mergeSide updateWithSketch state (some address)
      mergeSide updateWithSketch state (some address)
      return some state) heap post := by
  have first : Ends (mergeSide updateWithSketch state (some address)) heap fun _ after =>
      after.cells address = none := by
    refine ends_dataGetResult.bind fun ptr middle place => ?_
    refine (keeps ptr middle).bind fun _ last kept => ?_
    intro value after run
    obtain ⟨deleted, others⟩ := ends_delete value after run
    rcases place with rfl | gone
    · exact deleted
    · exact others address (kept address gone)
  refine first.bind fun _ middle gone => ?_
  have read : Ends (thetaDataGetType address) middle fun _ _ => False :=
    (ends_gone gone).bind fun _ _ impossible => impossible.elim
  have result : Ends (thetaDataGetResult address) middle fun _ _ => False :=
    read.bind fun _ _ impossible => impossible.elim
  have second : Ends (mergeSide updateWithSketch state (some address)) middle fun _ _ => False :=
    result.bind fun _ _ impossible => impossible.elim
  exact second.bind fun _ _ impossible => impossible.elim

theorem ends_merge {function : AggregateFunction} (liveLeft : ∀ address ∈ left, heap.Proper address)
    (liveRight : ∀ address ∈ right, heap.Proper address) :
    Ends (function.callbacks.merge left right) heap fun handle after =>
      Frame (left.toList ++ right.toList) heap after ∧ ∀ address ∈ handle, after.Proper address := by
  by_cases apart : ∀ address ∈ left, address ∉ right
  · exact (merge_proper liveLeft liveRight apart).ends
  · push Not at apart
    obtain ⟨address, rfl, rfl⟩ := apart
    have union : ∀ {post}, Ends (extensionSketchHandleUnionMerge (some address) (some address)) heap post :=
      (ends_true _ _).bind fun _ _ _ => (ends_true _ _).bind fun _ _ _ =>
        ends_mergeSelf fun ptr heap => ends_updateWithSketch _ ptr heap
    cases function with
    | build => exact union
    | buildByHash => exact union
    | union => exact union
    | intersection =>
      exact (ends_true _ _).bind fun _ _ _ => (ends_true _ _).bind fun _ _ _ =>
        ends_mergeSelf fun ptr heap => ends_updateWithSketch _ ptr heap

end Merge

/-! Runs. -/

section Runs

variable {function : AggregateFunction} {heap : Heap}

theorem returns_serializeProper {address : ℕ} (live : heap.Proper address) (malloc : ℕ → UInt8) :
    Returns (extensionSketchHandleSerialize (some address) malloc) heap [address] fun blob _ =>
      WellFormed blob := by
  obtain ⟨object, owns, proper⟩ := live
  obtain ⟨sketch, finished, shaped⟩ := proper.finished
  refine (returns_handleSerialize owns finished malloc).imp ?_
  rintro _ after - rfl
  exact shaped.wellFormed malloc

theorem returns_deserializeProper {data : Blob} (wellFormed : WellFormed data) (heap : Heap) :
    Returns (extensionSketchHandleDeserialize data) heap [] fun handle after =>
      ∀ address ∈ handle, after.Proper address := by
  obtain ⟨sketch, decodes, shaped⟩ := wellFormed
  have some_data : data ≠ [] := by
    rintro rfl
    have long := length_of_wrap decodes.wrap
    simp at long
  refine (returns_handleDeserialize some_data decodes.deserialize heap).imp ?_
  rintro handle after - ⟨place, rfl, _, owns⟩ address member
  cases member
  exact ⟨_, owns, shaped⟩

theorem Callback.proper {call : Callback function.Row}
    (live : ∀ address ∈ call.handles, heap.Proper address) (feeds : call.Feeds) :
    Ends (call.code function.callbacks) heap fun handle after =>
      Frame call.handles heap after ∧ ∀ address ∈ handle, after.Proper address := by
  cases call with
  | init =>
    exact (Returns.pure (by rintro _ ⟨⟩)).ends
  | accum handle row =>
    exact ends_accumRow (fun address member => live address (by simpa [handles] using member)) feeds
  | merge left right =>
    exact ends_merge (fun address member => live address (List.mem_append_left _ (by simpa using member)))
      fun address member => live address (List.mem_append_right _ (by simpa using member))
  | serialize handle malloc =>
    cases handle with
    | none => exact (Returns.pure (by rintro _ ⟨⟩)).ends
    | some address =>
      refine Returns.ends ((returns_serializeProper (live address (by simp [handles])) malloc).andThen ?_)
      exact fun _ _ _ _ => .pure (by rintro _ ⟨⟩)
  | deserialize data =>
    rcases feeds with rfl | wellFormed
    · exact (Returns.pure (by rintro _ ⟨⟩)).ends
    · exact (returns_deserializeProper wellFormed heap).ends

theorem Session.Reached.proper {session : Session}
    (reached : session.Reached function fun _ call => call.Feeds) :
    ∀ address ∈ session.live, session.heap.Proper address := by
  refine reached.invariant fun live feeds run => ?_
  obtain ⟨frame, new⟩ := Callback.proper live feeds _ _ run
  refine ⟨fun address apart there => ?_, new⟩
  obtain ⟨object, owns, proper⟩ := there
  exact ⟨object, frame.holds owns apart, proper⟩

end Runs

/-! Scalar functions. -/

section Scalar

variable {heap : Heap} {left right blob : Blob}

theorem returns_asked {A B : Type} (wellFormed : WellFormed blob) {ask : ℕ → HeapM A}
    (answers : ∀ {heap : Heap} {ptr : ℕ} {sketch : CompactSketch},
      heap.Holds ptr (.compactThetaSketch sketch) .mutableSketch → sketch.theta ≤ maxTheta →
      Returns (ask ptr) heap [] fun _ _ => True) (answer : A → B) :
    Returns (do
      let sketchptr ← thetaSketchDeserialize blob
      let value ← ask sketchptr
      thetaSketchDelete sketchptr
      return answer value) heap [] fun _ _ => True := by
  obtain ⟨sketch, decodes, shaped⟩ := wellFormed
  refine (returns_sketchDeserialize decodes.deserialize heap).bind (fun ptr => [ptr])
    fun ptr middle _ ⟨new, made⟩ => ⟨by simpa using new, ?_⟩
  refine (answers made shaped.valid.bound).look fun value second frame _ => ?_
  exact (returns_delete (frame.holds made (by simp)) .thetaSketch).andThen fun _ _ _ _ => .pure trivial

theorem returns_getEstimate (wellFormed : WellFormed blob) :
    Returns (extensionSketchGetEstimate (some blob)) heap [] fun _ _ => True := by
  obtain ⟨_, decodes, _⟩ := id wellFormed
  rw [extensionSketchGetEstimate, bailIfShort_eq (length_of_wrap decodes.wrap)]
  refine returns_asked wellFormed (fun holds _ => ?_) id
  exact (returns_castTo Object.asThetaSketch holds _ rfl).look fun _ _ _ _ => .pure trivial

theorem returns_toString (doubles : Doubles) (wellFormed : WellFormed blob) :
    Returns (extensionSketchToString doubles (some blob)) heap [] fun _ _ => True := by
  refine returns_asked wellFormed (fun {heap ptr sketch} holds bound => ?_) some
  refine (returns_castTo Object.asThetaSketch holds _ rfl).look ?_
  rintro _ middle - rfl
  obtain ⟨text, shown⟩ := @SketchView.toText_returns doubles sketch.view bound
  exact (Returns.liftRun shown).look fun _ _ _ _ => .pure trivial

theorem union_wellFormed (first : WellFormed left) (second : WellFormed right) (malloc : ℕ → UInt8) :
    Returns (extensionSketchUnion (some left) (some right) malloc) heap [] fun blob _ =>
      WellFormed blob := by
  obtain ⟨_, decodesLeft, shapedLeft⟩ := first
  obtain ⟨_, decodesRight, shapedRight⟩ := second
  obtain ⟨middle, runLeft, pooled⟩ := (Pooled.new (by decide)).update_shaped shapedLeft
  obtain ⟨final, runRight, pooled⟩ := pooled.update_shaped shapedRight
  refine (returns_extensionSketchUnion decodesLeft.wrap decodesRight.wrap runLeft runRight malloc).imp ?_
  rintro _ after - rfl
  exact (pooled.getResult_shaped builds_default (fun _ => rfl) true).wellFormed malloc

theorem intersection_wellFormed (first : WellFormed left) (second : WellFormed right)
    (malloc : ℕ → UInt8) :
    Returns (extensionSketchIntersection (some left) (some right) malloc) heap [] fun blob _ =>
      WellFormed blob := by
  obtain ⟨_, decodesLeft, shapedLeft⟩ := first
  obtain ⟨_, decodesRight, shapedRight⟩ := second
  obtain ⟨middle, runLeft, meet, meets, small⟩ := Meets.fresh.update_shaped (by simp) shapedLeft
  obtain ⟨final, runRight, proper⟩ := meets.update_shaped (by simpa using small) shapedRight
  obtain ⟨sketch, result, shaped⟩ := proper.finished
  refine (returns_extensionSketchIntersection decodesLeft.wrap decodesRight.wrap runLeft runRight result
    malloc).imp ?_
  rintro _ after - rfl
  exact shaped.wellFormed malloc

theorem aNotB_wellFormed (first : WellFormed left) (second : WellFormed right) (malloc : ℕ → UInt8) :
    Returns (extensionSketchANotB (some left) (some right) malloc) heap [] fun blob _ =>
      WellFormed blob := by
  obtain ⟨_, decodesLeft, shapedLeft⟩ := first
  obtain ⟨_, decodesRight, shapedRight⟩ := second
  obtain ⟨theta, entries, run, _⟩ := ThetaANotB.compute_eq shapedLeft.plain shapedRight.plain
    shapedLeft.valid.seedHash shapedRight.valid.seedHash
  refine (returns_extensionSketchANotB decodesLeft.wrap decodesRight.wrap run malloc).imp ?_
  rintro _ after - rfl
  exact (aNotB_shaped shapedLeft shapedRight run).wellFormed malloc

end Scalar

/-! What comes out, and who takes it. -/

/-- A blob that an aggregate writes out of a live state, or that a scalar function returns. -/
inductive Output : Blob → Prop where
  | serialize {function : AggregateFunction} {session : Session} {address : ℕ} {malloc : ℕ → UInt8}
      {blob : Blob} {after : Heap} (reached : session.Reached function fun _ call => call.Feeds)
      (live : address ∈ session.live)
      (run : extensionSketchHandleSerialize (some address) malloc session.heap = .ok blob after) :
      Output blob
  | union {left right blob : Blob} {malloc : ℕ → UInt8} {heap after : Heap} (first : WellFormed left)
      (second : WellFormed right)
      (run : extensionSketchUnion (some left) (some right) malloc heap = .ok blob after) : Output blob
  | intersection {left right blob : Blob} {malloc : ℕ → UInt8} {heap after : Heap}
      (first : WellFormed left) (second : WellFormed right)
      (run : extensionSketchIntersection (some left) (some right) malloc heap = .ok blob after) :
      Output blob
  | aNotB {left right blob : Blob} {malloc : ℕ → UInt8} {heap after : Heap} (first : WellFormed left)
      (second : WellFormed right)
      (run : extensionSketchANotB (some left) (some right) malloc heap = .ok blob after) : Output blob

/-- Every function that takes a sketch returns when it is given the blob, next to another
one where it takes two. The accumulating callbacks are given no state or a live one of
their class. -/
structure Accepted (blob other : Blob) : Prop where
  getEstimate : ∀ heap, Returns (extensionSketchGetEstimate (some blob)) heap [] fun _ _ => True
  toString : ∀ doubles heap,
    Returns (extensionSketchToString doubles (some blob)) heap [] fun _ _ => True
  union : ∀ malloc heap,
    Returns (extensionSketchUnion (some blob) (some other) malloc) heap [] (fun _ _ => True) ∧
    Returns (extensionSketchUnion (some other) (some blob) malloc) heap [] fun _ _ => True
  intersection : ∀ malloc heap,
    Returns (extensionSketchIntersection (some blob) (some other) malloc) heap [] (fun _ _ => True) ∧
    Returns (extensionSketchIntersection (some other) (some blob) malloc) heap [] fun _ _ => True
  aNotB : ∀ malloc heap,
    Returns (extensionSketchANotB (some blob) (some other) malloc) heap [] (fun _ _ => True) ∧
    Returns (extensionSketchANotB (some other) (some blob) malloc) heap [] fun _ _ => True
  unionAccum : ∀ session : Session, session.Reached .union (fun _ call => call.Feeds) →
    ∀ handle : Handle, (∀ address ∈ handle, address ∈ session.live ∧
      ∃ cell ∈ session.heap.cells address, cell.object.handleClass = .thetaUnion) →
    Returns (extensionSketchHandleUnionAccum handle (some blob)) session.heap handle.toList
      fun _ _ => True
  intersectionAccum : ∀ session : Session, session.Reached .intersection (fun _ call => call.Feeds) →
    ∀ handle : Handle, (∀ address ∈ handle, address ∈ session.live ∧
      ∃ cell ∈ session.heap.cells address, cell.object.handleClass = .thetaIntersection) →
    Returns (extensionSketchHandleIntersectionAccum handle (some blob)) session.heap handle.toList
      fun _ _ => True
  handleDeserialize : ∀ heap, Returns (extensionSketchHandleDeserialize blob) heap [] fun _ _ => True

section Accepted

variable {blob other : Blob}

theorem Output.wellFormed (output : Output blob) : WellFormed blob := by
  cases output with
  | serialize reached live run =>
    exact ((returns_serializeProper (reached.proper _ live) _).ends _ _ run).2
  | union first second run => exact ((union_wellFormed first second _).ends _ _ run).2
  | intersection first second run => exact ((intersection_wellFormed first second _).ends _ _ run).2
  | aNotB first second run => exact ((aNotB_wellFormed first second _).ends _ _ run).2

theorem Session.Reached.accumulates {function : AggregateFunction} {session : Session}
    (reached : session.Reached function fun _ call => call.Feeds) {kind : HandleClass} {handle : Handle}
    (live : ∀ address ∈ handle, address ∈ session.live ∧
      ∃ cell ∈ session.heap.cells address, cell.object.handleClass = kind) :
    session.heap.Accumulates kind handle := by
  intro address member
  obtain ⟨alive, cell, there, same⟩ := live address member
  obtain ⟨object, owns, proper⟩ := reached.proper address alive
  cases owns.cell.symm.trans there
  exact ⟨object, owns, proper, same⟩

theorem WellFormed.accepted (first : WellFormed blob) (second : WellFormed other) :
    Accepted blob other where
  getEstimate := fun _ => returns_getEstimate first
  toString := fun doubles _ => returns_toString doubles first
  union := fun malloc _ =>
    ⟨(union_wellFormed first second malloc).imp fun _ _ _ _ => trivial,
      (union_wellFormed second first malloc).imp fun _ _ _ _ => trivial⟩
  intersection := fun malloc _ =>
    ⟨(intersection_wellFormed first second malloc).imp fun _ _ _ _ => trivial,
      (intersection_wellFormed second first malloc).imp fun _ _ _ _ => trivial⟩
  aNotB := fun malloc _ =>
    ⟨(aNotB_wellFormed first second malloc).imp fun _ _ _ _ => trivial,
      (aNotB_wellFormed second first malloc).imp fun _ _ _ _ => trivial⟩
  unionAccum := fun _ reached _ live =>
    (returns_unionProper (reached.accumulates live) first).imp fun _ _ _ _ => trivial
  intersectionAccum := fun _ reached _ live =>
    (returns_intersectionProper (reached.accumulates live) first).imp fun _ _ _ _ => trivial
  handleDeserialize := fun heap =>
    (returns_deserializeProper first heap).imp fun _ _ _ _ => trivial

end Accepted

/-- What comes out of a state or of a scalar function is well formed again, and it is
accepted everywhere, next to any other well formed blob. -/
theorem outputs_accepted {blob : Blob} (output : Output blob) :
    WellFormed blob ∧ ∀ other, WellFormed other → Accepted blob other :=
  ⟨output.wellFormed, fun _ => output.wellFormed.accepted⟩

theorem outputs_accepted_five : ∃ blob, Output blob ∧ Accepted blob blob := by
  have sound : CompactSketch.Sound ⟨false, true, computeSeedHash defaultSeed, maxTheta, [5]⟩ :=
    sound_of_entries (by decide) (by decide) le_rfl
  have wellFormed := (sound.shaped (by decide)).wellFormed fun _ => 0
  obtain ⟨blob, after, run, _⟩ := @union_wellFormed Heap.empty _ _ wellFormed wellFormed fun _ => 0
  have output : Output blob := .union wellFormed wellFormed run
  obtain ⟨shaped, accepted⟩ := outputs_accepted output
  exact ⟨blob, output, accepted blob shaped⟩

/-- An aggregate that saw no row writes an empty blob, which the scalar functions and the
accumulating callbacks reject. -/
theorem no_rows_rejected :
    (extensionSketchHandleSerialize extensionSketchHandleInit fun _ => 0).outcome = .ok [] ∧
    (∃ exit, (extensionSketchGetEstimate (some [])).outcome = .error exit) ∧
    (∃ exit, (extensionSketchUnion (some []) (some fiveBlob.bytes) fun _ => 0).outcome = .error exit) ∧
    (∃ exit, (extensionSketchIntersection (some []) (some fiveBlob.bytes) fun _ => 0).outcome =
      .error exit) ∧
    (∃ exit, (extensionSketchANotB (some []) (some fiveBlob.bytes) fun _ => 0).outcome = .error exit) ∧
    (∃ exit, (extensionSketchHandleUnionAccum none (some [])).outcome = .error exit) ∧
    ∃ exit, (extensionSketchHandleIntersectionAccum none (some [])).outcome = .error exit :=
  ⟨rfl, ⟨_, rfl⟩, ⟨_, rfl⟩, ⟨_, rfl⟩, ⟨_, rfl⟩, ⟨_, rfl⟩, ⟨_, rfl⟩⟩

end ThetaSketch
