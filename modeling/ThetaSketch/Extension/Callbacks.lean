import ThetaSketch.Extension.Ownership
import ThetaSketch.Format.ParserSafety

/-! One lemma for each callback: what it returns and which object it leaves. -/

set_option autoImplicit false

namespace ThetaSketch

namespace Object

/-- The compact sketch that `handle_serialize` writes. -/
def finished : Object → Run CompactSketch
  | updateThetaSketch sketch => sketch.compact true
  | compactThetaSketch sketch => .ok sketch
  | thetaUnion union => .ok (union.getResult true)
  | thetaIntersection intersection => intersection.getResult true

def shown : Object → Run SketchView
  | updateThetaSketch sketch => .ok sketch.view
  | object => object.finished.map CompactSketch.view

end Object

section Results

variable {heap : Heap} {address : ℕ} {stateType : AggStateType}

theorem returns_unionGetResult {union : ThetaUnion}
    (holds : heap.Holds address (.thetaUnion union) stateType) :
    Returns (thetaUnionGetResult address) heap [address] fun ptr after => heap.next ≤ ptr ∧
      after.Holds ptr (.compactThetaSketch (union.getResult true)) .mutableSketch := by
  refine (returns_toThetaUnion holds).look ?_
  rintro _ middle frame rfl
  refine (returns_replace (frame.holds holds (by simp)) _ .thetaUnion).imp ?_
  rintro ptr after - ⟨new, made⟩
  exact ⟨frame.next.trans new, made⟩

theorem returns_intersectionGetResult {intersection : ThetaIntersection} {sketch : CompactSketch}
    (holds : heap.Holds address (.thetaIntersection intersection) stateType)
    (run : intersection.getResult true = .ok sketch) :
    Returns (thetaIntersectionGetResult address) heap [address] fun ptr after => heap.next ≤ ptr ∧
      after.Holds ptr (.compactThetaSketch sketch) .mutableSketch := by
  refine (returns_toThetaIntersection holds).look ?_
  rintro _ middle frame rfl
  refine (Returns.liftRun run).look ?_
  rintro _ _ - ⟨rfl, rfl⟩
  refine (returns_replace (frame.holds holds (by simp)) _ .thetaIntersection).imp ?_
  rintro ptr after - ⟨new, made⟩
  exact ⟨frame.next.trans new, made⟩

theorem returns_sketchCompact {sketch : UpdateSketch} {compact : CompactSketch}
    (holds : heap.Holds address (.updateThetaSketch sketch) stateType)
    (run : sketch.compact true = .ok compact) :
    Returns (thetaSketchCompact address) heap [address] fun ptr after => heap.next ≤ ptr ∧
      after.Holds ptr (.compactThetaSketch compact) .mutableSketch := by
  refine (returns_toUpdateThetaSketch holds).look ?_
  rintro _ middle frame rfl
  refine (Returns.liftRun run).look ?_
  rintro _ _ - ⟨rfl, rfl⟩
  refine (returns_replace (frame.holds holds (by simp)) _ .updateThetaSketch).imp ?_
  rintro ptr after - ⟨new, made⟩
  exact ⟨frame.next.trans new, made⟩

/-- The result of a state is a sketch at the same address or at a new one. -/
theorem returns_dataGetResult {object : Object} {view : SketchView}
    (owns : heap.Owns address object) (shown : object.shown = .ok view) :
    Returns (thetaDataGetResult address) heap [address] fun ptr after =>
      (ptr = address ∨ heap.next ≤ ptr) ∧ ∃ result stateType,
        after.Holds ptr result stateType ∧ result.asThetaSketch = some view := by
  refine (returns_getType owns).look ?_
  rintro _ middle frame rfl
  have there := frame.holds owns (by simp)
  cases object with
  | updateThetaSketch sketch =>
    cases shown
    exact .pure ⟨.inl rfl, _, _, there, rfl⟩
  | compactThetaSketch sketch =>
    cases shown
    exact .pure ⟨.inl rfl, _, _, there, rfl⟩
  | thetaUnion union =>
    cases shown
    refine (returns_unionGetResult there).imp ?_
    rintro ptr after - ⟨new, made⟩
    exact ⟨.inr (frame.next.trans new), _, _, made, rfl⟩
  | thetaIntersection intersection =>
    change (intersection.getResult true).map CompactSketch.view = .ok view at shown
    cases run : intersection.getResult true with
    | error exit => rw [run] at shown; cases shown
    | ok sketch =>
      rw [run] at shown
      cases shown
      refine (returns_intersectionGetResult there run).imp ?_
      rintro ptr after - ⟨new, made⟩
      exact ⟨.inr (frame.next.trans new), _, _, made, rfl⟩

end Results

/-! Writing and reading blobs. -/

section Blobs

variable {heap : Heap} {address : ℕ} {stateType : AggStateType}

theorem CompactSketch.serialize2_ne_nil (sketch : CompactSketch) (malloc : ℕ → UInt8) :
    sketch.serialize2 malloc ≠ [] := by
  simp [serialize2, image]

theorem returns_output {sketch : CompactSketch}
    (holds : heap.Holds address (.compactThetaSketch sketch) stateType) (malloc : ℕ → UInt8) :
    Returns (do
      let output ← thetaSketchSerialize address malloc
      thetaSketchDelete address
      return output) heap [address] fun blob _ => blob = sketch.serialize2 malloc := by
  have written : Returns (thetaSketchSerialize address malloc) heap [] fun blob _ =>
      blob = sketch.serialize2 malloc := by
    refine (returns_toCompactThetaSketch holds).look ?_
    rintro _ middle - rfl
    exact .pure rfl
  refine written.look ?_
  rintro _ middle frame rfl
  refine (returns_delete (frame.holds holds (by simp)) .thetaSketch).andThen ?_
  rintro _ after - -
  exact .pure rfl

/-- Serializing consumes the state. -/
theorem returns_handleSerialize {object : Object} {sketch : CompactSketch}
    (owns : heap.Owns address object) (finished : object.finished = .ok sketch)
    (malloc : ℕ → UInt8) :
    Returns (extensionSketchHandleSerialize (some address) malloc) heap [address] fun blob _ =>
      blob = sketch.serialize2 malloc := by
  -- Every kind of state ends in a compact sketch, here or at a new address.
  have compacted : Returns (compactState address) heap [address] fun ptr after =>
      (ptr = address ∨ heap.next ≤ ptr) ∧ ∃ stateType,
        after.Holds ptr (.compactThetaSketch sketch) stateType := by
    refine (returns_getType owns).look ?_
    rintro _ first firstFrame rfl
    have there := firstFrame.holds owns (by simp)
    cases object with
    | updateThetaSketch update =>
      refine (returns_sketchCompact there finished).imp ?_
      rintro ptr after - ⟨new, made⟩
      exact ⟨.inr (firstFrame.next.trans new), _, made⟩
    | compactThetaSketch compact =>
      cases finished
      refine (returns_getType there).look ?_
      rintro _ second secondFrame rfl
      exact .pure ⟨.inl rfl, _, secondFrame.holds there (by simp)⟩
    | thetaUnion union =>
      cases finished
      refine (returns_getType there).look ?_
      rintro _ second secondFrame rfl
      refine (returns_unionGetResult (secondFrame.holds there (by simp))).imp ?_
      rintro ptr after - ⟨new, made⟩
      exact ⟨.inr ((firstFrame.next.trans secondFrame.next).trans new), _, made⟩
    | thetaIntersection intersection =>
      refine (returns_getType there).look ?_
      rintro _ second secondFrame rfl
      refine (returns_intersectionGetResult (secondFrame.holds there (by simp)) finished).imp ?_
      rintro ptr after - ⟨new, made⟩
      exact ⟨.inr ((firstFrame.next.trans secondFrame.next).trans new), _, made⟩
  refine compacted.bind (fun ptr => [ptr]) fun ptr second frame ⟨place, stateType, made⟩ =>
    ⟨?_, returns_output made malloc⟩
  simpa using place

theorem returns_sketchDeserialize {data : Blob} {sketch : CompactSketch}
    (run : CompactSketch.deserialize data defaultSeed = .ok sketch) (heap : Heap) :
    Returns (thetaSketchDeserialize data) heap [] fun ptr after =>
      heap.next ≤ ptr ∧ after.Holds ptr (.compactThetaSketch sketch) .mutableSketch := by
  refine (Returns.liftRun run).look ?_
  rintro _ _ - ⟨rfl, rfl⟩
  exact returns_fresh _ heap

theorem returns_handleDeserialize {data : Blob} {sketch : CompactSketch} (some : data ≠ [])
    (run : CompactSketch.deserialize data defaultSeed = .ok sketch) (heap : Heap) :
    Returns (extensionSketchHandleDeserialize data) heap [] fun handle after =>
      ∃ address, handle = Option.some address ∧ heap.next ≤ address ∧
        after.Owns address (.compactThetaSketch sketch) := by
  have long : data.length ≠ 0 := fun short => some (List.length_eq_zero_iff.mp short)
  rw [extensionSketchHandleDeserialize, if_neg long]
  refine (returns_sketchDeserialize run heap).bind (fun ptr => [ptr]) fun ptr middle frame read =>
    ⟨fun address member => .inr (List.mem_singleton.mp member ▸ read.1), ?_⟩
  refine (returns_setType read.2 .immutableSketch).andThen ?_
  rintro _ after - tagged
  exact .pure ⟨ptr, rfl, read.1, tagged⟩

end Blobs

/-! Accumulating. -/

/-- What is known of a handle: nothing is there, or an object that it owns. -/
inductive Heap.OwnsHandle (heap : Heap) : Handle → Option Object → Prop where
  | none : heap.OwnsHandle .none .none
  | some {address : ℕ} {object : Object} (owns : heap.Owns address object) :
      heap.OwnsHandle (.some address) (.some object)

theorem Heap.OwnsHandle.below {heap : Heap} {handle : Handle} {state : Option Object}
    (owns : heap.OwnsHandle handle state) : ∀ address ∈ handle, address < heap.next := by
  cases owns with
  | none => simp
  | some owns => simpa using Heap.Holds.below owns

theorem Heap.OwnsHandle.frame {before after : Heap} {owned : List ℕ} {handle : Handle}
    {state : Option Object} (owns : before.OwnsHandle handle state)
    (frame : Frame owned before after) (apart : ∀ address ∈ handle, address ∉ owned) :
    after.OwnsHandle handle state := by
  cases owns with
  | none => exact .none
  | some owns => exact .some (frame.holds owns (apart _ rfl))

section Accumulate

variable {heap : Heap} {handle : Handle} {state : Option Object}

theorem returns_tagged (object : Object) (heap : Heap) :
    Returns (do
      let state ← allocate object
      thetaDataSetType state object.stateType
      return state) heap [] fun address after =>
        heap.next ≤ address ∧ after.Owns address object := by
  refine (returns_allocate object heap).bind (fun address => [address]) fun address middle _ ⟨same, made⟩ =>
    ⟨fun other member => ?_, ?_⟩
  · exact .inr (List.mem_singleton.mp member ▸ same.ge)
  · refine (returns_setType made object.stateType).andThen ?_
    rintro _ after - tagged
    exact .pure ⟨same.ge, tagged⟩

theorem returns_accumulatorState (object : Object) (owns : heap.OwnsHandle handle state) :
    Returns (accumulatorState handle (allocate object) object.stateType) heap handle.toList
      fun address after => (address ∈ handle.toList ∨ heap.next ≤ address) ∧
        after.Owns address (state.getD object) := by
  cases owns with
  | none =>
    refine (returns_tagged object heap).imp ?_
    rintro address after - ⟨new, there⟩
    exact ⟨.inr new, there⟩
  | some owns => exact .pure ⟨.inl (by simp), owns⟩

theorem returns_accum {object next : Object} {update : ℕ → HeapM Unit}
    (owns : heap.OwnsHandle handle state)
    (step : ∀ address middle, middle.Owns address (state.getD object) →
      Returns (update address) middle [address] fun _ after => after.Owns address next) :
    Returns (do
      let state ← accumulatorState handle (allocate object) object.stateType
      update state
      return some state) heap handle.toList fun result after =>
        ∃ address, result = some address ∧ (address ∈ handle.toList ∨ heap.next ≤ address) ∧
          after.Owns address next := by
  refine (returns_accumulatorState object owns).bind (fun address => [address]) fun address middle _ ⟨place, there⟩ =>
    ⟨fun other member => List.mem_singleton.mp member ▸ place, ?_⟩
  refine (step address middle there).andThen ?_
  rintro _ after - done
  exact .pure ⟨address, rfl, place, done⟩

end Accumulate

/-! Merging. -/

/-- Merging a side into an object of the new state turns it into `next`. -/
def Contributes (updateWithSketch : ℕ → ℕ → HeapM Unit) (target : Object) (side : Option Object)
    (next : Object) : Prop :=
  match side with
  | none => next = target
  | some object => ∃ view, object.shown = .ok view ∧
      ∀ heap state ptr result stateType, Heap.Owns heap state target →
        heap.Holds ptr result stateType → result.asThetaSketch = some view →
        Returns (updateWithSketch state ptr) heap [state] fun _ after => after.Owns state next

section Merge

variable {heap : Heap} {updateWithSketch : ℕ → ℕ → HeapM Unit} {left right : Handle}
  {x y : Option Object} {fresh middle final : Object}

theorem returns_mergeSide {state : ℕ} {side : Handle} {object : Option Object}
    (owns : heap.OwnsHandle side object) (target : heap.Owns state fresh) (apart : state ∉ side)
    (contributes : Contributes updateWithSketch fresh object final) :
    Returns (mergeSide updateWithSketch state side) heap (state :: side.toList) fun _ after =>
      after.Owns state final := by
  cases owns with
  | none =>
    cases contributes
    exact .pure target
  | @some address object owns =>
    obtain ⟨view, shown, update⟩ := contributes
    have other : state ≠ address := fun same => apart (same ▸ rfl)
    -- `get_result` deletes a union or an intersection and leaves the merged state alone.
    have read : Returns (thetaDataGetResult address) heap [state, address] fun ptr after =>
        (ptr = address ∨ heap.next ≤ ptr) ∧ ∃ result stateType, after.Owns state fresh ∧
          after.Holds ptr result stateType ∧ result.asThetaSketch = some view := by
      refine (returns_dataGetResult owns shown).weaken (by simp) ?_
      rintro ptr after frame ⟨place, result, stateType, there, shows⟩
      exact ⟨place, result, stateType, frame.holds target (by simpa using other), there, shows⟩
    refine read.bind (fun ptr => [state, ptr]) fun ptr second frame ⟨place, result, stateType, kept, there, shows⟩ =>
      ⟨?_, ?_⟩
    · rintro visited (_ | ⟨_, _ | ⟨_, impossible⟩⟩)
      · exact .inl (by simp)
      · exact place.imp (fun same => by simp [same]) id
      · cases impossible
    · have below := target.below
      have distinct : ptr ≠ state := by
        rcases place with rfl | new
        · exact other.symm
        · omega
      -- The result is read once more when it is deleted.
      have updated : Returns (updateWithSketch state ptr) second [state, ptr] fun _ after =>
          after.Owns state final ∧ after.Holds ptr result stateType := by
        refine (update second state ptr result stateType kept there shows).weaken (by simp) ?_
        rintro _ after step done
        exact ⟨done, step.holds there (by simpa using distinct)⟩
      refine updated.andThen ?_
      rintro _ third - ⟨done, still⟩
      refine (returns_delete still .thetaSketch).weaken (by simp) ?_
      rintro _ after step -
      exact step.holds done (by simpa using distinct.symm)

theorem returns_merge (ownsLeft : heap.OwnsHandle left x) (ownsRight : heap.OwnsHandle right y)
    (apart : ∀ address ∈ left, address ∉ right)
    (first : Contributes updateWithSketch fresh x middle)
    (second : Contributes updateWithSketch middle y final) :
    Returns (do
      let state ← allocate fresh
      thetaDataSetType state fresh.stateType
      mergeSide updateWithSketch state left
      mergeSide updateWithSketch state right
      return some state) heap (left.toList ++ right.toList) fun handle after =>
        ∃ address, handle = some address ∧ heap.next ≤ address ∧ after.Owns address final := by
  have begun : Returns (allocate fresh) heap (left.toList ++ right.toList) fun state after =>
      Frame [] heap after ∧ state = heap.next ∧ after.Holds state fresh .mutableSketch :=
    (returns_allocate fresh heap).weaken (by simp) fun _ _ frame made => ⟨frame, made⟩
  refine begun.bind (fun state => state :: (left.toList ++ right.toList))
    fun state start _ ⟨frame, same, made⟩ => ⟨?_, ?_⟩
  · rintro visited (_ | ⟨_, member⟩)
    · exact .inr same.ge
    · exact .inl member
  -- The merged state is a new object.
  have leftNew : state ∉ left := fun member => (ownsLeft.below state member).ne same
  have rightNew : state ∉ right := fun member => (ownsRight.below state member).ne same
  have tagged : Returns (thetaDataSetType state fresh.stateType) start
      (state :: (left.toList ++ right.toList)) fun _ after =>
      after.Owns state fresh ∧ after.OwnsHandle left x ∧ after.OwnsHandle right y := by
    refine (returns_setType made fresh.stateType).weaken (by simp) ?_
    rintro _ after step done
    refine ⟨done, (ownsLeft.frame frame (by simp)).frame step ?_,
      (ownsRight.frame frame (by simp)).frame step ?_⟩
    · rintro other member inside
      exact leftNew (List.mem_singleton.mp inside ▸ member)
    · rintro other member inside
      exact rightNew (List.mem_singleton.mp inside ▸ member)
  refine tagged.andThen ?_
  rintro _ ready - ⟨there, ownsLeft, ownsRight⟩
  -- The right state is still there when the left one is gone.
  have joined : Returns (mergeSide updateWithSketch state left) ready
      (state :: (left.toList ++ right.toList)) fun _ after =>
      after.Owns state middle ∧ after.OwnsHandle right y := by
    refine (returns_mergeSide ownsLeft there leftNew first).weaken ?_ ?_
    · intro visited member
      rcases List.mem_cons.mp member with rfl | member
      · exact .inl List.mem_cons_self
      · exact .inl (List.mem_cons_of_mem _ (List.mem_append_left _ member))
    · rintro _ after step done
      refine ⟨done, ownsRight.frame step fun other inside touched => ?_⟩
      rcases List.mem_cons.mp touched with rfl | member
      · exact rightNew inside
      · exact apart other (by simpa using member) inside
  refine joined.andThen ?_
  rintro _ third - ⟨there, ownsRight⟩
  refine Returns.andThen ((returns_mergeSide ownsRight there rightNew second).weaken ?_
    fun _ _ _ done => done) ?_
  · intro visited member
    rcases List.mem_cons.mp member with rfl | member
    · exact .inl List.mem_cons_self
    · exact .inl (List.mem_cons_of_mem _ (List.mem_append_right _ member))
  · rintro _ after - done
    exact .pure ⟨state, rfl, same.ge, done⟩

end Merge

/-! What changes an object in place: a cast, computations and an assignment. -/

section Updates

variable {heap : Heap} {address : ℕ} {stateType : AggStateType} {bytes : Blob} {view : SketchView}
  {A : Type} {members : Object → Option A} {target : HandleClass} {make : A → Object} {value next : A}

theorem returns_updated {compute : A → Run A} (holds : heap.Holds address (make value) stateType)
    (offers : members (make value) = some value) (run : compute value = .ok next) :
    Returns (do
      let value ← castTo target members address
      let value ← liftRun (compute value)
      assign address (make value)) heap [address] fun _ after =>
        after.Holds address (make next) stateType := by
  refine (returns_castTo members holds target offers).look ?_
  rintro _ middle frame rfl
  refine (Returns.liftRun run).look ?_
  rintro _ _ - ⟨rfl, rfl⟩
  exact returns_assign (frame.holds holds (by simp)) (make next)

theorem returns_updatedWithBytes {update : A → SketchView → Run A}
    (holds : heap.Holds address (make value) stateType)
    (offers : members (make value) = some value) (wrapped : wrap bytes defaultSeed false = .ok view)
    (run : update value view = .ok next) :
    Returns (do
      let value ← castTo target members address
      let sketch ← liftRun (wrap bytes defaultSeed false)
      let value ← liftRun (update value sketch)
      assign address (make value)) heap [address] fun _ after =>
        after.Holds address (make next) stateType := by
  refine (returns_castTo members holds target offers).look ?_
  rintro _ middle frame rfl
  refine (Returns.liftRun wrapped).look ?_
  rintro _ _ - ⟨rfl, rfl⟩
  refine (Returns.liftRun run).look ?_
  rintro _ _ - ⟨rfl, rfl⟩
  exact returns_assign (frame.holds holds (by simp)) (make next)

theorem contributes_updated {update : A → SketchView → Run A} {object : Object}
    (offers : members (make value) = some value)
    (same : (make value).stateType = (make next).stateType) (shown : object.shown = .ok view)
    (run : update value view = .ok next) :
    Contributes (fun state ptr => do
      let value ← castTo target members state
      let sketch ← toThetaSketch ptr
      let value ← liftRun (update value sketch)
      assign state (make value)) (make value) (some object) (make next) := by
  refine ⟨view, shown, fun heap state ptr result stateType owns holds shows => ?_⟩
  refine (returns_castTo members owns target offers).look ?_
  rintro _ first firstFrame rfl
  refine (returns_castTo Object.asThetaSketch (firstFrame.holds holds (by simp)) _ shows).look ?_
  rintro _ second secondFrame rfl
  refine (Returns.liftRun run).look ?_
  rintro _ _ - ⟨rfl, rfl⟩
  have there := secondFrame.holds (firstFrame.holds owns (by simp)) (by simp)
  rw [same] at there
  exact returns_assign there (make next)

end Updates

/-! The aggregates. -/

section Aggregates

variable {heap : Heap} {handle left right : Handle} {state x y : Option Object} {bytes : Blob}
  {view : SketchView} {address : ℕ} {stateType : AggStateType}

theorem returns_unionUpdateWithBytes {union next : ThetaUnion}
    (holds : heap.Holds address (.thetaUnion union) stateType)
    (wrapped : wrap bytes defaultSeed false = .ok view) (run : union.update view = .ok next) :
    Returns (thetaUnionUpdateWithBytes address bytes) heap [address] fun _ after =>
      after.Holds address (.thetaUnion next) stateType :=
  returns_updatedWithBytes holds rfl wrapped run

theorem returns_intersectionUpdateWithBytes {intersection next : ThetaIntersection}
    (holds : heap.Holds address (.thetaIntersection intersection) stateType)
    (wrapped : wrap bytes defaultSeed false = .ok view) (run : intersection.update view = .ok next) :
    Returns (thetaIntersectionUpdateWithBytes address bytes) heap [address] fun _ after =>
      after.Holds address (.thetaIntersection next) stateType :=
  returns_updatedWithBytes holds rfl wrapped run

theorem contributes_union {union next : ThetaUnion} {object : Object} (shown : object.shown = .ok view)
    (run : union.update view = .ok next) :
    Contributes thetaUnionUpdateWithSketch (.thetaUnion union) (some object) (.thetaUnion next) :=
  contributes_updated rfl rfl shown run

theorem contributes_intersection {intersection next : ThetaIntersection} {object : Object}
    (shown : object.shown = .ok view) (run : intersection.update view = .ok next) :
    Contributes thetaIntersectionUpdateWithSketch (.thetaIntersection intersection) (some object)
      (.thetaIntersection next) :=
  contributes_updated rfl rfl shown run

/-- The handle that an accumulating callback returns. -/
def Accumulated (before : Heap) (handle : Handle) (object : Object) (result : Handle) (after : Heap) :
    Prop :=
  ∃ address, result = some address ∧ (address ∈ handle.toList ∨ before.next ≤ address) ∧
    after.Owns address object

theorem returns_unionAccum {union next : ThetaUnion} (owns : heap.OwnsHandle handle state)
    (start : state.getD (.thetaUnion (ThetaUnion.new {})) = .thetaUnion union)
    (wrapped : wrap bytes defaultSeed false = .ok view) (run : union.update view = .ok next) :
    Returns (extensionSketchHandleUnionAccum handle (some bytes)) heap handle.toList
      (Accumulated heap handle (.thetaUnion next)) := by
  refine @returns_accum heap handle state (.thetaUnion (ThetaUnion.new {})) _ _ owns ?_
  intro address middle there
  have there : middle.Owns address (.thetaUnion union) := start ▸ there
  exact returns_unionUpdateWithBytes there wrapped run

theorem returns_intersectionAccum {intersection next : ThetaIntersection}
    (owns : heap.OwnsHandle handle state)
    (start : state.getD (.thetaIntersection (ThetaIntersection.new defaultSeed)) =
      .thetaIntersection intersection)
    (wrapped : wrap bytes defaultSeed false = .ok view) (run : intersection.update view = .ok next) :
    Returns (extensionSketchHandleIntersectionAccum handle (some bytes)) heap handle.toList
      (Accumulated heap handle (.thetaIntersection next)) := by
  refine @returns_accum heap handle state
    (.thetaIntersection (ThetaIntersection.new defaultSeed)) _ _ owns ?_
  intro address middle there
  have there : middle.Owns address (.thetaIntersection intersection) := start ▸ there
  exact returns_intersectionUpdateWithBytes there wrapped run

theorem returns_buildAccum {sketch next : UpdateSketch} (owns : heap.OwnsHandle handle state)
    (start : state.getD (.updateThetaSketch (UpdateSketch.new {})) = .updateThetaSketch sketch)
    (run : sketch.update bytes = .ok next) :
    Returns (extensionSketchHandleBuildAccum handle (some bytes)) heap handle.toList
      (Accumulated heap handle (.updateThetaSketch next)) := by
  refine @returns_accum heap handle state (.updateThetaSketch (UpdateSketch.new {})) _ _ owns ?_
  intro address middle there
  have there : middle.Owns address (.updateThetaSketch sketch) := start ▸ there
  exact returns_updated there rfl run

theorem returns_buildAccumByHash {sketch next : UpdateSketch} {hash : UInt64}
    (owns : heap.OwnsHandle handle state)
    (start : state.getD (.updateThetaSketch (UpdateSketch.new {})) = .updateThetaSketch sketch)
    (run : sketch.updateByHash hash.toNat = .ok next) :
    Returns (extensionSketchHandleBuildAccumByHash handle hash) heap handle.toList
      (Accumulated heap handle (.updateThetaSketch next)) := by
  refine @returns_accum heap handle state (.updateThetaSketch (UpdateSketch.new {})) _ _ owns ?_
  intro address middle there
  have there : middle.Owns address (.updateThetaSketch sketch) := start ▸ there
  exact returns_updated there rfl run

theorem returns_unionMerge {middle final : Object} (ownsLeft : heap.OwnsHandle left x)
    (ownsRight : heap.OwnsHandle right y) (apart : ∀ address ∈ left, address ∉ right)
    (some_side : left ≠ none ∨ right ≠ none)
    (first : Contributes thetaUnionUpdateWithSketch (.thetaUnion (ThetaUnion.new {})) x middle)
    (second : Contributes thetaUnionUpdateWithSketch middle y final) :
    Returns (extensionSketchHandleUnionMerge left right) heap (left.toList ++ right.toList)
      fun handle after => ∃ address, handle = some address ∧ heap.next ≤ address ∧
        after.Owns address final := by
  have proceeds : (left.isNone && right.isNone) = false := by
    cases left <;> cases right <;> simp_all
  rw [extensionSketchHandleUnionMerge, proceeds]
  exact returns_merge ownsLeft ownsRight apart first second

theorem returns_intersectionMerge {middle final : Object} (ownsLeft : heap.OwnsHandle left x)
    (ownsRight : heap.OwnsHandle right y) (apart : ∀ address ∈ left, address ∉ right)
    (some_side : left ≠ none ∨ right ≠ none)
    (first : Contributes thetaIntersectionUpdateWithSketch
      (.thetaIntersection (ThetaIntersection.new defaultSeed)) x middle)
    (second : Contributes thetaIntersectionUpdateWithSketch middle y final) :
    Returns (extensionSketchHandleIntersectionMerge left right) heap (left.toList ++ right.toList)
      fun handle after => ∃ address, handle = some address ∧ heap.next ≤ address ∧
        after.Owns address final := by
  have proceeds : (left.isNone && right.isNone) = false := by
    cases left <;> cases right <;> simp_all
  rw [extensionSketchHandleIntersectionMerge, proceeds]
  exact returns_merge ownsLeft ownsRight apart first second

end Aggregates

/-! Scalar functions. -/

section Scalar

variable {heap : Heap} {left right : Blob} {viewLeft viewRight : SketchView}

theorem length_of_wrap {bytes : Blob} {view : SketchView}
    (wrapped : wrap bytes defaultSeed false = .ok view) : 8 ≤ bytes.length := by
  unfold wrap CompactThetaSketchParser.parse at wrapped
  obtain ⟨data, parsed, _⟩ := Run.bind_eq_ok.mp wrapped
  exact ((CompactThetaSketchParser.checkMemorySize_guards _ _ _).bind_eq_ok.mp parsed).1

theorem bailIfShort_eq {bytes : Blob} (long : 8 ≤ bytes.length) : bailIfShort bytes = pure () := by
  rw [bailIfShort, if_neg (not_lt.mpr long)]

theorem returns_scalar {updateWithBytes : ℕ → Blob → HeapM Unit} {getResult : ℕ → HeapM ℕ}
    {fresh middle final : Object} {sketch : CompactSketch} (longLeft : 8 ≤ left.length)
    (longRight : 8 ≤ right.length)
    (first : ∀ state heap, Heap.Holds heap state fresh .mutableSketch →
      Returns (updateWithBytes state left) heap [state] fun _ after =>
        after.Holds state middle .mutableSketch)
    (second : ∀ state heap, Heap.Holds heap state middle .mutableSketch →
      Returns (updateWithBytes state right) heap [state] fun _ after =>
        after.Holds state final .mutableSketch)
    (result : ∀ state heap, Heap.Holds heap state final .mutableSketch →
      Returns (getResult state) heap [state] fun ptr after => heap.next ≤ ptr ∧
        after.Holds ptr (.compactThetaSketch sketch) .mutableSketch)
    (malloc : ℕ → UInt8) :
    Returns (do
      let state ← allocate fresh
      updateWithArgument updateWithBytes state (some left)
      updateWithArgument updateWithBytes state (some right)
      let sketchptr ← getResult state
      let output ← thetaSketchSerialize sketchptr malloc
      thetaSketchDelete sketchptr
      return output) heap [] fun blob _ => blob = sketch.serialize2 malloc := by
  refine (returns_allocate fresh heap).bind (fun state => [state]) fun state start _ ⟨same, made⟩ =>
    ⟨fun other member => .inr (List.mem_singleton.mp member ▸ same.ge), ?_⟩
  rw [updateWithArgument, updateWithArgument, bailIfShort_eq longLeft, bailIfShort_eq longRight]
  refine (first state start made).andThen ?_
  rintro _ ready - there
  refine (second state ready there).andThen ?_
  rintro _ done - there
  refine (result state done there).bind (fun ptr => [ptr]) ?_
  rintro ptr last - ⟨new, written⟩
  exact ⟨fun other member => .inr (List.mem_singleton.mp member ▸ new), returns_output written malloc⟩

theorem returns_extensionSketchUnion {first second : ThetaUnion}
    (wrappedLeft : wrap left defaultSeed false = .ok viewLeft)
    (wrappedRight : wrap right defaultSeed false = .ok viewRight)
    (updateLeft : (ThetaUnion.new {}).update viewLeft = .ok first)
    (updateRight : first.update viewRight = .ok second) (malloc : ℕ → UInt8) :
    Returns (extensionSketchUnion (some left) (some right) malloc) heap [] fun blob _ =>
      blob = (second.getResult true).serialize2 malloc :=
  returns_scalar (length_of_wrap wrappedLeft) (length_of_wrap wrappedRight)
    (fun _ _ holds => returns_unionUpdateWithBytes holds wrappedLeft updateLeft)
    (fun _ _ holds => returns_unionUpdateWithBytes holds wrappedRight updateRight)
    (fun _ _ holds => returns_unionGetResult holds) malloc

theorem returns_extensionSketchIntersection {first second : ThetaIntersection}
    {sketch : CompactSketch} (wrappedLeft : wrap left defaultSeed false = .ok viewLeft)
    (wrappedRight : wrap right defaultSeed false = .ok viewRight)
    (updateLeft : (ThetaIntersection.new defaultSeed).update viewLeft = .ok first)
    (updateRight : first.update viewRight = .ok second)
    (result : second.getResult true = .ok sketch) (malloc : ℕ → UInt8) :
    Returns (extensionSketchIntersection (some left) (some right) malloc) heap [] fun blob _ =>
      blob = sketch.serialize2 malloc :=
  returns_scalar (length_of_wrap wrappedLeft) (length_of_wrap wrappedRight)
    (fun _ _ holds => returns_intersectionUpdateWithBytes holds wrappedLeft updateLeft)
    (fun _ _ holds => returns_intersectionUpdateWithBytes holds wrappedRight updateRight)
    (fun _ _ holds => returns_intersectionGetResult holds result) malloc

theorem returns_extensionSketchANotB {sketch : CompactSketch}
    (wrappedLeft : wrap left defaultSeed false = .ok viewLeft)
    (wrappedRight : wrap right defaultSeed false = .ok viewRight)
    (run : (ThetaANotB.new defaultSeed).compute viewLeft viewRight true = .ok sketch)
    (malloc : ℕ → UInt8) :
    Returns (extensionSketchANotB (some left) (some right) malloc) heap [] fun blob _ =>
      blob = sketch.serialize2 malloc := by
  rw [extensionSketchANotB, bailIfShort_eq (length_of_wrap wrappedLeft),
    bailIfShort_eq (length_of_wrap wrappedRight)]
  have computed : Returns (thetaANotB left right) heap [] fun ptr after => heap.next ≤ ptr ∧
      after.Holds ptr (.compactThetaSketch sketch) .mutableSketch := by
    refine (Returns.liftRun wrappedLeft).look ?_
    rintro _ _ - ⟨rfl, rfl⟩
    refine (Returns.liftRun wrappedRight).look ?_
    rintro _ _ - ⟨rfl, rfl⟩
    refine (Returns.liftRun run).look ?_
    rintro _ _ - ⟨rfl, rfl⟩
    exact returns_fresh _ heap
  refine computed.bind (fun ptr => [ptr]) fun ptr middle _ made =>
    ⟨fun other member => .inr (List.mem_singleton.mp member ▸ made.1), returns_output made.2 malloc⟩

end Scalar

end ThetaSketch
