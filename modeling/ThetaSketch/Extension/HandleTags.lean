import ThetaSketch.Extension.Sessions
import ThetaSketch.Extension.UnionPlans

/-! Which runs of callbacks take every object for what it is.

A handle does not say what lies behind it. Some callbacks ask the tag, others cast
at once, and a theta intersection has no tag. What is proved here holds whether a
call returns or fails on the way.
-/

set_option autoImplicit false

namespace ThetaSketch

/-- The object is there, it is of the class that the code takes it for, and a tag
that is read is the one of its class. -/
def Access.Sound : Access → Prop
  | cast cell target => ∃ found ∈ cell, found.object.handleClass.derivesFrom target = true
  | setType cell => ∃ found ∈ cell, found.object.handleClass.derivesFrom .thetaData = true
  | getType cell => ∃ found ∈ cell, found.object.handleClass.derivesFrom .thetaData = true ∧
      found.stateType = found.object.stateType

def Heap.Sound (heap : Heap) : Prop := ∀ access ∈ heap.accesses, access.Sound

/-- However the code ends, it adds sound accesses only. If it returns, it touched the
owned cells only, and `post` holds. -/
def Keeps {A : Type} (code : HeapM A) (before : Heap) (owned : List ℕ) (post : A → Heap → Prop) :
    Prop :=
  match code before with
  | .ok value after => (before.Sound → after.Sound) ∧ Frame owned before after ∧ post value after
  | .error _ after => before.Sound → after.Sound

namespace Keeps

variable {A B : Type} {code : HeapM A} {before : Heap} {owned : List ℕ} {post : A → Heap → Prop}

theorem bind {next : A → HeapM B} {final : B → Heap → Prop} (first : Keeps code before owned post)
    (more : A → List ℕ)
    (rest : ∀ value middle, Frame owned before middle → post value middle →
      (∀ address ∈ more value, address ∈ owned ∨ before.next ≤ address) ∧
        Keeps (next value) middle (more value) final) :
    Keeps (code >>= next) before owned final := by
  unfold Keeps at first ⊢
  simp only [Bind.bind, EStateM.bind]
  cases run : code before with
  | error exit after => simpa only [run] using first
  | ok value middle =>
    simp only [run] at first
    obtain ⟨sound, frame, holds⟩ := first
    obtain ⟨new, step⟩ := rest value middle frame holds
    unfold Keeps at step
    dsimp only
    cases again : next value middle with
    | error exit after =>
      simp only [again] at step
      exact step ∘ sound
    | ok result after =>
      simp only [again] at step
      exact ⟨step.1 ∘ sound, frame.trans step.2.1 new, step.2.2⟩

theorem weaken {wider : List ℕ} {other : A → Heap → Prop} (keeps : Keeps code before owned post)
    (inside : ∀ address ∈ owned, address ∈ wider ∨ before.next ≤ address)
    (imp : ∀ value after, Frame owned before after → post value after → other value after) :
    Keeps code before wider other := by
  unfold Keeps at keeps ⊢
  cases run : code before with
  | error exit after => simpa only [run] using keeps
  | ok value after =>
    simp only [run] at keeps
    obtain ⟨sound, frame, holds⟩ := keeps
    exact ⟨sound, (Frame.refl wider before).trans frame inside, imp value after frame holds⟩

theorem imp {other : A → Heap → Prop} (keeps : Keeps code before owned post)
    (imp : ∀ value after, Frame owned before after → post value after → other value after) :
    Keeps code before owned other :=
  keeps.weaken (fun _ => Or.inl) imp

theorem andThen {next : A → HeapM B} {final : B → Heap → Prop}
    (first : Keeps code before owned post)
    (rest : ∀ value middle, Frame owned before middle → post value middle →
      Keeps (next value) middle owned final) :
    Keeps (code >>= next) before owned final :=
  first.bind (fun _ => owned) fun value middle frame holds =>
    ⟨fun _ => Or.inl, rest value middle frame holds⟩

theorem look {next : A → HeapM B} {final : B → Heap → Prop} (first : Keeps code before [] post)
    (rest : ∀ value middle, Frame [] before middle → post value middle →
      Keeps (next value) middle owned final) :
    Keeps (code >>= next) before owned final := by
  have wide : Keeps code before owned fun value after => Frame [] before after ∧ post value after :=
    first.weaken (by simp) fun _ _ frame holds => ⟨frame, holds⟩
  exact wide.andThen fun value middle _ both => rest value middle both.1 both.2

theorem pure {value : A} (holds : post value before) :
    Keeps (Pure.pure value) before owned post :=
  ⟨id, Frame.refl _ _, holds⟩

theorem liftRun (run : Run A) :
    Keeps (ThetaSketch.liftRun run) before [] fun _ after => before = after := by
  cases run with
  | ok value => exact ⟨id, Frame.refl _ _, rfl⟩
  | error exit => exact id

theorem of_returns (returns : Returns code before owned post)
    (sound : ∀ value after, code before = .ok value after → before.Sound → after.Sound) :
    Keeps code before owned post := by
  obtain ⟨value, after, run, frame, holds⟩ := returns
  unfold Keeps
  rw [run]
  exact ⟨sound value after run, frame, holds⟩

end Keeps

section Primitives

variable {heap : Heap} {address : ℕ} {object : Object} {stateType : AggStateType}

theorem keeps_allocate (object : Object) (heap : Heap) :
    Keeps (allocate object) heap [] fun ptr after =>
      ptr = heap.next ∧ after.Holds ptr object .mutableSketch := by
  refine .of_returns (returns_allocate object heap) fun value after run sound => ?_
  cases run
  exact sound

theorem keeps_visit (holds : heap.Holds address object stateType) (access : Option Cell → Access)
    (right : (access (some ⟨object, stateType⟩)).Sound) :
    Keeps (visit address access) heap [] fun cell _ => cell = ⟨object, stateType⟩ := by
  refine .of_returns (returns_visit holds access) fun value after run sound => ?_
  simp only [visit, holds.cell] at run
  cases run
  intro visited member
  rcases List.mem_append.mp member with old | new
  · exact sound visited old
  · rw [List.mem_singleton.mp new]
    exact right

theorem keeps_store (below : address < heap.next) (cell : Option Cell) :
    Keeps (store address cell) heap [address] fun _ after =>
      address < after.next ∧ after.cells address = cell := by
  refine .of_returns (returns_store below cell) fun value after run sound => ?_
  cases run
  exact sound

theorem keeps_setType (holds : heap.Holds address object stateType)
    (based : object.handleClass.derivesFrom .thetaData = true) (other : AggStateType) :
    Keeps (thetaDataSetType address other) heap [address] fun _ after =>
      after.Holds address object other := by
  refine (keeps_visit holds .setType ⟨_, rfl, based⟩).look ?_
  rintro _ middle frame rfl
  refine (keeps_store (holds.below.trans_le frame.next) _).imp ?_
  exact fun _ after _ stored => ⟨stored.1, stored.2⟩

theorem keeps_getType (owns : heap.Owns address object)
    (based : object.handleClass.derivesFrom .thetaData = true) :
    Keeps (thetaDataGetType address) heap [] fun value _ => value = object.stateType := by
  refine (keeps_visit owns .getType ⟨_, rfl, based, rfl⟩).look ?_
  rintro _ middle _ rfl
  exact .pure rfl

theorem keeps_assign (holds : heap.Holds address object stateType) (other : Object) :
    Keeps (assign address other) heap [address] fun _ after =>
      after.Holds address other stateType := by
  refine .of_returns (returns_assign holds other) fun value after run sound => ?_
  cases run
  exact sound

theorem keeps_delete (holds : heap.Holds address object stateType) {target : HandleClass}
    (right : object.handleClass.derivesFrom target = true) :
    Keeps (delete address target) heap [address] fun _ _ => True := by
  refine (keeps_visit holds (.cast · target) ⟨_, rfl, right⟩).look fun _ middle frame _ => ?_
  exact (keeps_store (holds.below.trans_le frame.next) _).imp fun _ _ _ _ => trivial

theorem keeps_castTo {A : Type} {members : Object → Option A} {target : HandleClass}
    (holds : heap.Holds address object stateType)
    (right : object.handleClass.derivesFrom target = true) :
    Keeps (castTo target members address) heap [] fun value _ => members object = some value := by
  refine (keeps_visit holds (.cast · target) ⟨_, rfl, right⟩).look ?_
  rintro _ middle _ rfl
  cases offers : members object with
  | none => exact id
  | some value => exact .pure rfl

theorem keeps_replace (holds : heap.Holds address object stateType) (target : HandleClass)
    (right : object.handleClass.derivesFrom target = true) (new : Object) :
    Keeps (do
      let ptr ← allocate new
      delete address target
      return ptr) heap [address] fun ptr after =>
        heap.next ≤ ptr ∧ after.Holds ptr new .mutableSketch := by
  refine (keeps_allocate new heap).look ?_
  rintro _ middle frame ⟨rfl, made⟩
  have apart : heap.next ∉ [address] := by
    have := holds.below
    simp only [List.mem_singleton]
    omega
  refine (keeps_delete (frame.holds holds (by simp)) right).andThen ?_
  rintro _ after last -
  exact .pure ⟨Nat.le_refl _, last.holds made apart⟩

end Primitives

/-! Objects known by their class. -/

/-- An object of the class lies there under the tag of its class. -/
def Heap.Has (heap : Heap) (address : ℕ) (kind : HandleClass) : Prop :=
  ∃ object, heap.Owns address object ∧ object.handleClass = kind

def Heap.Tagged (heap : Heap) (address : ℕ) : Prop :=
  ∃ object, heap.Owns address object ∧ object.handleClass.derivesFrom .thetaData = true

theorem Heap.Has.frame {before after : Heap} {owned : List ℕ} {address : ℕ} {kind : HandleClass}
    (has : before.Has address kind) (frame : Frame owned before after) (apart : address ∉ owned) :
    after.Has address kind := by
  obtain ⟨object, owns, same⟩ := has
  exact ⟨object, frame.holds owns apart, same⟩

theorem Heap.Tagged.frame {before after : Heap} {owned : List ℕ} {address : ℕ}
    (tagged : before.Tagged address) (frame : Frame owned before after) (apart : address ∉ owned) :
    after.Tagged address := by
  obtain ⟨object, owns, based⟩ := tagged
  exact ⟨object, frame.holds owns apart, based⟩

theorem Heap.Has.tagged {heap : Heap} {address : ℕ} {kind : HandleClass}
    (has : heap.Has address kind) (based : kind.derivesFrom .thetaData = true) :
    heap.Tagged address := by
  obtain ⟨object, owns, rfl⟩ := has
  exact ⟨object, owns, based⟩

theorem derivesFrom_of_eq {actual target : HandleClass} (same : actual = target) :
    actual.derivesFrom target = true := by
  simp [HandleClass.derivesFrom, same]

theorem Object.stateType_congr {object other : Object} (same : object.handleClass = other.handleClass) :
    object.stateType = other.stateType := by
  cases object <;> cases other <;> first | rfl | cases same

section Results

variable {heap : Heap} {address : ℕ} {stateType : AggStateType}

theorem keeps_unionGetResult {union : ThetaUnion}
    (holds : heap.Holds address (.thetaUnion union) stateType) :
    Keeps (thetaUnionGetResult address) heap [address] fun ptr after => heap.next ≤ ptr ∧
      ∃ sketch, after.Holds ptr (.compactThetaSketch sketch) .mutableSketch := by
  refine (keeps_castTo holds rfl).look fun _ middle frame _ => ?_
  refine (keeps_replace (frame.holds holds (by simp)) .thetaUnion rfl _).imp ?_
  rintro ptr after - ⟨new, made⟩
  exact ⟨frame.next.trans new, _, made⟩

theorem keeps_sketchCompact {sketch : UpdateSketch}
    (holds : heap.Holds address (.updateThetaSketch sketch) stateType) :
    Keeps (thetaSketchCompact address) heap [address] fun ptr after => heap.next ≤ ptr ∧
      ∃ sketch, after.Holds ptr (.compactThetaSketch sketch) .mutableSketch := by
  refine (keeps_castTo holds rfl).look fun _ middle frame _ => ?_
  refine (Keeps.liftRun _).look ?_
  rintro _ _ - rfl
  refine (keeps_replace (frame.holds holds (by simp)) .updateThetaSketch rfl _).imp ?_
  rintro ptr after - ⟨new, made⟩
  exact ⟨frame.next.trans new, _, made⟩

theorem keeps_dataGetResult {object : Object} (owns : heap.Owns address object)
    (based : object.handleClass.derivesFrom .thetaData = true) :
    Keeps (thetaDataGetResult address) heap [address] fun ptr after =>
      (ptr = address ∨ heap.next ≤ ptr) ∧ ∃ result stateType, after.Holds ptr result stateType ∧
        result.handleClass.derivesFrom .thetaSketch = true ∧
        (object.stateType ≠ .mutableSketch → result.handleClass = .compactThetaSketch) := by
  refine (keeps_getType owns based).look ?_
  rintro _ middle frame rfl
  have there := frame.holds owns (by simp)
  cases object with
  | updateThetaSketch sketch =>
    exact .pure ⟨.inl rfl, _, _, there, rfl, fun other => absurd rfl other⟩
  | compactThetaSketch sketch => exact .pure ⟨.inl rfl, _, _, there, rfl, fun _ => rfl⟩
  | thetaUnion union =>
    refine (keeps_unionGetResult there).imp ?_
    rintro ptr after - ⟨new, sketch, made⟩
    exact ⟨.inr (frame.next.trans new), _, _, made, rfl, fun _ => rfl⟩
  | thetaIntersection intersection => cases based

theorem keeps_handleSerialize (tagged : heap.Tagged address) (malloc : ℕ → UInt8) :
    Keeps (extensionSketchHandleSerialize (some address) malloc) heap [address] fun _ _ => True := by
  obtain ⟨object, owns, based⟩ := tagged
  have compacted : Keeps (compactState address) heap [address] fun ptr after =>
      (ptr = address ∨ heap.next ≤ ptr) ∧ ∃ sketch stateType,
        after.Holds ptr (.compactThetaSketch sketch) stateType := by
    refine (keeps_getType owns based).look ?_
    rintro _ middle frame rfl
    have there := frame.holds owns (by simp)
    -- The tag tells an update sketch from the others, whose result is compact already.
    have other : object.stateType ≠ .mutableSketch → Keeps (thetaDataGetResult address) middle [address]
        fun ptr after => (ptr = address ∨ heap.next ≤ ptr) ∧ ∃ sketch stateType,
          after.Holds ptr (.compactThetaSketch sketch) stateType := by
      intro immutable
      refine (keeps_dataGetResult there based).imp ?_
      rintro ptr after - ⟨place, result, stateType, made, _, compact⟩
      refine ⟨place.imp id frame.next.trans, ?_⟩
      cases result with
      | compactThetaSketch sketch => exact ⟨sketch, stateType, made⟩
      | updateThetaSketch sketch => cases compact immutable
      | thetaUnion union => cases compact immutable
      | thetaIntersection intersection => cases compact immutable
    cases object with
    | updateThetaSketch sketch =>
      refine (keeps_sketchCompact there).imp ?_
      rintro ptr after - ⟨new, sketch, made⟩
      exact ⟨.inr (frame.next.trans new), sketch, _, made⟩
    | compactThetaSketch sketch => exact other (by simp [Object.stateType])
    | thetaUnion union => exact other (by simp [Object.stateType])
    | thetaIntersection intersection => cases based
  refine compacted.bind (fun ptr => [ptr]) fun ptr second frame found =>
    ⟨by simpa using found.1, ?_⟩
  obtain ⟨_, sketch, stateType, made⟩ := found
  have written : Keeps (thetaSketchSerialize ptr malloc) second [] fun _ _ => True :=
    (keeps_castTo made rfl).look fun _ _ _ _ => .pure trivial
  refine written.look fun _ third thirdFrame _ => ?_
  exact (keeps_delete (thirdFrame.holds made (by simp)) rfl).andThen fun _ _ _ _ => .pure trivial

theorem keeps_handleDeserialize (data : Blob) (heap : Heap) :
    Keeps (extensionSketchHandleDeserialize data) heap [] fun handle after =>
      ∀ address ∈ handle, heap.next ≤ address ∧ after.Tagged address := by
  unfold extensionSketchHandleDeserialize
  split_ifs with blank
  · exact .pure (by simp)
  · have built : Keeps (thetaSketchDeserialize data) heap [] fun ptr after => heap.next ≤ ptr ∧
        ∃ sketch, after.Holds ptr (.compactThetaSketch sketch) .mutableSketch := by
      refine (Keeps.liftRun _).look ?_
      rintro sketch _ - rfl
      refine (keeps_allocate _ heap).imp ?_
      rintro ptr after - ⟨rfl, made⟩
      exact ⟨Nat.le_refl _, sketch, made⟩
    refine built.bind (fun ptr => [ptr]) fun ptr middle _ ⟨new, sketch, made⟩ => ⟨by simpa using new, ?_⟩
    refine (keeps_setType made rfl .immutableSketch).andThen ?_
    rintro _ after - tagged
    refine .pure fun address member => ?_
    cases member
    exact ⟨new, _, tagged, rfl⟩

end Results

/-! Accumulating. -/

section Accumulate

variable {heap : Heap} {address : ℕ} {handle : Handle}

theorem keeps_assignHas {kind : HandleClass} (has : heap.Has address kind) {other : Object}
    (same : other.handleClass = kind) :
    Keeps (assign address other) heap [address] fun _ after => after.Has address kind := by
  obtain ⟨object, owns, isKind⟩ := has
  refine (keeps_assign owns other).imp ?_
  rintro _ after - done
  rw [Object.stateType_congr (isKind.trans same.symm)] at done
  exact ⟨other, done, same⟩

theorem keeps_updated {A : Type} {members : Object → Option A} {kind : HandleClass}
    (make : A → Object) {compute : A → Run A} (has : heap.Has address kind)
    (same : ∀ value, (make value).handleClass = kind) :
    Keeps (do
      let value ← castTo kind members address
      let value ← liftRun (compute value)
      assign address (make value)) heap [address] fun _ after => after.Has address kind := by
  obtain ⟨object, owns, isKind⟩ := has
  refine (keeps_castTo owns (derivesFrom_of_eq isKind)).look fun _ middle frame _ => ?_
  refine (Keeps.liftRun _).look ?_
  rintro value _ - rfl
  exact keeps_assignHas ⟨object, frame.holds owns (by simp), isKind⟩ (same value)

theorem keeps_sketchUpdate (has : heap.Has address .updateThetaSketch) (data : Blob) :
    Keeps (thetaSketchUpdate address data) heap [address] fun _ after =>
      after.Has address .updateThetaSketch :=
  keeps_updated .updateThetaSketch has fun _ => rfl

theorem keeps_sketchUpdateByHash (has : heap.Has address .updateThetaSketch) (hash : UInt64) :
    Keeps (thetaSketchUpdateByHash address hash) heap [address] fun _ after =>
      after.Has address .updateThetaSketch :=
  keeps_updated .updateThetaSketch has fun _ => rfl

theorem keeps_unionUpdateWithBytes (has : heap.Has address .thetaUnion) (bytes : Blob) :
    Keeps (thetaUnionUpdateWithBytes address bytes) heap [address] fun _ after =>
      after.Has address .thetaUnion := by
  obtain ⟨object, owns, same⟩ := has
  refine (keeps_castTo owns (derivesFrom_of_eq same)).look fun _ middle frame _ => ?_
  refine (Keeps.liftRun _).look ?_
  rintro _ _ - rfl
  refine (Keeps.liftRun _).look ?_
  rintro _ _ - rfl
  exact keeps_assignHas ⟨object, frame.holds owns (by simp), same⟩ rfl

theorem keeps_tagged {object : Object} (based : object.handleClass.derivesFrom .thetaData = true)
    (heap : Heap) :
    Keeps (do
      let state ← allocate object
      thetaDataSetType state object.stateType
      return state) heap [] fun address after =>
        heap.next ≤ address ∧ after.Has address object.handleClass := by
  refine (keeps_allocate object heap).bind (fun address => [address])
    fun address middle _ ⟨same, made⟩ => ⟨by simpa using same.ge, ?_⟩
  refine (keeps_setType made based object.stateType).andThen ?_
  rintro _ after - tagged
  exact .pure ⟨same.ge, object, tagged, rfl⟩

theorem keeps_accum {object : Object} {update : ℕ → HeapM Unit}
    (fresh : handle = none → object.handleClass.derivesFrom .thetaData = true)
    (has : ∀ address ∈ handle, heap.Has address object.handleClass)
    (step : ∀ {address middle}, Heap.Has middle address object.handleClass →
      Keeps (update address) middle [address] fun _ after => after.Has address object.handleClass) :
    Keeps (do
      let state ← accumulatorState handle (allocate object) object.stateType
      update state
      return some state) heap handle.toList fun result after => ∀ address ∈ result,
        (address ∈ handle.toList ∨ heap.next ≤ address) ∧ after.Has address object.handleClass := by
  have state : Keeps (accumulatorState handle (allocate object) object.stateType) heap handle.toList
      fun address after => (address ∈ handle.toList ∨ heap.next ≤ address) ∧
        after.Has address object.handleClass := by
    cases handle with
    | none =>
      refine (keeps_tagged (fresh rfl) heap).imp ?_
      exact fun address after _ made => ⟨.inr made.1, made.2⟩
    | some address => exact .pure ⟨.inl (by simp), has address rfl⟩
  refine state.bind (fun address => [address]) fun address middle _ ⟨place, there⟩ =>
    ⟨by simpa using place, ?_⟩
  refine (step there).andThen ?_
  rintro _ after - done
  refine .pure fun other member => ?_
  cases member
  exact ⟨place, done⟩

end Accumulate

/-! Merging. -/

section Merge

variable {heap : Heap} {left right : Handle}

theorem keeps_mergeSide {state : ℕ} {side : Handle} (target : heap.Has state .thetaUnion)
    (tagged : ∀ address ∈ side, heap.Tagged address) (apart : state ∉ side) :
    Keeps (mergeSide thetaUnionUpdateWithSketch state side) heap (state :: side.toList) fun _ after =>
      after.Has state .thetaUnion := by
  cases side with
  | none => exact .pure target
  | some address =>
    obtain ⟨object, owns, based⟩ := tagged address rfl
    have other : state ≠ address := fun same => apart (same ▸ rfl)
    -- `get_result` hands back the state itself or a new sketch, so never the target.
    have read : Keeps (thetaDataGetResult address) heap [state, address] fun ptr after =>
        (ptr = address ∨ heap.next ≤ ptr) ∧ after.Has state .thetaUnion ∧ ∃ result stateType,
          after.Holds ptr result stateType ∧
            result.handleClass.derivesFrom .thetaSketch = true := by
      refine (keeps_dataGetResult owns based).weaken (by simp) ?_
      rintro ptr after frame ⟨place, result, stateType, there, sketch, _⟩
      exact ⟨place, target.frame frame (by simpa using other), result, stateType, there, sketch⟩
    refine read.bind (fun ptr => [state, ptr])
      fun ptr second frame ⟨place, kept, result, stateType, there, sketch⟩ => ⟨?_, ?_⟩
    · rintro visited (_ | ⟨_, _ | ⟨_, impossible⟩⟩)
      · exact .inl (by simp)
      · exact place.imp (fun same => by simp [same]) id
      · cases impossible
    · obtain ⟨_, ⟨below, _⟩, _⟩ := target
      have distinct : ptr ≠ state := by
        rcases place with rfl | new
        · exact other.symm
        · omega
      -- The update writes to the target only, the sketch it reads is still there after it.
      have updated : Keeps (thetaUnionUpdateWithSketch state ptr) second [state, ptr] fun _ after =>
          after.Has state .thetaUnion ∧ after.Holds ptr result stateType := by
        obtain ⟨union, owns, same⟩ := kept
        refine (keeps_castTo owns (derivesFrom_of_eq same)).look fun _ third thirdFrame _ => ?_
        refine (keeps_castTo (thirdFrame.holds there (by simp)) sketch).look
          fun _ fourth fourthFrame _ => ?_
        refine (Keeps.liftRun _).look ?_
        rintro _ _ - rfl
        have has : fourth.Has state .thetaUnion :=
          ⟨union, fourthFrame.holds (thirdFrame.holds owns (by simp)) (by simp), same⟩
        refine (keeps_assignHas has rfl).weaken (by simp) fun _ after last done => ⟨done, ?_⟩
        exact last.holds (fourthFrame.holds (thirdFrame.holds there (by simp)) (by simp))
          (by simpa using distinct)
      refine updated.andThen ?_
      rintro _ third - ⟨done, still⟩
      refine (keeps_delete still sketch).weaken (by simp) ?_
      rintro _ after step -
      exact done.frame step (by simpa using distinct.symm)

theorem keeps_unionMerge (taggedLeft : ∀ address ∈ left, heap.Tagged address)
    (taggedRight : ∀ address ∈ right, heap.Tagged address) (apart : ∀ address ∈ left, address ∉ right) :
    Keeps (extensionSketchHandleUnionMerge left right) heap (left.toList ++ right.toList)
      fun handle after => ∀ address ∈ handle, heap.next ≤ address ∧ after.Tagged address := by
  unfold extensionSketchHandleUnionMerge
  cases sides : left.isNone && right.isNone with
  | true => exact .pure (by simp)
  | false =>
    have below : ∀ {handle : Handle}, (∀ address ∈ handle, heap.Tagged address) →
        ∀ address ∈ handle, address < heap.next := by
      rintro handle tagged address member
      obtain ⟨_, owns, _⟩ := tagged address member
      exact owns.below
    have begun : Keeps thetaUnionNewDefault heap (left.toList ++ right.toList) fun state after =>
        Frame [] heap after ∧ state = heap.next ∧
          after.Holds state (.thetaUnion (ThetaUnion.new {})) .mutableSketch :=
      (keeps_allocate _ heap).weaken (by simp) fun _ _ frame made => ⟨frame, made⟩
    refine begun.bind (fun state => state :: (left.toList ++ right.toList))
      fun state start _ ⟨frame, same, made⟩ => ⟨?_, ?_⟩
    · rintro visited (_ | ⟨_, member⟩)
      · exact .inr same.ge
      · exact .inl member
    -- The fresh union lies behind both states, so no access takes one for the other.
    have leftNew : state ∉ left := fun member => (below taggedLeft state member).ne same
    have rightNew : state ∉ right := fun member => (below taggedRight state member).ne same
    have typed : Keeps (thetaDataSetType state .union) start
        (state :: (left.toList ++ right.toList)) fun _ after => after.Has state .thetaUnion ∧
          (∀ address ∈ left, after.Tagged address) ∧ ∀ address ∈ right, after.Tagged address := by
      refine (keeps_setType made rfl .union).weaken (by simp) fun _ after step done =>
        ⟨⟨_, done, rfl⟩, fun address member => ?_, fun address member => ?_⟩
      · exact ((taggedLeft address member).frame frame (by simp)).frame step fun inside =>
          leftNew (List.mem_singleton.mp inside ▸ member)
      · exact ((taggedRight address member).frame frame (by simp)).frame step fun inside =>
          rightNew (List.mem_singleton.mp inside ▸ member)
    refine typed.andThen ?_
    rintro _ ready - ⟨there, taggedLeft, taggedRight⟩
    -- The left state is gone after its turn, the right one is untouched.
    have joined : Keeps (mergeSide thetaUnionUpdateWithSketch state left) ready
        (state :: (left.toList ++ right.toList)) fun _ after => after.Has state .thetaUnion ∧
          ∀ address ∈ right, after.Tagged address := by
      refine (keeps_mergeSide there taggedLeft leftNew).weaken ?_ fun _ after step done =>
        ⟨done, fun address member => (taggedRight address member).frame step fun touched => ?_⟩
      · intro visited member
        rcases List.mem_cons.mp member with rfl | member
        · exact .inl List.mem_cons_self
        · exact .inl (List.mem_cons_of_mem _ (List.mem_append_left _ member))
      · rcases List.mem_cons.mp touched with rfl | inside
        · exact rightNew member
        · exact apart address (by simpa using inside) member
    refine joined.andThen ?_
    rintro _ third - ⟨there, taggedRight⟩
    refine ((keeps_mergeSide there taggedRight rightNew).weaken ?_ fun _ _ _ done => done).andThen ?_
    · intro visited member
      rcases List.mem_cons.mp member with rfl | member
      · exact .inl List.mem_cons_self
      · exact .inl (List.mem_cons_of_mem _ (List.mem_append_right _ member))
    · rintro _ after - done
      refine .pure fun address member => ?_
      cases member
      exact ⟨same.ge, done.tagged rfl⟩

end Merge

/-! Runs. -/

/-- The call does not create a theta intersection, it accumulates into no state or into
one of the class that is cast to, and it does not merge a state with itself. -/
def Callback.Fits {function : AggregateFunction} (heap : Heap) : Callback function.Row → Prop
  | accum handle row => function.skips row = true ∨
      (handle = none → function ≠ .intersection) ∧
        ∀ address ∈ handle, ∃ cell ∈ heap.cells address, cell.object.handleClass = function.accumulator
  | merge left right => (left = none ∧ right = none) ∨
      (function ≠ .intersection ∧ ∀ address ∈ left, address ∉ right)
  | init | serialize _ _ | deserialize _ => True

instance {function : AggregateFunction} (heap : Heap) (call : Callback function.Row) :
    Decidable (call.Fits heap) := by
  cases call <;> unfold Callback.Fits <;> infer_instance

section Runs

variable {function : AggregateFunction} {heap : Heap}

theorem Heap.Tagged.has {address : ℕ} {kind : HandleClass} (tagged : heap.Tagged address)
    (fits : ∃ cell ∈ heap.cells address, cell.object.handleClass = kind) :
    heap.Has address kind ∧ kind.derivesFrom .thetaData = true := by
  obtain ⟨object, owns, based⟩ := tagged
  obtain ⟨cell, there, same⟩ := fits
  cases owns.cell.symm.trans there
  exact ⟨⟨object, owns, same⟩, same ▸ based⟩

theorem keeps_skipped {handle : Handle} (tagged : ∀ address ∈ handle, heap.Tagged address) :
    Keeps (pure handle) heap handle.toList fun result after => ∀ address ∈ result,
      (address ∈ handle.toList ∨ heap.next ≤ address) ∧ after.Tagged address :=
  .pure fun address member => ⟨.inl (by simpa using member), tagged address member⟩

theorem keeps_accumulated {handle : Handle} {object : Object} {update : ℕ → HeapM Unit}
    (based : object.handleClass.derivesFrom .thetaData = true)
    (has : ∀ address ∈ handle, heap.Has address object.handleClass)
    (step : ∀ {address middle}, Heap.Has middle address object.handleClass →
      Keeps (update address) middle [address] fun _ after => after.Has address object.handleClass) :
    Keeps (do
      let state ← accumulatorState handle (allocate object) object.stateType
      update state
      return some state) heap handle.toList fun result after => ∀ address ∈ result,
        (address ∈ handle.toList ∨ heap.next ≤ address) ∧ after.Tagged address := by
  refine (keeps_accum (fun _ => based) has step).imp ?_
  intro result after _ done address member
  exact ⟨(done address member).1, (done address member).2.tagged based⟩

theorem keeps_accumRow {handle : Handle} {row : function.Row}
    (tagged : ∀ address ∈ handle, heap.Tagged address)
    (fits : (Callback.accum handle row).Fits heap) :
    Keeps (function.callbacks.accum handle row) heap handle.toList fun result after =>
      ∀ address ∈ result, (address ∈ handle.toList ∨ heap.next ≤ address) ∧ after.Tagged address := by
  cases function with
  | build =>
    cases row with
    | none => exact keeps_skipped tagged
    | some input =>
      obtain ⟨_, fits⟩ := fits.resolve_left Bool.false_ne_true
      exact @keeps_accumulated heap handle (.updateThetaSketch (UpdateSketch.new {})) _ rfl
        (fun address member => ((tagged address member).has (fits address member)).1)
        fun has => keeps_sketchUpdate has input
  | buildByHash =>
    obtain ⟨_, fits⟩ := fits.resolve_left Bool.false_ne_true
    exact @keeps_accumulated heap handle (.updateThetaSketch (UpdateSketch.new {})) _ rfl
      (fun address member => ((tagged address member).has (fits address member)).1)
      fun has => keeps_sketchUpdateByHash has row
  | union =>
    cases row with
    | none => exact keeps_skipped tagged
    | some input =>
      obtain ⟨_, fits⟩ := fits.resolve_left Bool.false_ne_true
      exact @keeps_accumulated heap handle (.thetaUnion (ThetaUnion.new {})) _ rfl
        (fun address member => ((tagged address member).has (fits address member)).1)
        fun has => keeps_unionUpdateWithBytes has input
  | intersection =>
    cases row with
    | none => exact keeps_skipped tagged
    | some input =>
      -- There is no object with a tag to accumulate into, and none may be created.
      obtain ⟨fresh, fits⟩ := fits.resolve_left Bool.false_ne_true
      cases handle with
      | none => exact absurd rfl (fresh rfl)
      | some address =>
        have based := ((tagged address rfl).has (fits address rfl)).2
        cases based

theorem Callback.keeps {call : Callback function.Row}
    (tagged : ∀ address ∈ call.handles, heap.Tagged address) (fits : call.Fits heap) :
    Keeps (call.code function.callbacks) heap call.handles fun handle after => ∀ address ∈ handle,
      (address ∈ call.handles ∨ heap.next ≤ address) ∧ after.Tagged address := by
  cases call with
  | init => exact .pure (by simp [extensionSketchHandleInit])
  | accum handle row =>
    exact keeps_accumRow (fun address member => tagged address (by simpa [handles] using member)) fits
  | merge left right =>
    have taggedLeft : ∀ address ∈ left, heap.Tagged address := fun address member =>
      tagged address (List.mem_append_left _ (by simpa using member))
    have taggedRight : ∀ address ∈ right, heap.Tagged address := fun address member =>
      tagged address (List.mem_append_right _ (by simpa using member))
    rcases fits with ⟨rfl, rfl⟩ | ⟨other, apart⟩
    · cases function <;> exact .pure (by simp)
    · have same : function.callbacks.merge = extensionSketchHandleUnionMerge := by
        cases function <;> first | rfl | exact absurd rfl other
      rw [code, same]
      refine (keeps_unionMerge taggedLeft taggedRight apart).imp ?_
      exact fun handle after _ done address member => ⟨.inr (done address member).1, (done address member).2⟩
  | serialize handle malloc =>
    cases handle with
    | none => exact .pure (by simp)
    | some address =>
      exact (keeps_handleSerialize (tagged address (by simp [handles])) malloc).andThen
        fun _ _ _ _ => .pure (by simp)
  | deserialize data =>
    refine (keeps_handleDeserialize data heap).imp ?_
    exact fun handle after _ done address member => ⟨.inr (done address member).1, (done address member).2⟩

end Runs

section Reached

variable {function : AggregateFunction} {session : Session}

/-- Every live handle leads to an object with its tag. -/
theorem Session.Reached.tagged
    (reached : session.Reached function fun heap call => call.Fits heap) :
    ∀ address ∈ session.live, session.heap.Tagged address := by
  refine reached.invariant fun tagged fits run => ?_
  have keeps := Callback.keeps tagged fits
  unfold Keeps at keeps
  rw [run] at keeps
  obtain ⟨_, frame, new⟩ := keeps
  exact ⟨fun address apart there => there.frame frame apart, fun address member => (new address member).2⟩

theorem Session.Reached.sound
    (reached : session.Reached function fun heap call => call.Fits heap) : session.heap.Sound := by
  induction reached with
  | start heap unused => simp [Heap.Sound, unused]
  | step reached given fits run ih =>
    have keeps := Callback.keeps (fun address member => reached.tagged address (given address member)) fits
    unfold Keeps at keeps
    rw [run] at keeps
    exact keeps.1 ih

end Reached

/-- In a run whose calls all fit, every object is taken for what it is, also by a last
call that does not return. -/
theorem handleTags_sound {function : AggregateFunction} {session : Session}
    (reached : session.Reached function fun heap call => call.Fits heap) :
    session.heap.Sound ∧ ∀ call : Callback function.Row,
      (∀ address ∈ call.handles, address ∈ session.live) → call.Fits session.heap →
      ∀ exit after, call.code function.callbacks session.heap = .error exit after → after.Sound := by
  refine ⟨reached.sound, fun call given fits exit after run => ?_⟩
  have keeps := Callback.keeps (fun address member => reached.tagged address (given address member)) fits
  unfold Keeps at keeps
  rw [run] at keeps
  exact keeps reached.sound

/-- Two states are merged and written, and what is read back is merged with a third one. -/
def hopCalls : List (Callback UInt64) :=
  [.accum none 5, .accum none 7, .merge (some 0) (some 1), .serialize (some 2) fun _ => 0,
    .deserialize [2, 3, 3, 0, 0, 26, 204, 147, 2, 0, 0, 0, 0, 0, 0, 0,
      5, 0, 0, 0, 0, 0, 0, 0, 7, 0, 0, 0, 0, 0, 0, 0],
    .accum none 9, .merge (some 4) (some 5)]

theorem handleTags_sound_hop : ∃ session : Session,
    session.Reached .buildByHash (fun heap call => call.Fits heap) ∧ session.live = [6] ∧
      session.heap.Sound := by
  have run : (hopCalls.foldlM (@Session.call .buildByHash (fun heap call => call.Fits heap) _)
      ⟨Heap.empty, []⟩).map Session.live = some [6] := by decide +kernel
  obtain ⟨session, ran, live⟩ := Option.map_eq_some_iff.mp run
  have reached := @Session.Reached.calls .buildByHash _ _ hopCalls _ _ (.start Heap.empty rfl) ran
  exact ⟨session, reached, live, (handleTags_sound reached).1⟩

theorem castTo_unsound {A : Type} {members : Object → Option A} {heap : Heap} {address : ℕ}
    {object : Object} {stateType : AggStateType} {target : HandleClass}
    (holds : heap.Holds address object stateType)
    (wrong : object.handleClass.derivesFrom target = false) (nothing : members object = none) :
    ∃ after, castTo target members address heap = .error (.undefined .wrongClass) after ∧
      ¬ after.Sound := by
  refine ⟨{ heap with accesses := heap.accesses ++ [.cast (heap.cells address) target] }, ?_, ?_⟩
  · simp only [castTo, visit, holds.cell, nothing, Bind.bind, EStateM.bind]
    rfl
  · intro sound
    have last := sound (.cast (heap.cells address) target) (by simp)
    rw [holds.cell] at last
    obtain ⟨found, same, right⟩ := last
    cases same
    rw [wrong] at right
    cases right

/-- The first row of an intersection, and a row that is fed into a state read from a blob. -/
theorem handleTags_unsound :
    (∃ handle after, (Callback.accum none (some fiveBlob.bytes)).code
        AggregateFunction.intersection.callbacks Heap.empty = .ok handle after ∧ ¬ after.Sound) ∧
    ∃ handle middle exit after, (Callback.deserialize fiveBlob.bytes).code
        AggregateFunction.build.callbacks Heap.empty = .ok handle middle ∧
      (Callback.accum handle (some [1])).code AggregateFunction.build.callbacks middle =
        .error exit after ∧ ¬ after.Sound := by
  constructor
  · obtain ⟨next, update, _⟩ := Meets.fresh.update fiveBlob.valid fiveBlob.bounded
    obtain ⟨handle, after, run, _⟩ :=
      @returns_intersectionAccum Heap.empty none none _ _ _ next .none rfl fiveBlob.wrapped update
    refine ⟨handle, after, run, fun sound => ?_⟩
    simp only [extensionSketchHandleIntersectionAccum, accumulatorState,
      thetaIntersectionNewDefault, allocate, thetaDataSetType, visit, store,
      thetaIntersectionUpdateWithBytes, toThetaIntersection, castTo, Object.asThetaIntersection, liftRun,
      fiveBlob.wrapped, update, assign, Bind.bind, EStateM.bind, Pure.pure, EStateM.pure, Heap.empty,
      Function.update_self] at run
    cases run
    obtain ⟨found, same, based⟩ := sound (.setType (some
      ⟨.thetaIntersection (ThetaIntersection.new defaultSeed), .mutableSketch⟩)) (by simp)
    cases same
    cases based
  · have sound : CompactSketch.Sound ⟨false, true, computeSeedHash defaultSeed, maxTheta, [5]⟩ :=
      sound_of_entries (by decide) (by decide) le_rfl
    have read := (sound.serializable (by decide)).deserialize_eq fun _ => 0
    obtain ⟨handle, middle, run, _, address, rfl, _, owns⟩ :=
      returns_handleDeserialize (CompactSketch.serialize2_ne_nil _ _) read Heap.empty
    obtain ⟨after, failed, unsound⟩ :=
      @castTo_unsound _ Object.asUpdateThetaSketch _ _ _ _ .updateThetaSketch owns rfl rfl
    refine ⟨some address, middle, .undefined .wrongClass, after, run, ?_, unsound⟩
    have cast : toUpdateThetaSketch address middle = .error (.undefined .wrongClass) after := failed
    simp only [Callback.code, AggregateFunction.callbacks, extensionSketchHandleBuildAccum,
      accumulatorState, thetaSketchUpdate, Bind.bind, EStateM.bind, Pure.pure, EStateM.pure, cast]

end ThetaSketch
