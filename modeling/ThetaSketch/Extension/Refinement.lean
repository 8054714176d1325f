import ThetaSketch.Extension.Ledger

/-! The exported functions without a heap.

A state is an object or nothing, and a function turns states into states or fails.
The functions on the heap do the same, at whatever addresses the objects lie and
whatever else is there; where one fails, the other fails in the same way.
-/

set_option autoImplicit false

namespace ThetaSketch

abbrev State := Option Object

namespace Object

def cast {A : Type} (members : Object → Option A) (object : Object) : Run A :=
  match members object with
  | some value => .ok value
  | none => .error (.undefined .wrongClass)

def updated {A : Type} (members : Object → Option A) (make : A → Object) (compute : A → Run A)
    (object : Object) : Run Object := do
  let value ← object.cast members
  let value ← compute value
  return make value

def joined (take : Object → SketchView → Run Object) (object : Object) (side : State) : Run Object :=
  match side with
  | none => return object
  | some other => do
    let view ← other.shown
    take object view

end Object

namespace AggregateFunction

def fresh : AggregateFunction → Object
  | build | buildByHash => .updateThetaSketch (UpdateSketch.new {})
  | union => .thetaUnion (ThetaUnion.new {})
  | intersection => .thetaIntersection (ThetaIntersection.new defaultSeed)

def feed : (function : AggregateFunction) → function.Row → Object → Run Object
  | build, none, object | union, none, object | intersection, none, object => return object
  | build, some data, object =>
    object.updated Object.asUpdateThetaSketch .updateThetaSketch (·.update data)
  | buildByHash, hash, object =>
    object.updated Object.asUpdateThetaSketch .updateThetaSketch (·.updateByHash hash.toNat)
  | union, some bytes, object =>
    object.updated Object.asThetaUnion .thetaUnion fun union => do
      let sketch ← wrap bytes defaultSeed false
      union.update sketch
  | intersection, some bytes, object =>
    object.updated Object.asThetaIntersection .thetaIntersection fun intersection => do
      let sketch ← wrap bytes defaultSeed false
      intersection.update sketch

/-- One row goes into a state; nothing comes of a row that is passed over. -/
def accumState (function : AggregateFunction) (state : State) (row : function.Row) : Run State :=
  if function.skips row then return state
  else do
    let object ← function.feed row (state.getD function.fresh)
    return some object

def mergeStart : AggregateFunction → Object
  | intersection => .thetaIntersection (ThetaIntersection.new defaultSeed)
  | build | buildByHash | union => .thetaUnion (ThetaUnion.new {})

def take : AggregateFunction → Object → SketchView → Run Object
  | intersection, object, sketch =>
    object.updated Object.asThetaIntersection .thetaIntersection (·.update sketch)
  | build, object, sketch | buildByHash, object, sketch | union, object, sketch =>
    object.updated Object.asThetaUnion .thetaUnion (·.update sketch)

def mergeState (function : AggregateFunction) (left right : State) : Run State :=
  if left.isNone && right.isNone then return none
  else do
    let object ← function.mergeStart.joined function.take left
    let object ← object.joined function.take right
    return some object

end AggregateFunction

namespace State

def write (state : State) (malloc : ℕ → UInt8) : Run Blob :=
  match state with
  | none => return []
  | some object => do
    let sketch ← object.finished
    return sketch.serialize2 malloc

def read (data : Blob) : Run State :=
  if data.length = 0 then return none
  else do
    let sketch ← CompactSketch.deserialize data defaultSeed
    return some (.compactThetaSketch sketch)

end State

/-! Code on the heap and what it computes. -/

/-- The code returns what stands for the value of the run and touches the owned cells
only, or it fails as the run does. -/
def Computes {A B : Type} (code : HeapM A) (before : Heap) (owned : List ℕ) (run : Run B)
    (post : B → A → Heap → Prop) : Prop :=
  match run with
  | .ok value => Returns code before owned (post value)
  | .error exit => ∃ after, code before = .error exit after

namespace Computes

variable {A B C D : Type} {code : HeapM A} {before : Heap} {owned : List ℕ} {run : Run B}
  {post : B → A → Heap → Prop}

theorem bind {next : A → HeapM C} {later : B → Run D} {final : D → C → Heap → Prop}
    (first : Computes code before owned run post) (more : A → List ℕ)
    (rest : ∀ value result middle, Frame owned before middle → post value result middle →
      (∀ address ∈ more result, address ∈ owned ∨ before.next ≤ address) ∧
        Computes (next result) middle (more result) (later value) final) :
    Computes (code >>= next) before owned (run >>= later) final := by
  cases run with
  | error exit =>
    obtain ⟨after, failed⟩ := first
    refine ⟨after, ?_⟩
    simp only [Bind.bind, EStateM.bind, failed]
  | ok value =>
    change Computes (code >>= next) before owned (later value) final
    obtain ⟨result, middle, ran, frame, holds⟩ := first
    obtain ⟨new, step⟩ := rest value result middle frame holds
    unfold Computes at step ⊢
    cases computed : later value with
    | ok last =>
      rw [computed] at step
      obtain ⟨output, after, run, last_frame, done⟩ := step
      refine ⟨output, after, ?_, frame.trans last_frame new, done⟩
      simp only [Bind.bind, EStateM.bind, ran]
      exact run
    | error exit =>
      rw [computed] at step
      obtain ⟨after, failed⟩ := step
      refine ⟨after, ?_⟩
      simp only [Bind.bind, EStateM.bind, ran]
      exact failed

theorem weaken {wider : List ℕ} {other : B → A → Heap → Prop}
    (computes : Computes code before owned run post)
    (inside : ∀ address ∈ owned, address ∈ wider ∨ before.next ≤ address)
    (imp : ∀ value result after, Frame owned before after → post value result after →
      other value result after) : Computes code before wider run other := by
  cases run with
  | ok value => exact Returns.weaken computes inside (imp value)
  | error exit => exact computes

theorem imp {other : B → A → Heap → Prop} (computes : Computes code before owned run post)
    (imp : ∀ value result after, Frame owned before after → post value result after →
      other value result after) : Computes code before owned run other :=
  computes.weaken (fun _ => Or.inl) imp

theorem andThen {next : A → HeapM C} {later : B → Run D} {final : D → C → Heap → Prop}
    (first : Computes code before owned run post)
    (rest : ∀ value result middle, Frame owned before middle → post value result middle →
      Computes (next result) middle owned (later value) final) :
    Computes (code >>= next) before owned (run >>= later) final :=
  first.bind (fun _ => owned) fun value result middle frame holds =>
    ⟨fun _ => Or.inl, rest value result middle frame holds⟩

theorem look {next : A → HeapM C} {later : B → Run D} {final : D → C → Heap → Prop}
    (first : Computes code before [] run post)
    (rest : ∀ value result middle, Frame [] before middle → post value result middle →
      Computes (next result) middle owned (later value) final) :
    Computes (code >>= next) before owned (run >>= later) final := by
  have wide : Computes code before owned run fun value result after =>
      Frame [] before after ∧ post value result after :=
    first.weaken (by simp) fun _ _ _ frame holds => ⟨frame, holds⟩
  exact wide.andThen fun value result middle _ both => rest value result middle both.1 both.2

theorem pure {value : B} {result : A} (holds : post value result before) :
    Computes (Pure.pure result) before owned (Pure.pure value) post :=
  Returns.pure holds

theorem finish {next : A → HeapM C} {final : B → C → Heap → Prop}
    (first : Computes code before owned run post) (more : A → List ℕ)
    (rest : ∀ value result middle, Frame owned before middle → post value result middle →
      (∀ address ∈ more result, address ∈ owned ∨ before.next ≤ address) ∧
        Returns (next result) middle (more result) (final value)) :
    Computes (code >>= next) before owned run final := by
  rw [← bind_pure run]
  exact first.bind more rest

theorem liftRun (run : Run A) :
    Computes (ThetaSketch.liftRun run) before owned run fun value result after =>
      value = result ∧ before = after := by
  cases run with
  | ok value => exact Returns.liftRun rfl
  | error exit => exact ⟨before, rfl⟩

theorem throw {exit : Exit} : Computes (MonadExcept.throw exit) before owned (.error exit) post :=
  ⟨before, rfl⟩

end Computes

theorem Returns.bindComputes {A B C : Type} {code : HeapM A} {next : A → HeapM B} {before : Heap}
    {owned : List ℕ} {post : A → Heap → Prop} {run : Run C} {final : C → B → Heap → Prop}
    (first : Returns code before owned post) (more : A → List ℕ)
    (rest : ∀ result middle, Frame owned before middle → post result middle →
      (∀ address ∈ more result, address ∈ owned ∨ before.next ≤ address) ∧
        Computes (next result) middle (more result) run final) :
    Computes (code >>= next) before owned run final := by
  have first : Computes code before owned (.ok ()) fun _ => post := first
  exact first.bind more fun _ => rest

theorem Returns.lookComputes {A B C : Type} {code : HeapM A} {next : A → HeapM B} {before : Heap}
    {owned : List ℕ} {post : A → Heap → Prop} {run : Run C} {final : C → B → Heap → Prop}
    (first : Returns code before [] post)
    (rest : ∀ result middle, Frame [] before middle → post result middle →
      Computes (next result) middle owned run final) :
    Computes (code >>= next) before owned run final := by
  have first : Computes code before [] (.ok ()) fun _ => post := first
  exact first.look fun _ => rest

section Steps

variable {A : Type} {heap : Heap} {address : ℕ} {object : Object} {stateType : AggStateType}

theorem liftRun_bind {B : Type} (run : Run A) (next : A → Run B) :
    liftRun (run >>= next) = liftRun run >>= fun value => liftRun (next value) := by
  cases run <;> rfl

theorem computes_castTo (members : Object → Option A) (holds : heap.Holds address object stateType)
    (target : HandleClass) :
    Computes (castTo target members address) heap [] (object.cast members) fun value result _ =>
      value = result ∧ members object = some value := by
  unfold castTo
  refine (returns_visit holds _).lookComputes ?_
  rintro _ middle - rfl
  unfold Object.cast
  dsimp only
  cases found : members object with
  | some value => exact Returns.pure ⟨rfl, rfl⟩
  | none => exact .throw

/-- The members of a class, and the objects of that class. -/
structure Offers (members : Object → Option A) (make : A → Object) : Prop where
  made : ∀ object value, members object = some value → object = make value
  tagged : ∀ value next, (make value).stateType = (make next).stateType

theorem offers_updateThetaSketch : Offers Object.asUpdateThetaSketch .updateThetaSketch where
  made := by
    rintro (_ | _ | _ | _) value found <;> cases found
    rfl
  tagged := fun _ _ => rfl

theorem offers_thetaUnion : Offers Object.asThetaUnion .thetaUnion where
  made := by
    rintro (_ | _ | _ | _) value found <;> cases found
    rfl
  tagged := fun _ _ => rfl

theorem offers_thetaIntersection : Offers Object.asThetaIntersection .thetaIntersection where
  made := by
    rintro (_ | _ | _ | _) value found <;> cases found
    rfl
  tagged := fun _ _ => rfl

variable {members : Object → Option A} {make : A → Object}

/-- The next object lies where the old one did, under a tag that is as right as before. -/
structure Follows (address : ℕ) (object : Object) (stateType : AggStateType) (next : Object)
    (after : Heap) : Prop where
  holds : after.Holds address next stateType
  same : next.stateType = object.stateType

theorem Follows.owns {next : Object} {after : Heap}
    (follows : Follows address object object.stateType next after) : after.Owns address next := by
  rw [Heap.Owns, follows.same]
  exact follows.holds

theorem returns_assignNext (offers : Offers members make) {value : A}
    (found : members object = some value) (holds : heap.Holds address object stateType) (next : A) :
    Returns (assign address (make next)) heap [address] fun _ after =>
      Follows address object stateType (make next) after :=
  (returns_assign holds (make next)).imp fun _ _ _ done =>
    ⟨done, by rw [offers.made object value found, offers.tagged next value]⟩

theorem computes_updated (offers : Offers members make)
    (holds : heap.Holds address object stateType) (target : HandleClass) (compute : A → Run A) :
    Computes (do
      let value ← castTo target members address
      let value ← liftRun (compute value)
      assign address (make value)) heap [address] (object.updated members make compute)
      fun next _ after => Follows address object stateType next after := by
  refine (computes_castTo members holds target).look ?_
  rintro value _ middle frame ⟨rfl, found⟩
  refine (Computes.liftRun (compute value)).andThen ?_
  rintro next _ _ - ⟨rfl, rfl⟩
  exact returns_assignNext offers found (frame.holds holds (by simp)) next

theorem computes_updatedWithBytes (offers : Offers members make)
    (holds : heap.Holds address object stateType) (target : HandleClass)
    (update : A → SketchView → Run A) (bytes : Blob) :
    Computes (do
      let value ← castTo target members address
      let sketch ← liftRun (wrap bytes defaultSeed false)
      let value ← liftRun (update value sketch)
      assign address (make value)) heap [address]
      (object.updated members make fun value => do
        let sketch ← wrap bytes defaultSeed false
        update value sketch)
      fun next _ after => Follows address object stateType next after := by
  have computes := computes_updated offers holds target fun value => do
    let sketch ← wrap bytes defaultSeed false
    update value sketch
  simpa only [liftRun_bind, bind_assoc] using computes

theorem computes_updatedWithSketch (offers : Offers members make)
    (holds : heap.Holds address object stateType) {ptr : ℕ} {result : Object} {tag : AggStateType}
    {view : SketchView} (there : heap.Holds ptr result tag) (shows : result.asThetaSketch = some view)
    (target : HandleClass) (update : A → SketchView → Run A) :
    Computes (do
      let value ← castTo target members address
      let sketch ← toThetaSketch ptr
      let value ← liftRun (update value sketch)
      assign address (make value)) heap [address] (object.updated members make (update · view))
      fun next _ after => Follows address object stateType next after := by
  refine (computes_castTo members holds target).look ?_
  rintro value _ middle frame ⟨rfl, found⟩
  refine (returns_castTo Object.asThetaSketch (frame.holds there (by simp)) _ shows).lookComputes ?_
  rintro view second again rfl
  refine (Computes.liftRun (update value view)).andThen ?_
  rintro next _ _ - ⟨rfl, rfl⟩
  exact returns_assignNext offers found (again.holds (frame.holds holds (by simp)) (by simp)) next

end Steps

/-! Callbacks. -/

section Callbacks

variable {heap : Heap} {address : ℕ} {object : Object}

/-- A handle that is among the given ones or new, and the state that it leads to. -/
def Leads (before : Heap) (given : List ℕ) (state : State) (handle : Handle) (after : Heap) : Prop :=
  after.OwnsHandle handle state ∧ ∀ address ∈ handle, address ∈ given ∨ before.next ≤ address

theorem Leads.new {before after : Heap} {state : State} {handle : Handle}
    (leads : Leads before [] state handle after) : ∀ address ∈ handle, before.next ≤ address :=
  fun address member => (leads.2 address member).resolve_left List.not_mem_nil

theorem computes_accum {handle : Handle} {state : State} {start : Object} {update : ℕ → HeapM Unit}
    {feed : Object → Run Object} (owns : heap.OwnsHandle handle state)
    (step : ∀ address middle, middle.Owns address (state.getD start) →
      Computes (update address) middle [address] (feed (state.getD start)) fun next _ after =>
        Follows address (state.getD start) (state.getD start).stateType next after) :
    Computes (do
      let state ← accumulatorState handle (allocate start) start.stateType
      update state
      return some state) heap handle.toList (do
        let object ← feed (state.getD start)
        return some object) (Leads heap handle.toList) := by
  refine (returns_accumulatorState start owns).bindComputes (fun address => [address]) ?_
  rintro address middle - ⟨place, there⟩
  refine ⟨by simpa using place, (step address middle there).andThen ?_⟩
  rintro next _ after - done
  exact .pure ⟨.some done.owns, by simpa using place⟩

def Made (before : Heap) (sketch : CompactSketch) (ptr : ℕ) (after : Heap) : Prop :=
  before.next ≤ ptr ∧ after.Holds ptr (.compactThetaSketch sketch) .mutableSketch

theorem computes_replaced {A : Type} {members : Object → Option A} {stateType : AggStateType}
    (holds : heap.Holds address object stateType) (target base : HandleClass)
    (compute : A → Run CompactSketch) :
    Computes (do
      let value ← castTo target members address
      let sketch ← liftRun (compute value)
      let ptr ← allocate (.compactThetaSketch sketch)
      delete address base
      return ptr) heap [address] (do
        let value ← object.cast members
        compute value) (Made heap) := by
  refine (computes_castTo members holds target).look ?_
  rintro value _ middle frame ⟨rfl, _⟩
  refine (Computes.liftRun (compute value)).finish (fun _ => [address]) ?_
  rintro sketch _ _ - ⟨rfl, rfl⟩
  refine ⟨fun _ => .inl, (returns_replace (frame.holds holds (by simp)) _ base).imp ?_⟩
  rintro ptr after - ⟨new, made⟩
  exact ⟨frame.next.trans new, made⟩

theorem computes_intersectionGetResult {intersection : ThetaIntersection} {stateType : AggStateType}
    (holds : heap.Holds address (.thetaIntersection intersection) stateType) :
    Computes (thetaIntersectionGetResult address) heap [address] (intersection.getResult true)
      (Made heap) :=
  @computes_replaced _ _ _ _ Object.asThetaIntersection _ holds .thetaIntersection .thetaIntersection
    fun intersection => intersection.getResult true

theorem computes_sketchCompact {sketch : UpdateSketch}
    (owns : heap.Owns address (.updateThetaSketch sketch)) :
    Computes (thetaSketchCompact address) heap [address] (sketch.compact true) (Made heap) :=
  @computes_replaced _ _ _ _ Object.asUpdateThetaSketch _ owns .updateThetaSketch .updateThetaSketch
    fun sketch => sketch.compact true

theorem computes_dataGetResult (owns : heap.Owns address object) :
    Computes (thetaDataGetResult address) heap [address] object.shown fun view ptr after =>
      (ptr = address ∨ heap.next ≤ ptr) ∧ ∃ result stateType,
        after.Holds ptr result stateType ∧ result.asThetaSketch = some view := by
  cases shown : object.shown with
  | ok view => exact returns_dataGetResult owns shown
  | error exit =>
    -- Only an intersection may have no result.
    cases object with
    | updateThetaSketch | compactThetaSketch | thetaUnion => cases shown
    | thetaIntersection intersection =>
      have failed : intersection.getResult true = .error exit := by
        change (intersection.getResult true).map CompactSketch.view = _ at shown
        cases run : intersection.getResult true with
        | ok sketch => rw [run] at shown; cases shown
        | error other =>
          rw [run] at shown
          cases shown
          rfl
      refine (returns_getType owns).lookComputes ?_
      rintro _ middle frame rfl
      have computes := computes_intersectionGetResult (frame.holds owns (by simp))
      rw [failed] at computes
      exact computes

def TakesIn (updateWithSketch : ℕ → ℕ → HeapM Unit) (take : Object → SketchView → Run Object) : Prop :=
  ∀ {heap state ptr object result stateType view}, Heap.Owns heap state object →
    Heap.Holds heap ptr result stateType → result.asThetaSketch = some view →
    Computes (updateWithSketch state ptr) heap [state] (take object view) fun next _ after =>
      Follows state object object.stateType next after

section Merge

variable {updateWithSketch : ℕ → ℕ → HeapM Unit} {take : Object → SketchView → Run Object}

theorem computes_mergeSide {state : ℕ} {side : Handle} {other : State}
    (takes : TakesIn updateWithSketch take) (ownsSide : heap.OwnsHandle side other)
    (owns : heap.Owns state object) (apart : state ∉ side) :
    Computes (mergeSide updateWithSketch state side) heap (state :: side.toList)
      (object.joined take other) fun next _ after => after.Owns state next := by
  cases ownsSide with
  | none => exact .pure owns
  | @some address other there =>
    have distinct : state ≠ address := fun same => apart (same ▸ rfl)
    have read : Computes (thetaDataGetResult address) heap [state, address] other.shown
        fun view ptr after => after.Owns state object ∧ (ptr = address ∨ heap.next ≤ ptr) ∧
          ∃ result stateType, after.Holds ptr result stateType ∧ result.asThetaSketch = some view :=
      (computes_dataGetResult there).weaken (by simp) fun _ _ _ frame found =>
        ⟨frame.holds owns (by simpa using distinct), found⟩
    refine read.bind (fun ptr => [state, ptr]) ?_
    rintro view ptr middle - ⟨owned, place, result, stateType, holds, shows⟩
    have elsewhere : ptr ≠ state := by
      have below := owns.below
      rcases place with rfl | new
      · exact distinct.symm
      · omega
    refine ⟨?_, ?_⟩
    · rintro visited (_ | ⟨_, _ | ⟨_, impossible⟩⟩)
      · exact .inl (by simp)
      · exact place.imp (fun same => by simp [same]) id
      · cases impossible
    · have updated : Computes (updateWithSketch state ptr) middle [state, ptr] (take object view)
          fun next _ after => after.Owns state next ∧ after.Holds ptr result stateType :=
        (takes owned holds shows).weaken (by simp) fun _ _ _ frame done =>
          ⟨done.owns, frame.holds holds (by simpa using elsewhere)⟩
      -- The result is read once more when it is deleted.
      refine updated.finish (fun _ => [state, ptr]) ?_
      rintro next _ after - ⟨done, still⟩
      refine ⟨fun _ => .inl, (returns_delete still .thetaSketch).weaken (by simp) ?_⟩
      rintro _ last step -
      exact step.holds done (by simpa using elsewhere.symm)

theorem computes_merge {start : Object} {left right : Handle} {x y : State}
    (takes : TakesIn updateWithSketch take) (ownsLeft : heap.OwnsHandle left x)
    (ownsRight : heap.OwnsHandle right y) (apart : ∀ address ∈ left, address ∉ right) :
    Computes (do
      let state ← allocate start
      thetaDataSetType state start.stateType
      mergeSide updateWithSketch state left
      mergeSide updateWithSketch state right
      return some state) heap (left.toList ++ right.toList) (do
        let object ← start.joined take x
        let object ← object.joined take y
        return some object) (Leads heap []) := by
  have begun : Returns (allocate start) heap (left.toList ++ right.toList) fun state after =>
      Frame [] heap after ∧ state = heap.next ∧ after.Holds state start .mutableSketch :=
    (returns_allocate start heap).weaken (by simp) fun _ _ frame made => ⟨frame, made⟩
  refine begun.bindComputes (fun state => state :: (left.toList ++ right.toList)) ?_
  rintro state first - ⟨frame, same, made⟩
  have leftNew : state ∉ left := fun member => (ownsLeft.below state member).ne same
  have rightNew : state ∉ right := fun member => (ownsRight.below state member).ne same
  refine ⟨?_, ?_⟩
  · rintro visited (_ | ⟨_, member⟩)
    · exact .inr same.ge
    · exact .inl member
  have tagged : Returns (thetaDataSetType state start.stateType) first
      (state :: (left.toList ++ right.toList)) fun _ after =>
      after.Owns state start ∧ after.OwnsHandle left x ∧ after.OwnsHandle right y := by
    refine (returns_setType made start.stateType).weaken (by simp) ?_
    rintro _ after step done
    refine ⟨done, (ownsLeft.frame frame (by simp)).frame step ?_,
      (ownsRight.frame frame (by simp)).frame step ?_⟩
    · rintro other member inside
      exact leftNew (List.mem_singleton.mp inside ▸ member)
    · rintro other member inside
      exact rightNew (List.mem_singleton.mp inside ▸ member)
  refine tagged.bindComputes (fun _ => state :: (left.toList ++ right.toList)) ?_
  rintro _ ready - ⟨there, ownsLeft, ownsRight⟩
  refine ⟨fun _ => .inl, ?_⟩
  have joined : Computes (mergeSide updateWithSketch state left) ready
      (state :: (left.toList ++ right.toList)) (start.joined take x) fun next _ after =>
      after.Owns state next ∧ after.OwnsHandle right y := by
    refine (computes_mergeSide takes ownsLeft there leftNew).weaken ?_ ?_
    · intro visited member
      rcases List.mem_cons.mp member with rfl | member
      · exact .inl List.mem_cons_self
      · exact .inl (List.mem_cons_of_mem _ (List.mem_append_left _ member))
    · rintro next _ after step done
      refine ⟨done, ownsRight.frame step fun other inside touched => ?_⟩
      rcases List.mem_cons.mp touched with rfl | member
      · exact rightNew inside
      · exact apart other (by simpa using member) inside
  refine joined.andThen ?_
  rintro object _ third - ⟨there, ownsRight⟩
  have last : Computes (mergeSide updateWithSketch state right) third
      (state :: (left.toList ++ right.toList)) (object.joined take y) fun next _ after =>
      after.Owns state next := by
    refine (computes_mergeSide takes ownsRight there rightNew).weaken ?_ fun _ _ _ _ done => done
    intro visited member
    rcases List.mem_cons.mp member with rfl | member
    · exact .inl List.mem_cons_self
    · exact .inl (List.mem_cons_of_mem _ (List.mem_append_right _ member))
  refine last.andThen ?_
  rintro final _ after - done
  refine .pure ⟨.some done, ?_⟩
  rintro _ ⟨⟩
  exact .inr same.ge

end Merge

theorem takesIn_union : TakesIn thetaUnionUpdateWithSketch AggregateFunction.union.take :=
  fun owns holds shows =>
    computes_updatedWithSketch offers_thetaUnion owns holds shows .thetaUnion ThetaUnion.update

theorem takesIn_intersection :
    TakesIn thetaIntersectionUpdateWithSketch AggregateFunction.intersection.take :=
  fun owns holds shows => computes_updatedWithSketch offers_thetaIntersection owns holds shows
    .thetaIntersection ThetaIntersection.update

variable {handle left right : Handle} {state x y : State}

theorem AggregateFunction.computes_accum (function : AggregateFunction) (row : function.Row)
    (owns : heap.OwnsHandle handle state) :
    Computes (function.callbacks.accum handle row) heap handle.toList (function.accumState state row)
      (Leads heap handle.toList) := by
  have passed : Computes (pure handle) heap handle.toList (.ok state) (Leads heap handle.toList) :=
    .pure ⟨owns, fun address member => .inl (by simpa using member)⟩
  cases function with
  | build =>
    cases row with
    | none => exact passed
    | some data =>
      exact ThetaSketch.computes_accum owns fun _ _ there =>
        computes_updated offers_updateThetaSketch there .updateThetaSketch (·.update data)
  | buildByHash =>
    exact ThetaSketch.computes_accum owns fun _ _ there =>
      computes_updated offers_updateThetaSketch there .updateThetaSketch (·.updateByHash row.toNat)
  | union =>
    cases row with
    | none => exact passed
    | some bytes =>
      exact ThetaSketch.computes_accum owns fun _ _ there =>
        computes_updatedWithBytes offers_thetaUnion there .thetaUnion ThetaUnion.update bytes
  | intersection =>
    cases row with
    | none => exact passed
    | some bytes =>
      exact ThetaSketch.computes_accum owns fun _ _ there => computes_updatedWithBytes
        offers_thetaIntersection there .thetaIntersection ThetaIntersection.update bytes

theorem Heap.OwnsHandle.isNone_eq (owns : heap.OwnsHandle handle state) :
    handle.isNone = state.isNone := by
  cases owns <;> rfl

theorem AggregateFunction.computes_merge (function : AggregateFunction)
    (ownsLeft : heap.OwnsHandle left x) (ownsRight : heap.OwnsHandle right y)
    (apart : ∀ address ∈ left, address ∉ right) :
    Computes (function.callbacks.merge left right) heap (left.toList ++ right.toList)
      (function.mergeState x y) (Leads heap []) := by
  have unionMerge : Computes (extensionSketchHandleUnionMerge left right) heap
      (left.toList ++ right.toList) (AggregateFunction.union.mergeState x y) (Leads heap []) := by
    rw [mergeState, extensionSketchHandleUnionMerge, ownsLeft.isNone_eq, ownsRight.isNone_eq]
    split
    · exact .pure ⟨.none, by simp⟩
    · exact ThetaSketch.computes_merge takesIn_union ownsLeft ownsRight apart
  cases function with
  | build | buildByHash | union => exact unionMerge
  | intersection =>
    change Computes (extensionSketchHandleIntersectionMerge left right) _ _ _ _
    rw [mergeState, extensionSketchHandleIntersectionMerge, ownsLeft.isNone_eq, ownsRight.isNone_eq]
    split
    · exact .pure ⟨.none, by simp⟩
    · exact ThetaSketch.computes_merge takesIn_intersection ownsLeft ownsRight apart

theorem computes_compactState (owns : heap.Owns address object) :
    Computes (compactState address) heap [address] object.finished fun sketch ptr after =>
      (ptr = address ∨ heap.next ≤ ptr) ∧
        ∃ stateType, after.Holds ptr (.compactThetaSketch sketch) stateType := by
  refine (returns_getType owns).lookComputes ?_
  rintro _ first firstFrame rfl
  have there := firstFrame.holds owns (by simp)
  cases object with
  | updateThetaSketch sketch =>
    refine (computes_sketchCompact there).imp ?_
    rintro compact ptr after - ⟨new, made⟩
    exact ⟨.inr (firstFrame.next.trans new), _, made⟩
  | compactThetaSketch sketch =>
    refine (returns_getType there).lookComputes ?_
    rintro _ second secondFrame rfl
    exact Returns.pure ⟨.inl rfl, _, secondFrame.holds there (by simp)⟩
  | thetaUnion union =>
    refine (returns_getType there).lookComputes ?_
    rintro _ second secondFrame rfl
    refine (returns_unionGetResult (secondFrame.holds there (by simp))).imp ?_
    rintro ptr after - ⟨new, made⟩
    exact ⟨.inr ((firstFrame.next.trans secondFrame.next).trans new), _, made⟩
  | thetaIntersection intersection =>
    refine (returns_getType there).lookComputes ?_
    rintro _ second secondFrame rfl
    refine (computes_intersectionGetResult (secondFrame.holds there (by simp))).imp ?_
    rintro sketch ptr after - ⟨new, made⟩
    exact ⟨.inr ((firstFrame.next.trans secondFrame.next).trans new), _, made⟩

theorem computes_handleSerialize (owns : heap.OwnsHandle handle state) (malloc : ℕ → UInt8) :
    Computes (extensionSketchHandleSerialize handle malloc) heap handle.toList (state.write malloc)
      fun blob result _ => blob = result := by
  cases owns with
  | none => exact .pure rfl
  | @some address object owns =>
    refine (computes_compactState owns).bind (fun ptr => [ptr]) ?_
    rintro sketch ptr middle - ⟨place, stateType, made⟩
    refine ⟨by simpa using place, (returns_output made malloc).imp ?_⟩
    rintro result _ - rfl
    rfl

theorem computes_sketchDeserialize (data : Blob) (heap : Heap) :
    Computes (thetaSketchDeserialize data) heap [] (CompactSketch.deserialize data defaultSeed)
      (Made heap) := by
  refine (Computes.liftRun _).finish (fun _ => []) ?_
  rintro sketch _ _ - ⟨rfl, rfl⟩
  exact ⟨by simp, returns_fresh _ heap⟩

theorem computes_handleDeserialize (data : Blob) (heap : Heap) :
    Computes (extensionSketchHandleDeserialize data) heap [] (State.read data) (Leads heap []) := by
  unfold extensionSketchHandleDeserialize State.read
  split
  · exact .pure ⟨.none, by simp⟩
  · refine (computes_sketchDeserialize data heap).bind (fun ptr => [ptr]) ?_
    rintro sketch ptr middle - ⟨new, made⟩
    refine ⟨by simpa using new, ?_⟩
    refine (returns_setType made .immutableSketch).bindComputes (fun _ => []) ?_
    rintro _ after - there
    exact ⟨by simp, .pure ⟨.some there, by simpa using new⟩⟩

end Callbacks

/-! Scalar functions. -/

namespace ScalarCall

def longEnough (bytes : Blob) : Run Unit :=
  if bytes.length < 8 then
    throw (.bail ("at least 8 bytes expected, actual " ++ ToString.toString bytes.length))
  else return ()

def argument (feed : Blob → Object → Run Object)
    (argument : Option Blob) (object : Object) : Run Object :=
  match argument with
  | none => return object
  | some bytes => do
    longEnough bytes
    feed bytes object

/-- Two arguments go into an object, whose result is written. -/
def combine (start : Object) (feed : Blob → Object → Run Object) (left right : Option Blob)
    (malloc : ℕ → UInt8) : Run Blob := do
  let object ← argument feed left start
  let object ← argument feed right object
  State.write (some object) malloc

def answer : (call : ScalarCall) → Run call.Answer
  | union left right malloc =>
    combine AggregateFunction.union.fresh (fun bytes => AggregateFunction.union.feed (some bytes))
      left right malloc
  | intersection left right malloc =>
    combine AggregateFunction.intersection.fresh
      (fun bytes => AggregateFunction.intersection.feed (some bytes)) left right malloc
  | aNotB (some left) (some right) malloc => do
    longEnough left
    longEnough right
    let a ← wrap left defaultSeed false
    let b ← wrap right defaultSeed false
    let sketch ← (ThetaANotB.new defaultSeed).compute a b true
    return sketch.serialize2 malloc
  | aNotB _ _ _ => throw (.bail "a_not_b must have two valid sketches")
  | getEstimate none => return 0
  | getEstimate (some data) => do
    longEnough data
    let sketch ← CompactSketch.deserialize data defaultSeed
    return sketch.view.getEstimate
  | toString _ none => return none
  | toString doubles (some data) => do
    let sketch ← CompactSketch.deserialize data defaultSeed
    let str ← sketch.view.toText doubles
    return some (str.push '\x00')

end ScalarCall

section Scalar

variable {heap : Heap}

theorem computes_bailIfShort (bytes : Blob) {owned : List ℕ} :
    Computes (bailIfShort bytes) heap owned (ScalarCall.longEnough bytes) fun _ _ after => heap = after := by
  unfold bailIfShort ScalarCall.longEnough
  split
  · exact .throw
  · exact .pure rfl

def Feeds (updateWithBytes : ℕ → Blob → HeapM Unit) (feed : Blob → Object → Run Object) : Prop :=
  ∀ {heap address object stateType} (bytes : Blob), Heap.Holds heap address object stateType →
    Computes (updateWithBytes address bytes) heap [address] (feed bytes object) fun next _ after =>
      Follows address object stateType next after

variable {updateWithBytes : ℕ → Blob → HeapM Unit} {feed : Blob → Object → Run Object}

theorem computes_argument (feeds : Feeds updateWithBytes feed) {address : ℕ} {object : Object}
    {stateType : AggStateType} (holds : heap.Holds address object stateType) (argument : Option Blob) :
    Computes (updateWithArgument updateWithBytes address argument) heap [address]
      (ScalarCall.argument feed argument object) fun next _ after =>
        Follows address object stateType next after := by
  cases argument with
  | none => exact .pure ⟨holds, rfl⟩
  | some bytes =>
    refine (computes_bailIfShort bytes).andThen ?_
    rintro _ _ _ - rfl
    exact feeds bytes holds

theorem computes_combine (feeds : Feeds updateWithBytes feed) {start : Object}
    {getResult : ℕ → HeapM ℕ}
    (result : ∀ {heap address object stateType}, Heap.Holds heap address object stateType →
      object.stateType = start.stateType →
      Computes (getResult address) heap [address] object.finished (Made heap))
    (left right : Option Blob) (malloc : ℕ → UInt8) :
    Computes (do
      let state ← allocate start
      updateWithArgument updateWithBytes state left
      updateWithArgument updateWithBytes state right
      let sketchptr ← getResult state
      let output ← thetaSketchSerialize sketchptr malloc
      thetaSketchDelete sketchptr
      return output) heap [] (ScalarCall.combine start feed left right malloc)
      fun blob output _ => blob = output := by
  refine (returns_allocate start heap).bindComputes (fun state => [state]) ?_
  rintro state first - ⟨same, made⟩
  refine ⟨fun address member => .inr (List.mem_singleton.mp member ▸ same.ge), ?_⟩
  refine (computes_argument feeds made left).andThen ?_
  rintro object _ second - fed
  refine (computes_argument feeds fed.holds right).andThen ?_
  rintro final _ third - again
  refine (result again.holds (again.same.trans fed.same)).bind (fun ptr => [ptr]) ?_
  rintro sketch ptr last - ⟨new, written⟩
  refine ⟨fun address member => .inr (List.mem_singleton.mp member ▸ new), ?_⟩
  refine (returns_output written malloc).imp ?_
  rintro output _ - rfl
  rfl

theorem computes_temporary {A B : Type} {make : HeapM ℕ} {code : ℕ → HeapM A} {run : Run CompactSketch}
    (made : Computes make heap [] run (Made heap)) (ask : CompactSketch → Run A)
    (asked : ∀ {heap ptr sketch stateType}, Heap.Holds heap ptr (.compactThetaSketch sketch) stateType →
      Computes (code ptr) heap [] (ask sketch) fun value output _ => value = output)
    (result : A → B) :
    Computes (do
      let sketchptr ← make
      let output ← code sketchptr
      thetaSketchDelete sketchptr
      return result output) heap [] (do
        let sketch ← run
        let output ← ask sketch
        return result output) fun value output _ => value = output := by
  refine made.bind (fun ptr => [ptr]) ?_
  rintro sketch ptr first - ⟨new, there⟩
  refine ⟨fun address member => .inr (List.mem_singleton.mp member ▸ new), ?_⟩
  refine (asked there).look ?_
  rintro value _ second frame rfl
  refine (returns_delete (frame.holds there (by simp)) .thetaSketch).bindComputes (fun _ => []) ?_
  rintro _ _ - -
  exact ⟨by simp, .pure rfl⟩

theorem computes_aNotB (left right : Blob) :
    Computes (thetaANotB left right) heap [] (do
      let a ← wrap left defaultSeed false
      let b ← wrap right defaultSeed false
      (ThetaANotB.new defaultSeed).compute a b true) (Made heap) := by
  refine (Computes.liftRun _).look ?_
  rintro a _ _ - ⟨rfl, rfl⟩
  refine (Computes.liftRun _).look ?_
  rintro b _ _ - ⟨rfl, rfl⟩
  refine (Computes.liftRun _).finish (fun _ => []) ?_
  rintro sketch _ _ - ⟨rfl, rfl⟩
  exact ⟨by simp, returns_fresh _ heap⟩

theorem ScalarCall.computes (call : ScalarCall) (heap : Heap) :
    Computes call.code heap [] call.answer fun value answer _ => value = answer := by
  cases call with
  | union left right malloc =>
    refine computes_combine (fun bytes holds =>
      computes_updatedWithBytes offers_thetaUnion holds .thetaUnion ThetaUnion.update bytes) ?_ left right malloc
    intro heap address object stateType holds same
    cases object with
    | thetaUnion union => exact returns_unionGetResult holds
    | updateThetaSketch | compactThetaSketch | thetaIntersection => cases same
  | intersection left right malloc =>
    refine computes_combine (fun bytes holds => computes_updatedWithBytes offers_thetaIntersection holds
      .thetaIntersection ThetaIntersection.update bytes) ?_ left right malloc
    intro heap address object stateType holds same
    cases object with
    | thetaIntersection intersection => exact computes_intersectionGetResult holds
    | updateThetaSketch | compactThetaSketch | thetaUnion => cases same
  | aNotB left right malloc =>
    cases left with
    | none => exact .throw
    | some left =>
    cases right with
    | none => exact .throw
    | some right =>
      have written := @computes_temporary heap Blob Blob _ (thetaSketchSerialize · malloc) _
        (computes_aNotB left right) (fun sketch => .ok (sketch.serialize2 malloc)) (fun there => by
          refine (returns_toCompactThetaSketch there).lookComputes ?_
          rintro _ _ - rfl
          exact .pure rfl) id
      have same : (ScalarCall.aNotB (some left) (some right) malloc).answer = (do
          longEnough left
          longEnough right
          let sketch ← (do
            let a ← wrap left defaultSeed false
            let b ← wrap right defaultSeed false
            (ThetaANotB.new defaultSeed).compute a b true)
          let output ← Except.ok (sketch.serialize2 malloc)
          return output) := by
        simp only [answer, bind_assoc]
        rfl
      rw [same]
      refine (computes_bailIfShort left).look ?_
      rintro _ _ _ - rfl
      refine (computes_bailIfShort right).look ?_
      rintro _ _ _ - rfl
      exact written
  | getEstimate data =>
    cases data with
    | none => exact .pure rfl
    | some data =>
      refine (computes_bailIfShort data).look ?_
      rintro _ _ _ - rfl
      refine @computes_temporary heap ℚ ℚ _ thetaSketchGetEstimate _ (computes_sketchDeserialize data heap)
        (fun sketch => .ok sketch.view.getEstimate) (fun there => ?_) id
      refine (returns_castTo Object.asThetaSketch there _ rfl).lookComputes ?_
      rintro _ _ - rfl
      exact .pure rfl
  | toString doubles data =>
    cases data with
    | none => exact .pure rfl
    | some data =>
      have same : (ScalarCall.toString doubles (some data)).answer = (do
          let sketch ← CompactSketch.deserialize data defaultSeed
          let str ← (do
            let str ← sketch.view.toText doubles
            return str.push '\x00')
          return some str) := by
        simp only [answer, bind_assoc, pure_bind]
      rw [same]
      refine @computes_temporary heap String (Option String) _ (thetaSketchToString doubles) _
        (computes_sketchDeserialize data heap) _ (fun there => ?_) some
      refine (returns_castTo Object.asThetaSketch there _ rfl).lookComputes ?_
      rintro _ _ - rfl
      refine (Computes.liftRun _).andThen ?_
      rintro str _ _ - ⟨rfl, rfl⟩
      exact .pure rfl

end Scalar

end ThetaSketch
