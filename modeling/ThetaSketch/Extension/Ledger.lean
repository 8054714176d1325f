import Mathlib.Data.Set.Insert
import ThetaSketch.Extension.Scalars
import ThetaSketch.Extension.Sessions
import ThetaSketch.Extension.UnionPlans

/-! What is allocated is what some handle leads to.

Whoever is given a handle has to free the object behind it or to return it, and an
object that is made for the time of a call has to be freed before the call returns.
No condition is put on what lies behind a handle: a call that takes it for something
else, or that comes too late, does not return.
-/

set_option autoImplicit false

namespace ThetaSketch

def Heap.allocated (heap : Heap) : Set ℕ := {address | heap.cells address ≠ none}

def Heap.Bounded (heap : Heap) : Prop := ∀ address, heap.next ≤ address → heap.cells address = none

/-- If the code returns, the allocated addresses changed in this way. -/
def Moves {A : Type} (code : HeapM A) (change : Set ℕ → A → Set ℕ → Prop) : Prop :=
  ∀ before value after, before.Bounded → code before = .ok value after →
    after.Bounded ∧ change before.allocated value after.allocated

/-- Code that neither allocates nor frees. -/
class Quiet {A : Type} (code : HeapM A) : Prop where
  moves : Moves code fun before _ after => after = before

namespace Moves

variable {A B : Type} {code : HeapM A} {change : Set ℕ → A → Set ℕ → Prop}

theorem imp {other : Set ℕ → A → Set ℕ → Prop} (moves : Moves code change)
    (imp : ∀ before value after, change before value after → other before value after) :
    Moves code other := by
  intro before value after bounded run
  obtain ⟨still, changed⟩ := moves before value after bounded run
  exact ⟨still, imp _ _ _ changed⟩

theorem bind {next : A → HeapM B} {later : A → Set ℕ → B → Set ℕ → Prop}
    (first : Moves code change) (rest : ∀ value, Moves (next value) (later value)) :
    Moves (code >>= next) fun before result after =>
      ∃ value middle, change before value middle ∧ later value middle result after := by
  intro before result after bounded run
  simp only [Bind.bind, EStateM.bind] at run
  cases ran : code before with
  | error exit failed => simp [ran] at run
  | ok value middle =>
    rw [ran] at run
    obtain ⟨still, changed⟩ := first before value middle bounded ran
    obtain ⟨last, done⟩ := rest value middle result after still run
    exact ⟨last, value, _, changed, done⟩

theorem after {next : A → HeapM B} {later : Set ℕ → B → Set ℕ → Prop} [quiet : Quiet code]
    (rest : ∀ value, Moves (next value) later) : Moves (code >>= next) later := by
  refine (quiet.moves.bind rest).imp ?_
  rintro before result after ⟨value, _, rfl, changed⟩
  exact changed

theorem pure {value : A} (same : ∀ before, change before value before) :
    Moves (Pure.pure value) change := by
  rintro before _ _ bounded ⟨⟩
  exact ⟨bounded, same _⟩

theorem returned {value : A} :
    Moves (Pure.pure value) fun before result after => result = value ∧ after = before :=
  .pure fun _ => ⟨rfl, rfl⟩

theorem never {exit : Exit} : Moves (throw exit : HeapM A) change := by
  rintro before _ _ _ ⟨⟩

end Moves

section Primitives

variable {A B : Type} {address : ℕ}

instance Quiet.bind {code : HeapM A} {next : A → HeapM B} [Quiet code]
    [rest : ∀ value, Quiet (next value)] : Quiet (code >>= next) where
  moves := .after fun value => (rest value).moves

instance (value : A) : Quiet (pure value) where
  moves := .pure fun _ => rfl

instance (exit : Exit) : Quiet (throw exit : HeapM A) where
  moves := .never

instance (run : Run A) : Quiet (liftRun run) where
  moves := by
    intro before value after bounded ran
    cases run with
    | error exit => cases ran
    | ok result =>
      cases ran
      exact ⟨bounded, rfl⟩

theorem moves_visit (access : Option Cell → Access) :
    Moves (visit address access) fun before _ after => address ∈ before ∧ after = before := by
  intro before value after bounded run
  unfold visit at run
  split at run
  · rename_i cell there
    cases run
    exact ⟨bounded, by simp [Heap.allocated, there], rfl⟩
  · cases run

instance (access : Option Cell → Access) : Quiet (visit address access) where
  moves := (moves_visit access).imp fun _ _ _ moved => moved.2

theorem moves_visited {access : Option Cell → Access} {next : Cell → HeapM A}
    {change : Set ℕ → A → Set ℕ → Prop}
    (rest : ∀ cell, Moves (next cell) fun before value after =>
      address ∈ before → change before value after) :
    Moves (visit address access >>= next) change := by
  refine ((moves_visit access).bind rest).imp ?_
  rintro before value after ⟨cell, _, ⟨inside, rfl⟩, changed⟩
  exact changed inside

theorem moves_replaceCell {access : Option Cell → Access} {next : Cell → Option Cell} :
    Moves (do
      let cell ← visit address access
      store address (next cell)) fun before _ after => address ∈ before ∧
        ∃ cell, after = if (next cell).isSome then before else before \ {address} := by
  intro before value after bounded run
  simp only [Bind.bind, EStateM.bind, visit] at run
  cases there : before.cells address with
  | none => simp [there] at run
  | some cell =>
    rw [there] at run
    cases run
    have below : address < before.next := by
      by_contra above
      rw [bounded address (not_lt.mp above)] at there
      cases there
    refine ⟨fun other above => ?_, by simp [Heap.allocated, there], cell, ?_⟩
    · exact (Function.update_of_ne (below.trans_le above).ne' _ _).trans (bounded other above)
    · ext other
      by_cases same : other = address
      · subst same
        cases given : next cell <;> simp [Heap.allocated, there]
      · cases given : next cell <;> simp [Heap.allocated, same]

theorem moves_delete (target : HandleClass) :
    Moves (delete address target) fun before _ after => address ∈ before ∧
      after = before \ {address} := by
  refine (@moves_replaceCell address (.cast · target) fun _ => none).imp ?_
  rintro before _ after ⟨inside, _, rfl⟩
  exact ⟨inside, rfl⟩

instance (stateType : AggStateType) : Quiet (thetaDataSetType address stateType) where
  moves := by
    refine (@moves_replaceCell address .setType fun cell =>
      some { cell with stateType := stateType }).imp ?_
    rintro before _ after ⟨_, _, rfl⟩
    rfl

instance : Quiet (thetaDataGetType address) :=
  inferInstanceAs (Quiet (visit address .getType >>= fun cell => pure cell.stateType))

instance (target : HandleClass) (members : Object → Option A) :
    Quiet (castTo target members address) := by
  refine @Quiet.bind _ _ _ _ _ fun cell => ?_
  split <;> infer_instance

instance (object : Object) : Quiet (assign address object) where
  moves := by
    rintro before _ _ bounded ⟨⟩
    refine ⟨fun other above => ?_, ?_⟩
    · by_cases same : other = address
      · subst same
        simp [bounded other above]
      · exact (Function.update_of_ne same _ _).trans (bounded other above)
    · ext other
      by_cases same : other = address
      · subst same
        simp [Heap.allocated]
      · simp [Heap.allocated, Function.update_of_ne same]

def Allocated (before : Set ℕ) (ptr : ℕ) (after : Set ℕ) : Prop :=
  ptr ∉ before ∧ after = insert ptr before

theorem moves_allocate (object : Object) : Moves (allocate object) Allocated := by
  rintro before _ _ bounded ⟨⟩
  refine ⟨fun other above => ?_, by simp [Heap.allocated, bounded before.next le_rfl], ?_⟩
  · exact (Function.update_of_ne (Nat.ne_of_gt above) _ _).trans (bounded other (Nat.le_of_succ_le above))
  · ext other
    by_cases same : other = before.next
    · simp [Heap.allocated, same]
    · simp [Heap.allocated, same]

end Primitives

/-! Results of states. -/

section Results

variable {address : ℕ}

/-- The object at one address gave way to one at the same address or at a free one. -/
def Replaced (given : ℕ) (before : Set ℕ) (ptr : ℕ) (after : Set ℕ) : Prop :=
  given ∈ before ∧ (ptr = given ∨ ptr ∉ before) ∧ after = insert ptr (before \ {given})

theorem moves_cast {A B : Type} {members : Object → Option A} {target : HandleClass}
    {next : A → HeapM B} {change : Set ℕ → B → Set ℕ → Prop}
    (rest : ∀ value, Moves (next value) fun before result after =>
      address ∈ before → change before result after) :
    Moves (castTo target members address >>= next) change := by
  unfold castTo
  rw [bind_assoc]
  refine moves_visited fun cell => ?_
  split
  · rw [pure_bind]
    exact rest _
  · exact .never

theorem moves_replace (object : Object) (target : HandleClass) :
    Moves (do
      let ptr ← allocate object
      delete address target
      return ptr) fun before ptr after => address ∈ before → Replaced address before ptr after := by
  refine ((moves_allocate object).bind fun ptr =>
    (moves_delete target).bind fun _ => Moves.returned).imp ?_
  rintro before ptr _ ⟨_, _, ⟨fresh, rfl⟩, _, _, ⟨_, rfl⟩, rfl, rfl⟩ inside
  have apart : ptr ≠ address := fun same => fresh (same ▸ inside)
  exact ⟨inside, .inr fresh, (Set.insert_sdiff_singleton_comm apart _).symm⟩

theorem moves_unionGetResult : Moves (thetaUnionGetResult address) (Replaced address) :=
  moves_cast fun _ => moves_replace _ _

theorem moves_intersectionGetResult :
    Moves (thetaIntersectionGetResult address) (Replaced address) :=
  moves_cast fun _ => .after fun _ => moves_replace _ _

theorem moves_sketchCompact : Moves (thetaSketchCompact address) (Replaced address) :=
  moves_cast fun _ => .after fun _ => moves_replace _ _

theorem moves_itself : Moves (pure address : HeapM ℕ) fun before ptr after =>
    address ∈ before → Replaced address before ptr after := by
  refine Moves.returned.imp ?_
  rintro before _ _ ⟨rfl, rfl⟩ inside
  exact ⟨inside, .inl rfl, by rw [Set.insert_sdiff_singleton, Set.insert_eq_of_mem inside]⟩

theorem moves_dataGetResult : Moves (thetaDataGetResult address) (Replaced address) := by
  unfold thetaDataGetResult thetaDataGetType
  rw [bind_assoc]
  refine moves_visited fun cell => ?_
  rw [pure_bind]
  split
  · exact moves_unionGetResult.imp fun _ _ _ replaced _ => replaced
  · exact moves_intersectionGetResult.imp fun _ _ _ replaced _ => replaced
  · exact moves_itself

theorem moves_compactState : Moves (compactState address) (Replaced address) := by
  refine Moves.after fun stateType => ?_
  split
  · exact moves_sketchCompact
  · exact moves_dataGetResult

end Results

/-! What the exported functions call. -/

section Steps

variable {address : ℕ}

instance (data : Blob) : Quiet (thetaSketchUpdate address data) := by
  unfold thetaSketchUpdate toUpdateThetaSketch
  infer_instance

instance (hash : UInt64) : Quiet (thetaSketchUpdateByHash address hash) := by
  unfold thetaSketchUpdateByHash toUpdateThetaSketch
  infer_instance

instance (sketchptr : ℕ) : Quiet (thetaUnionUpdateWithSketch address sketchptr) := by
  unfold thetaUnionUpdateWithSketch toThetaUnion toThetaSketch
  infer_instance

instance (bytes : Blob) : Quiet (thetaUnionUpdateWithBytes address bytes) := by
  unfold thetaUnionUpdateWithBytes toThetaUnion
  infer_instance

instance (sketchptr : ℕ) : Quiet (thetaIntersectionUpdateWithSketch address sketchptr) := by
  unfold thetaIntersectionUpdateWithSketch toThetaIntersection toThetaSketch
  infer_instance

instance (bytes : Blob) : Quiet (thetaIntersectionUpdateWithBytes address bytes) := by
  unfold thetaIntersectionUpdateWithBytes toThetaIntersection
  infer_instance

instance (malloc : ℕ → UInt8) : Quiet (thetaSketchSerialize address malloc) := by
  unfold thetaSketchSerialize toCompactThetaSketch
  infer_instance

instance : Quiet (thetaSketchGetEstimate address) := by
  unfold thetaSketchGetEstimate toThetaSketch
  infer_instance

instance (doubles : Doubles) : Quiet (thetaSketchToString doubles address) := by
  unfold thetaSketchToString toThetaSketch
  infer_instance

instance (bytes : Blob) : Quiet (bailIfShort bytes) := by
  unfold bailIfShort
  split <;> infer_instance

instance {updateWithBytes : ℕ → Blob → HeapM Unit} {argument : Option Blob}
    [∀ bytes, Quiet (updateWithBytes address bytes)] :
    Quiet (updateWithArgument updateWithBytes address argument) := by
  unfold updateWithArgument
  split <;> infer_instance

end Steps

/-! The exported functions. -/

section Exports

/-- Of the objects that were given, the one behind the result is left. -/
def Settles (given : List ℕ) (before : Set ℕ) (handle : Handle) (after : Set ℕ) : Prop :=
  (∀ address ∈ given, address ∈ before) →
    (∀ address ∈ handle, address ∈ given ∨ address ∉ before) ∧
      after = (before \ {address | address ∈ given}) ∪ {address | address ∈ handle}

theorem moves_output {A B : Type} {sketchptr : ℕ} {code : HeapM A} {result : A → B} [Quiet code] :
    Moves (do
      let output ← code
      thetaSketchDelete sketchptr
      return result output) fun before _ after => sketchptr ∈ before ∧ after = before \ {sketchptr} := by
  refine Moves.after fun output => ((moves_delete .thetaSketch).bind fun _ => .returned).imp ?_
  rintro before _ _ ⟨_, _, ⟨inside, rfl⟩, rfl, rfl⟩
  exact ⟨inside, rfl⟩

theorem moves_handleSerialize (handle : Handle) (malloc : ℕ → UInt8) :
    Moves (extensionSketchHandleSerialize handle malloc) fun before _ after =>
      after = before \ {address | address ∈ handle} := by
  cases handle with
  | none =>
    refine Moves.returned.imp ?_
    rintro before _ _ ⟨rfl, rfl⟩
    simp
  | some state =>
    refine (moves_compactState.bind fun _ => moves_output).imp ?_
    rintro before _ _ ⟨ptr, _, ⟨inside, place, rfl⟩, _, rfl⟩
    ext address
    simp only [Set.mem_sdiff, Set.mem_insert_iff, Set.mem_singleton_iff, Set.mem_ofPred_eq, Option.mem_some]
    grind

theorem moves_mergeSide {updateWithSketch : ℕ → ℕ → HeapM Unit} {state : ℕ} (side : Handle)
    [∀ ptr, Quiet (updateWithSketch state ptr)] :
    Moves (mergeSide updateWithSketch state side) fun before _ after =>
      after = before \ {address | address ∈ side} := by
  cases side with
  | none =>
    refine Moves.returned.imp ?_
    rintro before _ _ ⟨rfl, rfl⟩
    simp
  | some handle =>
    have freed : ∀ ptr, Moves (do
        updateWithSketch state ptr
        thetaSketchDelete ptr) fun before _ after => ptr ∈ before ∧ after = before \ {ptr} :=
      fun ptr => Moves.after fun _ => moves_delete .thetaSketch
    refine (moves_dataGetResult.bind freed).imp ?_
    rintro before _ _ ⟨ptr, _, ⟨inside, place, rfl⟩, _, rfl⟩
    ext address
    simp only [Set.mem_sdiff, Set.mem_insert_iff, Set.mem_singleton_iff, Set.mem_ofPred_eq, Option.mem_some]
    grind

theorem moves_merge {object : Object} {stateType : AggStateType}
    {updateWithSketch : ℕ → ℕ → HeapM Unit} [∀ state ptr, Quiet (updateWithSketch state ptr)]
    (left right : Handle) :
    Moves (do
      if left.isNone && right.isNone then return none
      let state ← allocate object
      thetaDataSetType state stateType
      mergeSide updateWithSketch state left
      mergeSide updateWithSketch state right
      return some state) (Settles (left.toList ++ right.toList)) := by
  split
  · rename_i none
    simp only [Bool.and_eq_true, Option.isNone_iff_eq_none] at none
    obtain ⟨rfl, rfl⟩ := none
    refine Moves.returned.imp ?_
    rintro before _ _ ⟨rfl, rfl⟩ _
    simp
  · have joined : ∀ state, Moves (do
        thetaDataSetType state stateType
        mergeSide updateWithSketch state left
        mergeSide updateWithSketch state right
        return some state) _ := fun state =>
      Moves.after fun _ => (moves_mergeSide left).bind fun _ =>
        (moves_mergeSide right).bind fun _ => Moves.returned
    refine ((moves_allocate object).bind joined).imp ?_
    rintro before _ _ ⟨state, _, ⟨fresh, rfl⟩, _, _, rfl, _, _, rfl, rfl, rfl⟩ given
    refine ⟨by rintro _ ⟨⟩; exact .inr fresh, ?_⟩
    ext address
    have apart := given state
    simp only [Set.mem_sdiff, Set.mem_insert_iff, Set.mem_union, Set.mem_ofPred_eq, Option.mem_def,
      List.mem_append, Option.mem_toList, Option.some.injEq] at apart ⊢
    grind

theorem moves_accum {object : Object} {stateType : AggStateType} {update : ℕ → HeapM Unit}
    [∀ state, Quiet (update state)] (handle : Handle) :
    Moves (do
      let state ← accumulatorState handle (allocate object) stateType
      update state
      return some state) (Settles handle.toList) := by
  have fed : ∀ state, Moves (do
      update state
      return some state) fun before result after => result = some state ∧ after = before :=
    fun state => Moves.after fun _ => Moves.returned
  cases handle with
  | some address =>
    refine (Moves.returned.bind fed).imp ?_
    rintro before _ _ ⟨address, _, ⟨rfl, rfl⟩, rfl, rfl⟩ given
    have inside := given address (by simp)
    refine ⟨by simp, ?_⟩
    ext other
    simp only [Option.toList_some, List.mem_singleton, Option.mem_some, Set.mem_union, Set.mem_sdiff,
      Set.mem_ofPred_eq]
    grind
  | none =>
    have made : ∀ state, Moves (do
        thetaDataSetType state stateType
        return state) fun before result after => result = state ∧ after = before :=
      fun state => Moves.after fun _ => Moves.returned
    refine (((moves_allocate object).bind made).bind fed).imp ?_
    rintro before _ _ ⟨state, _, ⟨_, _, ⟨fresh, rfl⟩, rfl, rfl⟩, rfl, rfl⟩ _
    refine ⟨by simpa using fresh, ?_⟩
    ext other
    simp [eq_comm]

theorem moves_passed (handle : Handle) : Moves (pure handle) (Settles handle.toList) := by
  refine Moves.returned.imp ?_
  rintro before _ _ ⟨rfl, rfl⟩ given
  refine ⟨fun address member => .inl (by simpa using member), ?_⟩
  ext address
  have inside := given address
  simp only [Set.mem_sdiff, Set.mem_union, Set.mem_ofPred_eq, Option.mem_toList] at inside ⊢
  tauto

theorem moves_sketchDeserialize (data : Blob) : Moves (thetaSketchDeserialize data) Allocated :=
  .after fun _ => moves_allocate _

theorem moves_aNotB (buf1 buf2 : Blob) : Moves (thetaANotB buf1 buf2) Allocated :=
  .after fun _ => .after fun _ => .after fun _ => moves_allocate _

theorem moves_handleDeserialize (data : Blob) :
    Moves (extensionSketchHandleDeserialize data) (Settles []) := by
  unfold extensionSketchHandleDeserialize
  split
  · exact moves_passed none
  · have tagged : ∀ ptr, Moves (do
        thetaDataSetType ptr .immutableSketch
        return some ptr) fun before handle after => handle = some ptr ∧ after = before :=
      fun ptr => .after fun _ => .returned
    refine ((moves_sketchDeserialize data).bind tagged).imp ?_
    rintro before _ _ ⟨ptr, _, ⟨fresh, rfl⟩, rfl, rfl⟩ _
    refine ⟨by simpa using fresh, ?_⟩
    ext other
    simp [eq_comm]

/-- What is done to the ledger by any callback. -/
theorem Callback.moves {function : AggregateFunction} (call : Callback function.Row) :
    Moves (call.code function.callbacks) (Settles call.handles) := by
  cases call with
  | init => exact moves_passed none
  | accum handle row =>
    cases function with
    | build | union | intersection =>
      cases row with
      | none => exact moves_passed handle
      | some input => exact moves_accum handle
    | buildByHash => exact moves_accum handle
  | merge left right =>
    cases function with
    | build | buildByHash | union | intersection => exact moves_merge left right
  | serialize handle malloc =>
    refine ((moves_handleSerialize handle malloc).bind fun _ => Moves.returned).imp ?_
    rintro before _ _ ⟨_, _, rfl, rfl, rfl⟩ _
    simp [handles]
  | deserialize data => exact moves_handleDeserialize data

theorem quiet_scalar {object : Object} {updateWithBytes : ℕ → Blob → HeapM Unit}
    {getResult : ℕ → HeapM ℕ} [∀ state bytes, Quiet (updateWithBytes state bytes)]
    (replaced : ∀ state, Moves (getResult state) (Replaced state)) (left right : Option Blob)
    (malloc : ℕ → UInt8) :
    Quiet (do
      let state ← allocate object
      updateWithArgument updateWithBytes state left
      updateWithArgument updateWithBytes state right
      let sketchptr ← getResult state
      let output ← thetaSketchSerialize sketchptr malloc
      thetaSketchDelete sketchptr
      return output) where
  moves := by
    have finished : ∀ state, Moves (do
        updateWithArgument updateWithBytes state left
        updateWithArgument updateWithBytes state right
        let sketchptr ← getResult state
        let output ← thetaSketchSerialize sketchptr malloc
        thetaSketchDelete sketchptr
        return output) _ := fun state =>
      Moves.after fun _ => .after fun _ => (replaced state).bind fun _ => moves_output
    refine ((moves_allocate object).bind finished).imp ?_
    rintro before _ _ ⟨state, _, ⟨fresh, rfl⟩, sketchptr, _, ⟨inside, place, rfl⟩, _, rfl⟩
    ext address
    simp only [Set.mem_sdiff, Set.mem_insert_iff, Set.mem_singleton_iff] at place ⊢
    grind

theorem quiet_temporary {A B : Type} {make : HeapM ℕ} (made : Moves make Allocated)
    (code : ℕ → HeapM A) [∀ ptr, Quiet (code ptr)] (result : A → B) : Quiet (do
      let sketchptr ← make
      let output ← code sketchptr
      thetaSketchDelete sketchptr
      return result output) where
  moves := by
    refine (made.bind fun _ => moves_output).imp ?_
    rintro before _ _ ⟨sketchptr, _, ⟨fresh, rfl⟩, _, rfl⟩
    exact Set.insert_sdiff_self_of_notMem fresh

end Exports

/-! Runs. -/

inductive ScalarCall where
  | union (left right : Option Blob) (malloc : ℕ → UInt8)
  | intersection (left right : Option Blob) (malloc : ℕ → UInt8)
  | aNotB (left right : Option Blob) (malloc : ℕ → UInt8)
  | getEstimate (data : Option Blob)
  | toString (doubles : Doubles) (data : Option Blob)

namespace ScalarCall

abbrev Answer : ScalarCall → Type
  | union .. | intersection .. | aNotB .. => Blob
  | getEstimate _ => ℚ
  | toString .. => Option String

def code : (call : ScalarCall) → HeapM call.Answer
  | union left right malloc => extensionSketchUnion left right malloc
  | intersection left right malloc => extensionSketchIntersection left right malloc
  | aNotB left right malloc => extensionSketchANotB left right malloc
  | getEstimate data => extensionSketchGetEstimate data
  | toString doubles data => extensionSketchToString doubles data

instance (call : ScalarCall) : Quiet call.code := by
  cases call with
  | union left right malloc => exact quiet_scalar (fun _ => moves_unionGetResult) left right malloc
  | intersection left right malloc =>
    exact quiet_scalar (fun _ => moves_intersectionGetResult) left right malloc
  | aNotB left right malloc =>
    cases left with
    | none => exact inferInstanceAs (Quiet (throw _))
    | some left =>
      cases right with
      | none => exact inferInstanceAs (Quiet (throw _))
      | some right =>
        have written := quiet_temporary (moves_aNotB left right) (thetaSketchSerialize · malloc) id
        exact @Quiet.bind _ _ _ _ _ fun _ => @Quiet.bind _ _ _ _ _ fun _ => written
  | getEstimate data =>
    cases data with
    | none => exact inferInstanceAs (Quiet (pure 0))
    | some data =>
      have read := quiet_temporary (moves_sketchDeserialize data) thetaSketchGetEstimate id
      exact @Quiet.bind _ _ _ _ _ fun _ => read
  | toString doubles data =>
    cases data with
    | none => exact inferInstanceAs (Quiet (pure none))
    | some data =>
      exact quiet_temporary (moves_sketchDeserialize data) (thetaSketchToString doubles) some

end ScalarCall

inductive ExportedCall where
  | aggregate (function : AggregateFunction) (call : Callback function.Row)
  | scalar (call : ScalarCall)

namespace ExportedCall

def handles : ExportedCall → List ℕ
  | aggregate _ call => call.handles
  | scalar _ => []

def code : ExportedCall → HeapM Handle
  | aggregate function call => call.code function.callbacks
  | scalar call => do
    let _ ← call.code
    return none

theorem moves (call : ExportedCall) : Moves call.code (Settles call.handles) := by
  cases call with
  | aggregate function call => exact call.moves
  | scalar call =>
    refine Moves.after fun _ => Moves.returned.imp ?_
    rintro before _ _ ⟨rfl, rfl⟩ _
    simp [handles]

end ExportedCall

/-- The heap of an instance of the extension, and the handles that databases have. -/
structure Instance where
  heap : Heap
  live : List ℕ

/-- What calls in any order lead to. A call may be given any live handles, the same
one twice too; what it does not return is gone. -/
inductive Instance.Reached : Instance → Prop where
  | start : Reached ⟨Heap.empty, []⟩
  | step {state : Instance} {call : ExportedCall} {handle : Handle} {after : Heap}
      (reached : Reached state) (given : ∀ address ∈ call.handles, address ∈ state.live)
      (run : call.code state.heap = .ok handle after) :
      Reached ⟨after, state.live.filter (· ∉ call.handles) ++ handle.toList⟩

/-- A live handle is there once, and exactly the objects behind live handles are
allocated. -/
theorem allocated_iff_live {state : Instance} (reached : state.Reached) :
    state.live.Nodup ∧ ∀ address, state.heap.cells address ≠ none ↔ address ∈ state.live := by
  suffices ledger : state.heap.Bounded ∧ state.live.Nodup ∧
      state.heap.allocated = {address | address ∈ state.live} from
    ⟨ledger.2.1, fun address => Set.ext_iff.mp ledger.2.2 address⟩
  induction reached with
  | start =>
    refine ⟨fun _ _ => rfl, List.nodup_nil, ?_⟩
    ext address
    simp [Heap.allocated, Heap.empty]
  | @step state call handle after reached given run ih =>
    obtain ⟨bounded, distinct, same⟩ := ih
    obtain ⟨still, settled⟩ := call.moves _ _ _ bounded run
    rw [same] at settled
    obtain ⟨new, changed⟩ := settled given
    refine ⟨still, ?_, ?_⟩
    · refine (distinct.filter _).append (by cases handle <;> simp) ?_
      intro address old returned
      obtain ⟨inside, apart⟩ := List.mem_filter.mp old
      rcases new address (by simpa using returned) with among | free
      · exact of_decide_eq_true apart among
      · exact free inside
    · rw [changed]
      ext address
      simp

theorem allocated_iff_live_read : ∃ state : Instance, state.Reached ∧ state.heap.next ≠ 0 ∧
    ∀ address, state.heap.cells address = none := by
  have sound : CompactSketch.Sound ⟨false, true, computeSeedHash defaultSeed, maxTheta, [5]⟩ :=
    sound_of_entries (by decide) (by decide) le_rfl
  have read := (sound.serializable (by decide)).deserialize_eq fun _ => 0
  obtain ⟨_, middle, ran, _, address, rfl, _, owns⟩ :=
    returns_handleDeserialize (CompactSketch.serialize2_ne_nil _ _) read Heap.empty
  obtain ⟨_, after, wrote, frame, _⟩ := returns_handleSerialize owns rfl fun _ => 0
  have called : (ExportedCall.aggregate .union (.deserialize fiveBlob.bytes)).code Heap.empty =
      .ok (some address) middle := ran
  have first := Instance.Reached.start.step (by simp [ExportedCall.handles, Callback.handles]) called
  have again : (ExportedCall.aggregate .union (.serialize (some address) fun _ => 0)).code middle =
      .ok none after := by
    change EStateM.bind _ _ middle = _
    rw [EStateM.bind, wrote]
    rfl
  have second := first.step (by simp [ExportedCall.handles, Callback.handles]) again
  refine ⟨_, second, (Nat.lt_of_lt_of_le (Nat.zero_lt_of_lt owns.below) frame.next).ne', fun other => ?_⟩
  have none_live := (allocated_iff_live second).2 other
  by_contra there
  simpa [ExportedCall.handles, Callback.handles] using none_live.mp there

end ThetaSketch
