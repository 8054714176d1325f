import ThetaSketch.Extension.EmptyIsNull

/-! Who releases the lists that are passed in.

A list comes as a pointer that the callee owns. Here every function is given once
more with its pointer operations: each use of a pointer and each release is recorded.
A null pointer does not trap; the memory at address zero is read like any other.
-/

set_option autoImplicit false

namespace ThetaSketch

namespace ListCall

inductive ListArgument where
  | first | second
  deriving DecidableEq, Repr

structure ListU8 where
  argument : ListArgument
  bytes : Blob

abbrev ListPointer := Option ListU8

inductive ListEvent where
  | dereference (pointer : Option ListArgument)
  | release (pointer : Option ListArgument)
  deriving DecidableEq, Repr

structure Call where
  heap : Heap
  addressZero : Blob
  events : List ListEvent

abbrev CallM := EStateM Exit Call

def onHeap {A : Type} (code : HeapM A) : CallM A := fun call =>
  match code call.heap with
  | .ok value heap => .ok value { call with heap := heap }
  | .error exit heap => .error exit { call with heap := heap }

/-- Read the members of a list. -/
def dereference (list : ListPointer) : CallM Blob := fun call =>
  .ok ((list.map ListU8.bytes).getD call.addressZero)
    { call with events := call.events ++ [.dereference (list.map ListU8.argument)] }

def release (list : ListPointer) : CallM Unit := fun call =>
  .ok () { call with events := call.events ++ [.release (list.map ListU8.argument)] }

def extensionListU8Free (list : ListPointer) : CallM Unit := do
  let _ ← dereference list
  release list

/-! The ordinary functions. -/

def extensionSketchHandleBuildAccum (handle : Handle) (input : ListPointer) : CallM Handle :=
  if input.isNone then return handle
  else do
    let state ← onHeap (accumulatorState handle thetaSketchNewDefault .mutableSketch)
    let bytes ← dereference input
    onHeap (thetaSketchUpdate state bytes)
    extensionListU8Free input
    return some state

def extensionSketchHandleUnionAccum (handle : Handle) (input : ListPointer) : CallM Handle :=
  if input.isNone then return handle
  else do
    let state ← onHeap (accumulatorState handle thetaUnionNewDefault .union)
    let bytes ← dereference input
    onHeap (thetaUnionUpdateWithBytes state bytes)
    extensionListU8Free input
    return some state

def extensionSketchHandleIntersectionAccum (handle : Handle) (input : ListPointer) : CallM Handle :=
  if input.isNone then return handle
  else do
    let state ← onHeap (accumulatorState handle thetaIntersectionNewDefault .intersection)
    let bytes ← dereference input
    onHeap (thetaIntersectionUpdateWithBytes state bytes)
    extensionListU8Free input
    return some state

def bailIfShort (list : ListPointer) : CallM Unit := do
  let bytes ← dereference list
  onHeap (ThetaSketch.bailIfShort bytes)

def extensionSketchGetEstimate (data : ListPointer) : CallM ℚ :=
  if data.isNone then do
    extensionListU8Free data
    return 0
  else do
    bailIfShort data
    let bytes ← dereference data
    let sketchptr ← onHeap (thetaSketchDeserialize bytes)
    let estimate ← onHeap (thetaSketchGetEstimate sketchptr)
    onHeap (thetaSketchDelete sketchptr)
    extensionListU8Free data
    return estimate

def updateWithArgument (updateWithBytes : ℕ → Blob → HeapM Unit) (state : ℕ) (list : ListPointer) :
    CallM Unit :=
  if list.isNone then return ()
  else do
    bailIfShort list
    let bytes ← dereference list
    onHeap (updateWithBytes state bytes)

def freeUnlessNull (list : ListPointer) : CallM Unit :=
  if list.isNone then return () else extensionListU8Free list

def extensionSketchUnion (left right : ListPointer) (malloc : ℕ → UInt8) : CallM Blob := do
  let unionptr ← onHeap thetaUnionNewDefault
  updateWithArgument thetaUnionUpdateWithBytes unionptr left
  updateWithArgument thetaUnionUpdateWithBytes unionptr right
  let sketchptr ← onHeap (thetaUnionGetResult unionptr)
  let output ← onHeap (thetaSketchSerialize sketchptr malloc)
  freeUnlessNull left
  freeUnlessNull right
  onHeap (thetaSketchDelete sketchptr)
  return output

def extensionSketchIntersection (left right : ListPointer) (malloc : ℕ → UInt8) : CallM Blob := do
  let interptr ← onHeap thetaIntersectionNewDefault
  updateWithArgument thetaIntersectionUpdateWithBytes interptr left
  updateWithArgument thetaIntersectionUpdateWithBytes interptr right
  let sketchptr ← onHeap (thetaIntersectionGetResult interptr)
  let output ← onHeap (thetaSketchSerialize sketchptr malloc)
  freeUnlessNull left
  freeUnlessNull right
  onHeap (thetaSketchDelete sketchptr)
  return output

def extensionSketchANotB (left right : ListPointer) (malloc : ℕ → UInt8) : CallM Blob :=
  if left.isNone || right.isNone then
    throw (.bail "a_not_b must have two valid sketches")
  else do
    bailIfShort left
    bailIfShort right
    let buf1 ← dereference left
    let buf2 ← dereference right
    let sketchptr ← onHeap (thetaANotB buf1 buf2)
    let output ← onHeap (thetaSketchSerialize sketchptr malloc)
    freeUnlessNull left
    freeUnlessNull right
    onHeap (thetaSketchDelete sketchptr)
    return output

def extensionSketchToString (doubles : Doubles) (data : ListPointer) : CallM (Option String) :=
  if data.isNone then return none
  else do
    let bytes ← dereference data
    let sketchptr ← onHeap (thetaSketchDeserialize bytes)
    let ret ← onHeap (thetaSketchToString doubles sketchptr)
    onHeap (thetaSketchDelete sketchptr)
    extensionListU8Free data
    return some ret

def extensionSketchHash (data : ListPointer) : CallM UInt64 :=
  if data.isNone then return 0
  else do
    let bytes ← dereference data
    let hashes := murmurHash3X64 bytes defaultSeed
    extensionListU8Free data
    return hashes.h1 >>> 1

/-! The functions in which an empty list stands for NULL. -/

def nullIfEmpty (list : ListPointer) : CallM ListPointer := do
  let bytes ← dereference list
  if bytes.length = 0 then
    extensionListU8Free list
    return none
  else return list

def extensionSketchHandleBuildAccumEmptyIsNull (handle : Handle) (input : ListPointer) :
    CallM Handle := do
  let input ← nullIfEmpty input
  extensionSketchHandleBuildAccum handle input

def extensionSketchHandleUnionAccumEmptyIsNull (handle : Handle) (input : ListPointer) :
    CallM Handle := do
  let input ← nullIfEmpty input
  extensionSketchHandleUnionAccum handle input

def extensionSketchHandleIntersectionAccumEmptyIsNull (handle : Handle) (input : ListPointer) :
    CallM Handle := do
  let input ← nullIfEmpty input
  extensionSketchHandleIntersectionAccum handle input

def extensionSketchGetEstimateEmptyIsNull (data : ListPointer) : CallM ℚ := do
  let data ← nullIfEmpty data
  extensionSketchGetEstimate data

def extensionSketchUnionEmptyIsNull (left right : ListPointer) (malloc : ℕ → UInt8) :
    CallM Blob := do
  let left ← nullIfEmpty left
  let right ← nullIfEmpty right
  extensionSketchUnion left right malloc

def extensionSketchIntersectionEmptyIsNull (left right : ListPointer) (malloc : ℕ → UInt8) :
    CallM Blob := do
  let left ← nullIfEmpty left
  let right ← nullIfEmpty right
  extensionSketchIntersection left right malloc

def extensionSketchANotBEmptyIsNull (left right : ListPointer) (malloc : ℕ → UInt8) : CallM Blob := do
  let left ← nullIfEmpty left
  let right ← nullIfEmpty right
  extensionSketchANotB left right malloc

def extensionSketchToStringEmptyIsNull (doubles : Doubles) (data : ListPointer) :
    CallM (Option String) := do
  let data ← nullIfEmpty data
  extensionSketchToString doubles data

def extensionSketchHashEmptyIsNull (data : ListPointer) : CallM UInt64 := do
  let data ← nullIfEmpty data
  extensionSketchHash data

/-! What the pointer operations add to the functions on blobs. -/

/-- The run does what the code does, and records these events; a run that fails
records the first of them only. -/
def Emits {A : Type} (run : CallM A) (code : HeapM A) (events : List ListEvent) : Prop :=
  ∀ call, match run call with
    | .ok value after => code call.heap = .ok value after.heap ∧ after.events = call.events ++ events
    | .error exit after => code call.heap = .error exit after.heap ∧
        ∃ seen, seen <+: events ∧ after.events = call.events ++ seen

namespace Emits

variable {A B : Type} {run : CallM A} {code : HeapM A} {first second : List ListEvent}

theorem bindOf {next : A → CallM B} {rest : A → HeapM B} (emits : Emits run code first)
    (more : ∀ value heap after, code heap = .ok value after → Emits (next value) (rest value) second) :
    Emits (run >>= next) (code >>= rest) (first ++ second) := by
  intro call
  have begun := emits call
  simp only [Bind.bind, EStateM.bind]
  cases ran : run call with
  | error exit middle =>
    rw [ran] at begun
    obtain ⟨same, seen, inside, grown⟩ := begun
    exact ⟨by rw [same], seen, inside.trans (List.prefix_append _ _), grown⟩
  | ok value middle =>
    rw [ran] at begun
    obtain ⟨same, grown⟩ := begun
    have ended := more value _ _ same middle
    rw [same]
    dsimp only
    cases ran : next value middle with
    | error exit after =>
      rw [ran] at ended
      obtain ⟨same, seen, inside, more⟩ := ended
      refine ⟨same, first ++ seen, (List.prefix_append_right_inj _).mpr inside, ?_⟩
      rw [more, grown, List.append_assoc]
    | ok result after =>
      rw [ran] at ended
      obtain ⟨same, more⟩ := ended
      exact ⟨same, by rw [more, grown, List.append_assoc]⟩

theorem bind {next : A → CallM B} {rest : A → HeapM B} (emits : Emits run code first)
    (more : ∀ value, Emits (next value) (rest value) second) :
    Emits (run >>= next) (code >>= rest) (first ++ second) :=
  emits.bindOf fun value _ _ _ => more value

theorem step {value : A} {next : A → CallM B} {rest : HeapM B} (emits : Emits run (Pure.pure value) first)
    (more : Emits (next value) rest second) : Emits (run >>= next) rest (first ++ second) := by
  have whole : Emits (run >>= next) (Pure.pure value >>= fun _ => rest) (first ++ second) := by
    refine emits.bindOf fun result _ _ same => ?_
    cases same
    exact more
  exact whole

theorem pure (value : A) : Emits (Pure.pure value) (Pure.pure value) [] :=
  fun _ => ⟨rfl, (List.append_nil _).symm⟩

theorem throw (exit : Exit) : @Emits A (MonadExcept.throw exit) (MonadExcept.throw exit) [] :=
  fun _ => ⟨rfl, [], List.nil_prefix, (List.append_nil _).symm⟩

theorem onHeap (code : HeapM A) : Emits (ListCall.onHeap code) code [] := by
  intro call
  unfold ListCall.onHeap
  cases ran : code call.heap with
  | error exit heap => exact ⟨rfl, [], List.nil_prefix, (List.append_nil _).symm⟩
  | ok value heap => exact ⟨rfl, (List.append_nil _).symm⟩

theorem heapThen {code : HeapM A} {next : A → CallM B} {rest : A → HeapM B}
    (more : ∀ value, Emits (next value) (rest value) second) :
    Emits (ListCall.onHeap code >>= next) (code >>= rest) second :=
  (onHeap code).bind more

theorem dereference (list : ListU8) :
    Emits (ListCall.dereference (some list)) (Pure.pure list.bytes) [.dereference list.argument] :=
  fun _ => ⟨rfl, rfl⟩

end Emits

def freeing (pointer : Option ListArgument) : List ListEvent := [.dereference pointer, .release pointer]

theorem emits_free (list : ListPointer) :
    Emits (extensionListU8Free list) (pure ()) (freeing (list.map ListU8.argument)) := by
  intro call
  exact ⟨rfl, List.append_assoc _ _ _⟩

def ofList (events : ListArgument → List ListEvent) (list : ListPointer) : List ListEvent :=
  match list with
  | none => []
  | some list => events list.argument

def bytesOf (list : ListPointer) : Option Blob := list.map ListU8.bytes

def accumulating (argument : ListArgument) : List ListEvent :=
  .dereference (some argument) :: freeing (some argument)

theorem emits_accumulating (state : HeapM ℕ) (update : ℕ → Blob → HeapM Unit) (list : ListU8) :
    Emits (do
      let state ← onHeap state
      let bytes ← dereference (some list)
      onHeap (update state bytes)
      extensionListU8Free (some list)
      return some state)
      (do
      let state ← state
      update state list.bytes
      return some state) (accumulating list.argument) := by
  refine .heapThen fun state => ?_
  refine .step (.dereference list) ?_
  refine .heapThen fun _ => ?_
  exact .step (emits_free (some list)) (.pure (some state))

theorem emits_handleBuildAccum (handle : Handle) (input : ListPointer) :
    Emits (extensionSketchHandleBuildAccum handle input)
      (ThetaSketch.extensionSketchHandleBuildAccum handle (bytesOf input)) (ofList accumulating input) := by
  cases input with
  | none => exact .pure handle
  | some list => exact emits_accumulating _ _ list

theorem emits_handleUnionAccum (handle : Handle) (input : ListPointer) :
    Emits (extensionSketchHandleUnionAccum handle input)
      (ThetaSketch.extensionSketchHandleUnionAccum handle (bytesOf input)) (ofList accumulating input) := by
  cases input with
  | none => exact .pure handle
  | some list => exact emits_accumulating _ _ list

theorem emits_handleIntersectionAccum (handle : Handle) (input : ListPointer) :
    Emits (extensionSketchHandleIntersectionAccum handle input)
      (ThetaSketch.extensionSketchHandleIntersectionAccum handle (bytesOf input))
      (ofList accumulating input) := by
  cases input with
  | none => exact .pure handle
  | some list => exact emits_accumulating _ _ list

theorem emits_bailIfShort (list : ListU8) :
    Emits (bailIfShort (some list)) (ThetaSketch.bailIfShort list.bytes) [.dereference list.argument] :=
  .step (.dereference list) (.onHeap _)

def checking (argument : ListArgument) : List ListEvent :=
  [.dereference argument, .dereference argument]

theorem emits_updateWithArgument (updateWithBytes : ℕ → Blob → HeapM Unit) (state : ℕ)
    (list : ListPointer) :
    Emits (updateWithArgument updateWithBytes state list)
      (ThetaSketch.updateWithArgument updateWithBytes state (bytesOf list)) (ofList checking list) := by
  cases list with
  | none => exact .pure ()
  | some list =>
    refine .bind (emits_bailIfShort list) fun _ => ?_
    exact .step (.dereference list) (.onHeap _)

theorem emits_freeUnlessNull (list : ListPointer) :
    Emits (freeUnlessNull list) (pure ()) (ofList (fun argument => freeing (some argument)) list) := by
  cases list with
  | none => exact .pure ()
  | some list => exact emits_free (some list)

theorem emits_output (left right : ListPointer) (sketchptr : ℕ) (malloc : ℕ → UInt8) :
    Emits (do
      let output ← onHeap (thetaSketchSerialize sketchptr malloc)
      freeUnlessNull left
      freeUnlessNull right
      onHeap (thetaSketchDelete sketchptr)
      return output)
      (do
      let output ← thetaSketchSerialize sketchptr malloc
      thetaSketchDelete sketchptr
      return output)
      (ofList (fun argument => freeing (some argument)) left ++
        ofList (fun argument => freeing (some argument)) right) := by
  rw [← List.append_nil (ofList _ right)]
  refine .heapThen fun output => ?_
  refine .step (emits_freeUnlessNull left) (.step (emits_freeUnlessNull right) ?_)
  exact .heapThen fun _ => .pure output

def updating (left right : ListPointer) : List ListEvent :=
  ofList checking left ++ (ofList checking right ++
    (ofList (fun argument => freeing (some argument)) left ++
      ofList (fun argument => freeing (some argument)) right))

theorem emits_union (left right : ListPointer) (malloc : ℕ → UInt8) :
    Emits (extensionSketchUnion left right malloc)
      (ThetaSketch.extensionSketchUnion (bytesOf left) (bytesOf right) malloc) (updating left right) := by
  refine .heapThen fun unionptr => ?_
  refine .bind (emits_updateWithArgument _ unionptr left) fun _ => ?_
  refine .bind (emits_updateWithArgument _ unionptr right) fun _ => ?_
  exact .heapThen fun sketchptr => emits_output left right sketchptr malloc

theorem emits_intersection (left right : ListPointer) (malloc : ℕ → UInt8) :
    Emits (extensionSketchIntersection left right malloc)
      (ThetaSketch.extensionSketchIntersection (bytesOf left) (bytesOf right) malloc)
      (updating left right) := by
  refine .heapThen fun interptr => ?_
  refine .bind (emits_updateWithArgument _ interptr left) fun _ => ?_
  refine .bind (emits_updateWithArgument _ interptr right) fun _ => ?_
  exact .heapThen fun sketchptr => emits_output left right sketchptr malloc

/-- Without two sketches nothing more is done with the lists. -/
def subtracting : ListPointer → ListPointer → List ListEvent
  | some left, some right =>
    .dereference left.argument :: .dereference right.argument :: .dereference left.argument ::
      .dereference right.argument :: (freeing left.argument ++ freeing right.argument)
  | _, _ => []

theorem emits_aNotB (left right : ListPointer) (malloc : ℕ → UInt8) :
    Emits (extensionSketchANotB left right malloc)
      (ThetaSketch.extensionSketchANotB (bytesOf left) (bytesOf right) malloc)
      (subtracting left right) := by
  match left, right with
  | none, _ => exact .throw _
  | some _, none => exact .throw _
  | some left, some right =>
    refine .bind (emits_bailIfShort left) fun _ => ?_
    refine .bind (emits_bailIfShort right) fun _ => ?_
    refine .step (.dereference left) (.step (.dereference right) ?_)
    exact .heapThen fun sketchptr => emits_output (some left) (some right) sketchptr malloc

def estimating : ListPointer → List ListEvent
  | none => freeing none
  | some data => .dereference data.argument :: .dereference data.argument :: freeing data.argument

theorem emits_getEstimate (data : ListPointer) :
    Emits (extensionSketchGetEstimate data) (ThetaSketch.extensionSketchGetEstimate (bytesOf data))
      (estimating data) := by
  cases data with
  | none => exact .step (emits_free none) (.pure 0)
  | some list =>
    refine .bind (emits_bailIfShort list) fun _ => ?_
    refine .step (.dereference list) ?_
    refine .heapThen fun sketchptr => ?_
    refine .heapThen fun estimate => ?_
    refine .heapThen fun _ => ?_
    exact .step (emits_free (some list)) (.pure estimate)

theorem emits_toString (doubles : Doubles) (data : ListPointer) :
    Emits (extensionSketchToString doubles data)
      (ThetaSketch.extensionSketchToString doubles (bytesOf data)) (ofList accumulating data) := by
  cases data with
  | none => exact .pure none
  | some list =>
    refine .step (.dereference list) ?_
    refine .heapThen fun sketchptr => ?_
    refine .heapThen fun ret => ?_
    refine .heapThen fun _ => ?_
    exact .step (emits_free (some list)) (.pure (some ret))

theorem emits_hash (data : ListPointer) :
    Emits (extensionSketchHash data) (pure (ThetaSketch.extensionSketchHash (bytesOf data)))
      (ofList accumulating data) := by
  cases data with
  | none => exact .pure 0
  | some list =>
    refine .step (.dereference list) ?_
    exact .step (emits_free (some list)) (.pure _)

/-! Entry points. -/

def nulled (list : ListU8) : ListPointer := if list.bytes.length = 0 then none else some list

theorem bytesOf_nulled (list : ListU8) : bytesOf (nulled list) = emptyIsNull list.bytes := by
  unfold nulled emptyIsNull
  split_ifs <;> rfl

def nulling (list : ListU8) : List ListEvent :=
  [.dereference (some list.argument)] ++ if list.bytes.length = 0 then freeing list.argument else []

theorem emits_nullIfEmpty (list : ListU8) :
    Emits (nullIfEmpty (some list)) (pure (nulled list)) (nulling list) := by
  refine .step (.dereference list) ?_
  dsimp only [nulled]
  split_ifs
  · exact .step (emits_free (some list)) (.pure none)
  · exact .pure (some list)

inductive EntryPoint where
  | buildAccum (handle : Handle)
  | unionAccum (handle : Handle)
  | intersectionAccum (handle : Handle)
  | getEstimate
  | union (malloc : ℕ → UInt8)
  | intersection (malloc : ℕ → UInt8)
  | aNotB (malloc : ℕ → UInt8)
  | toText (doubles : Doubles)
  | hash

namespace EntryPoint

def arguments : EntryPoint → List ListArgument
  | union _ | intersection _ | aNotB _ => [.first, .second]
  | _ => [.first]

def enter (first second : Blob) : EntryPoint → CallM Unit
  | buildAccum handle => discard (extensionSketchHandleBuildAccumEmptyIsNull handle (some ⟨.first, first⟩))
  | unionAccum handle => discard (extensionSketchHandleUnionAccumEmptyIsNull handle (some ⟨.first, first⟩))
  | intersectionAccum handle =>
    discard (extensionSketchHandleIntersectionAccumEmptyIsNull handle (some ⟨.first, first⟩))
  | getEstimate => discard (extensionSketchGetEstimateEmptyIsNull (some ⟨.first, first⟩))
  | union malloc =>
    discard (extensionSketchUnionEmptyIsNull (some ⟨.first, first⟩) (some ⟨.second, second⟩) malloc)
  | intersection malloc =>
    discard (extensionSketchIntersectionEmptyIsNull (some ⟨.first, first⟩) (some ⟨.second, second⟩) malloc)
  | aNotB malloc =>
    discard (extensionSketchANotBEmptyIsNull (some ⟨.first, first⟩) (some ⟨.second, second⟩) malloc)
  | toText doubles => discard (extensionSketchToStringEmptyIsNull doubles (some ⟨.first, first⟩))
  | hash => discard (extensionSketchHashEmptyIsNull (some ⟨.first, first⟩))

def onBlobs (first second : Blob) : EntryPoint → HeapM Unit
  | buildAccum handle => discard (ThetaSketch.extensionSketchHandleBuildAccumEmptyIsNull handle first)
  | unionAccum handle => discard (ThetaSketch.extensionSketchHandleUnionAccumEmptyIsNull handle first)
  | intersectionAccum handle =>
    discard (ThetaSketch.extensionSketchHandleIntersectionAccumEmptyIsNull handle first)
  | getEstimate => discard (ThetaSketch.extensionSketchGetEstimateEmptyIsNull first)
  | union malloc => discard (ThetaSketch.extensionSketchUnionEmptyIsNull first second malloc)
  | intersection malloc => discard (ThetaSketch.extensionSketchIntersectionEmptyIsNull first second malloc)
  | aNotB malloc => discard (ThetaSketch.extensionSketchANotBEmptyIsNull first second malloc)
  | toText doubles => discard (ThetaSketch.extensionSketchToStringEmptyIsNull doubles first)
  | hash => discard (pure (ThetaSketch.extensionSketchHashEmptyIsNull first))

def events (first second : ListU8) : EntryPoint → List ListEvent
  | buildAccum _ | unionAccum _ | intersectionAccum _ | toText _ | hash =>
    nulling first ++ ofList accumulating (nulled first)
  | getEstimate => nulling first ++ estimating (nulled first)
  | union _ | intersection _ =>
    nulling first ++ (nulling second ++ updating (nulled first) (nulled second))
  | aNotB _ => nulling first ++ (nulling second ++ subtracting (nulled first) (nulled second))

end EntryPoint

theorem Emits.discarded {A : Type} {run : CallM A} {code : HeapM A} {events : List ListEvent}
    (emits : Emits run code events) : Emits (discard run) (discard code) events := by
  have returned : Emits (run >>= fun _ => Pure.pure ()) (code >>= fun _ => Pure.pure ()) (events ++ []) :=
    emits.bind fun _ => .pure ()
  rw [List.append_nil] at returned
  exact returned

/-- A call does what the function on blobs does. -/
theorem emits_enter (point : EntryPoint) (first second : Blob) :
    Emits (point.enter first second) (point.onBlobs first second)
      (point.events ⟨.first, first⟩ ⟨.second, second⟩) := by
  have left := bytesOf_nulled ⟨.first, first⟩
  have right := bytesOf_nulled ⟨.second, second⟩
  cases point with
  | buildAccum handle =>
    have ordinary := emits_handleBuildAccum handle (nulled ⟨.first, first⟩)
    rw [left] at ordinary
    exact ((emits_nullIfEmpty _).step ordinary).discarded
  | unionAccum handle =>
    have ordinary := emits_handleUnionAccum handle (nulled ⟨.first, first⟩)
    rw [left] at ordinary
    exact ((emits_nullIfEmpty _).step ordinary).discarded
  | intersectionAccum handle =>
    have ordinary := emits_handleIntersectionAccum handle (nulled ⟨.first, first⟩)
    rw [left] at ordinary
    exact ((emits_nullIfEmpty _).step ordinary).discarded
  | getEstimate =>
    have ordinary := emits_getEstimate (nulled ⟨.first, first⟩)
    rw [left] at ordinary
    exact ((emits_nullIfEmpty _).step ordinary).discarded
  | union malloc =>
    have ordinary := emits_union (nulled ⟨.first, first⟩) (nulled ⟨.second, second⟩) malloc
    rw [left, right] at ordinary
    exact ((emits_nullIfEmpty _).step ((emits_nullIfEmpty _).step ordinary)).discarded
  | intersection malloc =>
    have ordinary := emits_intersection (nulled ⟨.first, first⟩) (nulled ⟨.second, second⟩) malloc
    rw [left, right] at ordinary
    exact ((emits_nullIfEmpty _).step ((emits_nullIfEmpty _).step ordinary)).discarded
  | aNotB malloc =>
    have ordinary := emits_aNotB (nulled ⟨.first, first⟩) (nulled ⟨.second, second⟩) malloc
    rw [left, right] at ordinary
    exact ((emits_nullIfEmpty _).step ((emits_nullIfEmpty _).step ordinary)).discarded
  | toText doubles =>
    have ordinary := emits_toString doubles (nulled ⟨.first, first⟩)
    rw [left] at ordinary
    exact ((emits_nullIfEmpty _).step ordinary).discarded
  | hash =>
    have ordinary := emits_hash (nulled ⟨.first, first⟩)
    rw [left] at ordinary
    exact ((emits_nullIfEmpty _).step ordinary).discarded

/-! Discipline. -/

def callAfter {A : Type} : EStateM.Result Exit Call A → Call
  | .ok _ call => call
  | .error _ call => call

/-- No null pointer is used and no list is released twice; after a return every list
was released. -/
structure Disciplined (arguments : List ListArgument) (result : EStateM.Result Exit Call Unit) :
    Prop where
  noNull : .dereference none ∉ (callAfter result).events
  once : ∀ argument ∈ arguments, (callAfter result).events.count (.release (some argument)) ≤ 1
  released : ∀ call, result = .ok () call →
    ∀ argument ∈ arguments, call.events.count (.release (some argument)) = 1

def Call.start (heap : Heap) (addressZero : Blob) : Call := ⟨heap, addressZero, []⟩

/-- What the events of a full run say about the lists; `returns` tells whether there
is such a run. -/
structure Tidy (returns : Prop) (arguments : List ListArgument) (events : List ListEvent) : Prop where
  noNull : .dereference none ∉ events
  once : ∀ argument ∈ arguments, events.count (.release (some argument)) ≤ 1
  released : returns → ∀ argument ∈ arguments, events.count (.release (some argument)) = 1

/-- They decide about every run, since a run that fails stops somewhere on the way. -/
theorem Emits.disciplined {run : CallM Unit} {code : HeapM Unit} {events : List ListEvent}
    {arguments : List ListArgument} {heap : Heap} (emits : Emits run code events)
    (tidy : Tidy (∃ after, code heap = .ok () after) arguments events) (addressZero : Blob) :
    Disciplined arguments (run (Call.start heap addressZero)) := by
  have ended := emits (Call.start heap addressZero)
  cases ran : run (Call.start heap addressZero) with
  | ok value after =>
    rw [ran] at ended
    have all : after.events = events := ended.2
    refine ⟨by rw [callAfter, all]; exact tidy.noNull, fun argument member => ?_, ?_⟩
    · rw [callAfter, all]
      exact tidy.once argument member
    · rintro call ⟨⟩ argument member
      rw [all]
      exact tidy.released ⟨_, ended.1⟩ argument member
  | error exit after =>
    rw [ran] at ended
    obtain ⟨_, seen, inside, all⟩ := ended
    have all : after.events = seen := all
    refine ⟨?_, fun argument member => ?_, by rintro call ⟨⟩⟩
    · rw [callAfter, all]
      exact fun member => tidy.noNull (inside.subset member)
    · rw [callAfter, all]
      exact (inside.sublist.count_le _).trans (tidy.once argument member)

theorem getEstimate_frees_null (second : Blob) (start : Call) :
    ListEvent.dereference none ∈ (callAfter (EntryPoint.getEstimate.enter [] second start)).events := by
  have ended := emits_enter .getEstimate [] second start
  cases ran : EntryPoint.getEstimate.enter [] second start with
  | error exit after =>
    rw [ran] at ended
    cases ended.1
  | ok value after =>
    rw [ran] at ended
    rw [callAfter, ended.2]
    exact List.mem_append_right _ (List.mem_append_right _ (List.mem_cons_self))

section Tidy

variable {list : ListU8}

theorem nulled_of_nil (empty : list.bytes = []) : nulled list = none := by
  rw [nulled, empty, List.length_nil, if_pos rfl]

theorem nulled_of_ne_nil (some_byte : list.bytes ≠ []) : nulled list = some list :=
  if_neg fun none_left => some_byte (List.length_eq_zero_iff.mp none_left)

theorem nulling_of_nil (empty : list.bytes = []) :
    nulling list = .dereference list.argument :: freeing list.argument := by
  rw [nulling, empty, List.length_nil, if_pos rfl]
  rfl

theorem nulling_of_ne_nil (some_byte : list.bytes ≠ []) : nulling list = [.dereference list.argument] := by
  rw [nulling, if_neg fun none_left => some_byte (List.length_eq_zero_iff.mp none_left)]
  rfl

end Tidy

theorem tidy_of_releases {returns : Prop} {arguments : List ListArgument} {events : List ListEvent}
    (noNull : .dereference none ∉ events)
    (released : ∀ argument ∈ arguments, events.count (.release (some argument)) = 1) :
    Tidy returns arguments events :=
  ⟨noNull, fun argument member => (released argument member).le, fun _ => released⟩

theorem tidy_accumulating (returns : Prop) (bytes : Blob) :
    Tidy returns [.first] (nulling ⟨.first, bytes⟩ ++ ofList accumulating (nulled ⟨.first, bytes⟩)) := by
  by_cases empty : bytes = []
  · rw [nulling_of_nil empty, nulled_of_nil empty]
    exact tidy_of_releases (of_decide_eq_true rfl) (of_decide_eq_true rfl)
  · rw [nulling_of_ne_nil empty, nulled_of_ne_nil empty]
    exact tidy_of_releases (of_decide_eq_true rfl) (of_decide_eq_true rfl)

theorem tidy_estimating (returns : Prop) {bytes : Blob} (some_byte : bytes ≠ []) :
    Tidy returns [.first] (nulling ⟨.first, bytes⟩ ++ estimating (nulled ⟨.first, bytes⟩)) := by
  rw [nulling_of_ne_nil some_byte, nulled_of_ne_nil some_byte]
  exact tidy_of_releases (of_decide_eq_true rfl) (of_decide_eq_true rfl)

theorem tidy_updating (returns : Prop) (first second : Blob) :
    Tidy returns [.first, .second] (nulling ⟨.first, first⟩ ++ (nulling ⟨.second, second⟩ ++
      updating (nulled ⟨.first, first⟩) (nulled ⟨.second, second⟩))) := by
  by_cases noFirst : first = [] <;> by_cases noSecond : second = []
  · rw [nulling_of_nil noFirst, nulled_of_nil noFirst, nulling_of_nil noSecond, nulled_of_nil noSecond]
    exact tidy_of_releases (of_decide_eq_true rfl) (of_decide_eq_true rfl)
  · rw [nulling_of_nil noFirst, nulled_of_nil noFirst, nulling_of_ne_nil noSecond,
      nulled_of_ne_nil noSecond]
    exact tidy_of_releases (of_decide_eq_true rfl) (of_decide_eq_true rfl)
  · rw [nulling_of_ne_nil noFirst, nulled_of_ne_nil noFirst, nulling_of_nil noSecond,
      nulled_of_nil noSecond]
    exact tidy_of_releases (of_decide_eq_true rfl) (of_decide_eq_true rfl)
  · rw [nulling_of_ne_nil noFirst, nulled_of_ne_nil noFirst, nulling_of_ne_nil noSecond,
      nulled_of_ne_nil noSecond]
    exact tidy_of_releases (of_decide_eq_true rfl) (of_decide_eq_true rfl)

/-- A list next to an empty one is never released, but then the call does not return. -/
theorem tidy_subtracting {returns : Prop} {first second : Blob}
    (both : returns → first ≠ [] ∧ second ≠ []) :
    Tidy returns [.first, .second] (nulling ⟨.first, first⟩ ++ (nulling ⟨.second, second⟩ ++
      subtracting (nulled ⟨.first, first⟩) (nulled ⟨.second, second⟩))) := by
  by_cases noFirst : first = [] <;> by_cases noSecond : second = []
  · rw [nulling_of_nil noFirst, nulled_of_nil noFirst, nulling_of_nil noSecond, nulled_of_nil noSecond]
    exact tidy_of_releases (of_decide_eq_true rfl) (of_decide_eq_true rfl)
  · rw [nulling_of_nil noFirst, nulled_of_nil noFirst, nulling_of_ne_nil noSecond,
      nulled_of_ne_nil noSecond]
    exact ⟨of_decide_eq_true rfl, of_decide_eq_true rfl, fun run => absurd noFirst (both run).1⟩
  · rw [nulling_of_ne_nil noFirst, nulled_of_ne_nil noFirst, nulling_of_nil noSecond,
      nulled_of_nil noSecond]
    exact ⟨of_decide_eq_true rfl, of_decide_eq_true rfl, fun run => absurd noSecond (both run).2⟩
  · rw [nulling_of_ne_nil noFirst, nulled_of_ne_nil noFirst, nulling_of_ne_nil noSecond,
      nulled_of_ne_nil noSecond]
    exact tidy_of_releases (of_decide_eq_true rfl) (of_decide_eq_true rfl)

/-- The difference of fewer than two sketches does not return. -/
theorem aNotB_returns {malloc : ℕ → UInt8} {first second : Blob} {heap after : Heap}
    (run : (EntryPoint.aNotB malloc).onBlobs first second heap = .ok () after) :
    first ≠ [] ∧ second ≠ [] := by
  refine ⟨fun empty => ?_, fun empty => ?_⟩
  · subst empty
    cases run
  · subst empty
    cases first with
    | nil => cases run
    | cons byte rest => cases run

theorem tidy_events {point : EntryPoint} {first second : Blob} (heap : Heap)
    (apart : ¬ (point = .getEstimate ∧ first = [])) :
    Tidy (∃ after, point.onBlobs first second heap = .ok () after) point.arguments
      (point.events ⟨.first, first⟩ ⟨.second, second⟩) := by
  cases point with
  | getEstimate => exact tidy_estimating _ fun empty => apart ⟨rfl, empty⟩
  | union _ => exact tidy_updating _ first second
  | intersection _ => exact tidy_updating _ first second
  | aNotB _ => exact tidy_subtracting fun ⟨_, run⟩ => aNotB_returns run
  | buildAccum _ => exact tidy_accumulating _ first
  | unionAccum _ => exact tidy_accumulating _ first
  | intersectionAccum _ => exact tidy_accumulating _ first
  | toText _ => exact tidy_accumulating _ first
  | hash => exact tidy_accumulating _ first

/-- The discipline is kept except by the estimate of the empty list. -/
theorem lists_disciplined_iff (point : EntryPoint) (first second : Blob) (heap : Heap)
    (addressZero : Blob) :
    Disciplined point.arguments (point.enter first second (Call.start heap addressZero)) ↔
      ¬ (point = .getEstimate ∧ first = []) := by
  constructor
  · rintro disciplined ⟨rfl, rfl⟩
    exact disciplined.noNull (getEstimate_frees_null second _)
  · intro apart
    exact (emits_enter point first second).disciplined (tidy_events heap apart) addressZero

theorem getEstimate_of_nothing :
    ¬ Disciplined EntryPoint.getEstimate.arguments
      (EntryPoint.getEstimate.enter [] [] (Call.start Heap.empty [])) := by
  intro disciplined
  exact disciplined.noNull (by decide)

end ListCall

end ThetaSketch
