import ThetaSketch.Extension.Heap
import ThetaSketch.Format.Serializer
import ThetaSketch.Format.Deserializer
import ThetaSketch.SetOperations.Difference

/-! The functions that the extension exports.

An aggregate passes its state from callback to callback as a handle; the scalar
functions work on blobs. A list that is null in the source is none, and
`malloc` stands for what fresh memory holds.
-/

set_option autoImplicit false

namespace ThetaSketch

def thetaSketchNewDefault : HeapM ℕ := allocate (.updateThetaSketch (UpdateSketch.new {}))

def thetaUnionNewDefault : HeapM ℕ := allocate (.thetaUnion (ThetaUnion.new {}))

def thetaIntersectionNewDefault : HeapM ℕ :=
  allocate (.thetaIntersection (ThetaIntersection.new defaultSeed))

def updateThetaSketchDelete (sketchptr : ℕ) : HeapM Unit := delete sketchptr .updateThetaSketch
def thetaSketchDelete (sketchptr : ℕ) : HeapM Unit := delete sketchptr .thetaSketch
def thetaUnionDelete (unionptr : ℕ) : HeapM Unit := delete unionptr .thetaUnion
def thetaIntersectionDelete (interptr : ℕ) : HeapM Unit := delete interptr .thetaIntersection

def thetaSketchUpdate (sketchptr : ℕ) (data : Blob) : HeapM Unit := do
  let sketch ← toUpdateThetaSketch sketchptr
  let sketch ← liftRun (sketch.update data)
  assign sketchptr (.updateThetaSketch sketch)

def thetaSketchUpdateByHash (sketchptr : ℕ) (hash : UInt64) : HeapM Unit := do
  let sketch ← toUpdateThetaSketch sketchptr
  let sketch ← liftRun (sketch.updateByHash hash.toNat)
  assign sketchptr (.updateThetaSketch sketch)

def thetaUnionGetResult (unionptr : ℕ) : HeapM ℕ := do
  let union ← toThetaUnion unionptr
  let sketchptr ← allocate (.compactThetaSketch (union.getResult true))
  thetaUnionDelete unionptr
  return sketchptr

def thetaIntersectionGetResult (interptr : ℕ) : HeapM ℕ := do
  let intersection ← toThetaIntersection interptr
  let sketch ← liftRun (intersection.getResult true)
  let sketchptr ← allocate (.compactThetaSketch sketch)
  thetaIntersectionDelete interptr
  return sketchptr

def thetaDataGetResult (dataptr : ℕ) : HeapM ℕ := do
  match ← thetaDataGetType dataptr with
  | .union => thetaUnionGetResult dataptr
  | .intersection => thetaIntersectionGetResult dataptr
  | _ => return dataptr

def thetaUnionUpdateWithSketch (unionptr sketchptr : ℕ) : HeapM Unit := do
  let union ← toThetaUnion unionptr
  let sketch ← toThetaSketch sketchptr
  let union ← liftRun (union.update sketch)
  assign unionptr (.thetaUnion union)

def thetaUnionUpdateWithBytes (unionptr : ℕ) (bytes : Blob) : HeapM Unit := do
  let union ← toThetaUnion unionptr
  let sketch ← liftRun (wrap bytes defaultSeed false)
  let union ← liftRun (union.update sketch)
  assign unionptr (.thetaUnion union)

def thetaIntersectionUpdateWithSketch (interptr sketchptr : ℕ) : HeapM Unit := do
  let intersection ← toThetaIntersection interptr
  let sketch ← toThetaSketch sketchptr
  let intersection ← liftRun (intersection.update sketch)
  assign interptr (.thetaIntersection intersection)

def thetaIntersectionUpdateWithBytes (interptr : ℕ) (bytes : Blob) : HeapM Unit := do
  let intersection ← toThetaIntersection interptr
  let sketch ← liftRun (wrap bytes defaultSeed false)
  let intersection ← liftRun (intersection.update sketch)
  assign interptr (.thetaIntersection intersection)

def thetaSketchCompact (sketchptr : ℕ) : HeapM ℕ := do
  let sketch ← toUpdateThetaSketch sketchptr
  let compact ← liftRun (sketch.compact true)
  let res ← allocate (.compactThetaSketch compact)
  updateThetaSketchDelete sketchptr
  return res

def thetaSketchSerialize (sketchptr : ℕ) (malloc : ℕ → UInt8) : HeapM Blob := do
  let sketch ← toCompactThetaSketch sketchptr
  return sketch.serialize2 malloc

def thetaSketchDeserialize (bytes : Blob) : HeapM ℕ := do
  let sketch ← liftRun (CompactSketch.deserialize bytes defaultSeed)
  allocate (.compactThetaSketch sketch)

def thetaANotB (buf1 buf2 : Blob) : HeapM ℕ := do
  let a ← liftRun (wrap buf1 defaultSeed false)
  let b ← liftRun (wrap buf2 defaultSeed false)
  let sketch ← liftRun ((ThetaANotB.new defaultSeed).compute a b true)
  allocate (.compactThetaSketch sketch)

/-! Callbacks of the aggregates. -/

def extensionSketchHandleInit : Handle := none

/-- The state to accumulate into, a fresh one for `NO_HANDLE`. -/
def accumulatorState (handle : Handle) (newDefault : HeapM ℕ) (stateType : AggStateType) : HeapM ℕ :=
  match handle with
  | some state => return state
  | none => do
    let state ← newDefault
    thetaDataSetType state stateType
    return state

def extensionSketchHandleBuildAccum (handle : Handle) (input : Option Blob) : HeapM Handle :=
  match input with
  | none => return handle
  | some input => do
    let state ← accumulatorState handle thetaSketchNewDefault .mutableSketch
    thetaSketchUpdate state input
    return some state

def extensionSketchHandleBuildAccumByHash (handle : Handle) (input : UInt64) : HeapM Handle := do
  let state ← accumulatorState handle thetaSketchNewDefault .mutableSketch
  thetaSketchUpdateByHash state input
  return some state

def extensionSketchHandleUnionAccum (handle : Handle) (input : Option Blob) : HeapM Handle :=
  match input with
  | none => return handle
  | some input => do
    let state ← accumulatorState handle thetaUnionNewDefault .union
    thetaUnionUpdateWithBytes state input
    return some state

def extensionSketchHandleIntersectionAccum (handle : Handle) (input : Option Blob) : HeapM Handle :=
  match input with
  | none => return handle
  | some input => do
    let state ← accumulatorState handle thetaIntersectionNewDefault .intersection
    thetaIntersectionUpdateWithBytes state input
    return some state

/-- One side of a merge: its result goes into the new state and is deleted. -/
def mergeSide (updateWithSketch : ℕ → ℕ → HeapM Unit) (state : ℕ) (side : Handle) : HeapM Unit :=
  match side with
  | none => return ()
  | some handle => do
    let ptr ← thetaDataGetResult handle
    updateWithSketch state ptr
    thetaSketchDelete ptr

def extensionSketchHandleUnionMerge (left right : Handle) : HeapM Handle := do
  if left.isNone && right.isNone then return none
  let u ← thetaUnionNewDefault
  thetaDataSetType u .union
  mergeSide thetaUnionUpdateWithSketch u left
  mergeSide thetaUnionUpdateWithSketch u right
  return some u

def extensionSketchHandleIntersectionMerge (left right : Handle) : HeapM Handle := do
  if left.isNone && right.isNone then return none
  let x ← thetaIntersectionNewDefault
  thetaDataSetType x .intersection
  mergeSide thetaIntersectionUpdateWithSketch x left
  mergeSide thetaIntersectionUpdateWithSketch x right
  return some x

/-- The compact sketch to write out of a state. -/
def compactState (state : ℕ) : HeapM ℕ := do
  match ← thetaDataGetType state with
  | .mutableSketch => thetaSketchCompact state
  | _ => thetaDataGetResult state

def extensionSketchHandleSerialize (handle : Handle) (malloc : ℕ → UInt8) : HeapM Blob :=
  match handle with
  | none => return []
  | some state => do
    let state ← compactState state
    let output ← thetaSketchSerialize state malloc
    thetaSketchDelete state
    return output

def extensionSketchHandleDeserialize (data : Blob) : HeapM Handle :=
  if data.length = 0 then return none
  else do
    let stateptr ← thetaSketchDeserialize data
    thetaDataSetType stateptr .immutableSketch
    return some stateptr

/-! Scalar functions. -/

/-- `BAIL_IF` on a list that is too short. -/
def bailIfShort (bytes : Blob) : HeapM Unit :=
  if bytes.length < 8 then
    throw (.bail ("at least 8 bytes expected, actual " ++ toString bytes.length))
  else return ()

def updateWithArgument (updateWithBytes : ℕ → Blob → HeapM Unit) (state : ℕ)
    (argument : Option Blob) : HeapM Unit :=
  match argument with
  | none => return ()
  | some bytes => do
    bailIfShort bytes
    updateWithBytes state bytes

def extensionSketchUnion (left right : Option Blob) (malloc : ℕ → UInt8) : HeapM Blob := do
  let unionptr ← thetaUnionNewDefault
  updateWithArgument thetaUnionUpdateWithBytes unionptr left
  updateWithArgument thetaUnionUpdateWithBytes unionptr right
  let sketchptr ← thetaUnionGetResult unionptr
  let output ← thetaSketchSerialize sketchptr malloc
  thetaSketchDelete sketchptr
  return output

def extensionSketchIntersection (left right : Option Blob) (malloc : ℕ → UInt8) : HeapM Blob := do
  let interptr ← thetaIntersectionNewDefault
  updateWithArgument thetaIntersectionUpdateWithBytes interptr left
  updateWithArgument thetaIntersectionUpdateWithBytes interptr right
  let sketchptr ← thetaIntersectionGetResult interptr
  let output ← thetaSketchSerialize sketchptr malloc
  thetaSketchDelete sketchptr
  return output

def extensionSketchANotB (left right : Option Blob) (malloc : ℕ → UInt8) : HeapM Blob :=
  match left, right with
  | some left, some right => do
    bailIfShort left
    bailIfShort right
    let sketchptr ← thetaANotB left right
    let output ← thetaSketchSerialize sketchptr malloc
    thetaSketchDelete sketchptr
    return output
  | _, _ => throw (.bail "a_not_b must have two valid sketches")

end ThetaSketch
