import Mathlib.Logic.Function.Basic
import ThetaSketch.SetOperations.Union
import ThetaSketch.SetOperations.Intersection

/-! The objects behind untyped handles.

A handle is an address. What lies there is known by a stored tag and by the casts
that the code dares to make; every use of an address is recorded, so that a run
can be judged afterwards by the classes that the objects really had.
-/

set_option autoImplicit false

namespace ThetaSketch

inductive AggStateType where
  | mutableSketch | immutableSketch | union | intersection
  deriving DecidableEq, Repr

inductive HandleClass where
  | thetaData | thetaSketch | updateThetaSketch | compactThetaSketch | thetaUnion
  | thetaIntersection
  deriving DecidableEq, Repr

namespace HandleClass

/-- The class itself, or one that it derives from. A `theta_intersection` has no
base at all. -/
def derivesFrom (actual target : HandleClass) : Bool :=
  actual = target || match actual, target with
    | updateThetaSketch, thetaSketch | compactThetaSketch, thetaSketch => true
    | updateThetaSketch, thetaData | compactThetaSketch, thetaData => true
    | thetaSketch, thetaData | thetaUnion, thetaData => true
    | _, _ => false

end HandleClass

inductive Object where
  | updateThetaSketch (sketch : UpdateSketch)
  | compactThetaSketch (sketch : CompactSketch)
  | thetaUnion (union : ThetaUnion)
  | thetaIntersection (intersection : ThetaIntersection)

namespace Object

def handleClass : Object → HandleClass
  | updateThetaSketch _ => .updateThetaSketch
  | compactThetaSketch _ => .compactThetaSketch
  | thetaUnion _ => .thetaUnion
  | thetaIntersection _ => .thetaIntersection

/-- The tag that tells the class of an object. -/
def stateType : Object → AggStateType
  | updateThetaSketch _ => .mutableSketch
  | compactThetaSketch _ => .immutableSketch
  | thetaUnion _ => .union
  | thetaIntersection _ => .intersection

end Object

/-- An object and the word that `set_type` writes. In a `theta_intersection` that
word is padding, and it is written and read all the same. -/
structure Cell where
  object : Object
  stateType : AggStateType

/-- One use of an address, with the cell that lay there, if it was still there. -/
inductive Access where
  | cast (cell : Option Cell) (target : HandleClass)
  | setType (cell : Option Cell)
  | getType (cell : Option Cell)

structure Heap where
  cells : ℕ → Option Cell
  next : ℕ
  accesses : List Access

def Heap.empty : Heap := ⟨fun _ => none, 0, []⟩

/-- Code that works on the heap. A failing call leaves the heap as it was then. -/
abbrev HeapM := EStateM Exit Heap

abbrev Handle := Option ℕ

abbrev Blob := List UInt8

def liftRun {A : Type} (run : Run A) : HeapM A := fun heap =>
  match run with
  | .ok value => .ok value heap
  | .error exit => .error exit heap

def allocate (object : Object) : HeapM ℕ := fun heap =>
  .ok heap.next { heap with
    cells := Function.update heap.cells heap.next (some ⟨object, .mutableSketch⟩)
    next := heap.next + 1 }

/-- Record a use of an address and look at what lies there. -/
def visit (address : ℕ) (access : Option Cell → Access) : HeapM Cell := fun heap =>
  let seen := { heap with accesses := heap.accesses ++ [access (heap.cells address)] }
  match heap.cells address with
  | some cell => .ok cell seen
  | none => .error (.undefined .useAfterFree) seen

def store (address : ℕ) (cell : Option Cell) : HeapM Unit := fun heap =>
  .ok () { heap with cells := Function.update heap.cells address cell }

def thetaDataSetType (dataptr : ℕ) (stateType : AggStateType) : HeapM Unit := do
  let cell ← visit dataptr .setType
  store dataptr (some { cell with stateType := stateType })

def thetaDataGetType (dataptr : ℕ) : HeapM AggStateType := do
  let cell ← visit dataptr .getType
  return cell.stateType

/-! `static_cast` from an address. -/

/-- The members that an object offers to code that takes it for one of a class;
where there are none, the run is undefined. -/
def castTo {A : Type} (target : HandleClass) (members : Object → Option A) (address : ℕ) :
    HeapM A := do
  let cell ← visit address (.cast · target)
  match members cell.object with
  | some value => return value
  | none => throw (.undefined .wrongClass)

namespace Object

def asUpdateThetaSketch : Object → Option UpdateSketch
  | updateThetaSketch sketch => some sketch
  | _ => none

def asCompactThetaSketch : Object → Option CompactSketch
  | compactThetaSketch sketch => some sketch
  | _ => none

def asThetaSketch : Object → Option SketchView
  | updateThetaSketch sketch => some sketch.view
  | compactThetaSketch sketch => some sketch.view
  | _ => none

def asThetaUnion : Object → Option ThetaUnion
  | thetaUnion union => some union
  | _ => none

def asThetaIntersection : Object → Option ThetaIntersection
  | thetaIntersection intersection => some intersection
  | _ => none

end Object

def toUpdateThetaSketch : ℕ → HeapM UpdateSketch := castTo .updateThetaSketch Object.asUpdateThetaSketch
def toCompactThetaSketch : ℕ → HeapM CompactSketch :=
  castTo .compactThetaSketch Object.asCompactThetaSketch
def toThetaSketch : ℕ → HeapM SketchView := castTo .thetaSketch Object.asThetaSketch
def toThetaUnion : ℕ → HeapM ThetaUnion := castTo .thetaUnion Object.asThetaUnion
def toThetaIntersection : ℕ → HeapM ThetaIntersection :=
  castTo .thetaIntersection Object.asThetaIntersection

def assign (address : ℕ) (object : Object) : HeapM Unit := fun heap =>
  .ok () { heap with
    cells := Function.update heap.cells address
      ((heap.cells address).map fun cell => { cell with object := object }) }

def delete (address : ℕ) (target : HandleClass) : HeapM Unit := do
  let _ ← visit address (.cast · target)
  store address none

end ThetaSketch
