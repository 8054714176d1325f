import ThetaSketch.Extension.Callbacks
import ThetaSketch.Sketch.Summary

/-! The scalar functions that do not return a sketch. -/

set_option autoImplicit false

namespace ThetaSketch

def thetaSketchGetEstimate (sketchptr : ℕ) : HeapM ℚ := do
  let sketch ← toThetaSketch sketchptr
  return sketch.getEstimate

def thetaSketchToString (doubles : Doubles) (sketchptr : ℕ) : HeapM String := do
  let sketch ← toThetaSketch sketchptr
  let str ← liftRun (sketch.toText doubles)
  return str.push '\x00'

def extensionSketchGetEstimate (data : Option Blob) : HeapM ℚ :=
  match data with
  | none => return 0
  | some data => do
    bailIfShort data
    let sketchptr ← thetaSketchDeserialize data
    let estimate ← thetaSketchGetEstimate sketchptr
    thetaSketchDelete sketchptr
    return estimate

/-- The text is none where the source returns a null pointer. -/
def extensionSketchToString (doubles : Doubles) (data : Option Blob) : HeapM (Option String) :=
  match data with
  | none => return none
  | some data => do
    let sketchptr ← thetaSketchDeserialize data
    let ret ← thetaSketchToString doubles sketchptr
    thetaSketchDelete sketchptr
    return some ret

def extensionSketchHash (data : Option Blob) : UInt64 :=
  match data with
  | none => 0
  | some data => (murmurHash3X64 data defaultSeed).h1 >>> 1

end ThetaSketch
