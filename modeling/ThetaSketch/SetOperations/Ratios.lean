import ThetaSketch.Common.BinomialProportions
import ThetaSketch.SetOperations.Inputs
import ThetaSketch.Sketch.Summary

/-! Ratios of the populations behind two sketches.

The second population is a subset of the first one. Among the entries below the
bound of the second sketch, those of the second one are the successes.
-/

set_option autoImplicit false

namespace ThetaSketch

open BinomialProportions (realLibrary)
open Threshold

section Ratios

-- `toText` is `std::to_string` for doubles.
variable {F : Type} [Field F] [LinearOrder F] (library : MathLibrary F) (toText : F → String)

namespace SampledSets

def numStdDevs : F := 2.0

/-- A refused input is printed and ends the process, as an invalid argument does. -/
def checkInputs (a b : ℕ) (f : F) : Run Unit :=
  if a < b then
    throw (.invalidArg ("Invalid argument: a must be >= b: a = " ++ toString a ++ ", b = " ++ toString b))
  else if 1 < f ∨ f ≤ 0 then
    throw (.invalidArg ("Invalid argument: Required: ((f <= 1.0) && (f > 0.0)): " ++ toText f))
  else return ()

end SampledSets

namespace ThetaSketchedSets

end ThetaSketchedSets

end Ratios

/-! Sampled sets. -/

section Sampled

variable (toText : ℝ → String)

end Sampled

/-! Sketched sets. -/

section Sketched

variable {seed : UInt64} {a b : SketchView} {A B : List ℕ}

end Sketched

end ThetaSketch
