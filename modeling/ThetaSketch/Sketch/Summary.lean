import ThetaSketch.Common.BinomialBounds
import ThetaSketch.Sketch.Sketch

/-! The estimate of a sketch, its error bounds and the text that shows them. -/

set_option autoImplicit false

namespace ThetaSketch

namespace SketchView

def isEstimationMode (sketch : SketchView) : Bool :=
  decide (sketch.theta < maxTheta) && !sketch.isEmpty

def getTheta (sketch : SketchView) : ℚ := sketch.theta / maxTheta

/-- Doubles are taken as exact, here and below. The code rounds both quotients, its `MAX_THETA` is
`2 ^ 63` as a double, and at theta zero this is infinite or not a number. -/
def getEstimate (sketch : SketchView) : ℚ := sketch.numRetained / sketch.getTheta

section Text

variable (doubles : Doubles)

def getLowerBound (sketch : SketchView) (numStdDevs : ℕ) : Run ℚ :=
  if !sketch.isEstimationMode then return sketch.numRetained
  else BinomialBounds.getLowerBound doubles sketch.numRetained sketch.getTheta numStdDevs

def getUpperBound (sketch : SketchView) (numStdDevs : ℕ) : Run ℚ :=
  if !sketch.isEstimationMode then return sketch.numRetained
  else BinomialBounds.getUpperBound doubles sketch.numRetained sketch.getTheta numStdDevs

def trueOrFalse (flag : Bool) : String := if flag then "true" else "false"

/-- `to_string` of a compact sketch, which has no specifics of its own to print. -/
def toText (sketch : SketchView) : Run String := do
  let lower ← sketch.getLowerBound doubles 2
  let upper ← sketch.getUpperBound doubles 2
  return "### Theta sketch summary:\n"
    ++ "   num retained entries : " ++ toString sketch.numRetained ++ "\n"
    ++ "   seed hash            : " ++ toString sketch.seedHash ++ "\n"
    ++ "   empty?               : " ++ trueOrFalse sketch.isEmpty ++ "\n"
    ++ "   ordered?             : " ++ trueOrFalse sketch.isOrdered ++ "\n"
    ++ "   estimation mode?     : " ++ trueOrFalse sketch.isEstimationMode ++ "\n"
    ++ "   theta (fraction)     : " ++ doubles.print sketch.getTheta ++ "\n"
    ++ "   theta (raw 64-bit)   : " ++ toString sketch.theta ++ "\n"
    ++ "   estimate             : " ++ doubles.print sketch.getEstimate ++ "\n"
    ++ "   lower bound 95% conf : " ++ doubles.print lower ++ "\n"
    ++ "   upper bound 95% conf : " ++ doubles.print upper ++ "\n"
    ++ "### End sketch summary\n"

variable {sketch : SketchView}

theorem getTheta_unit (bound : sketch.theta ≤ maxTheta) : 0 ≤ sketch.getTheta ∧ sketch.getTheta ≤ 1 := by
  have positive : (0 : ℚ) < maxTheta := by norm_num [maxTheta]
  have below : (sketch.theta : ℚ) ≤ maxTheta := by exact_mod_cast bound
  exact ⟨by unfold getTheta; positivity, (div_le_one positive).mpr below⟩

theorem getLowerBound_returns (bound : sketch.theta ≤ maxTheta) {numStdDevs : ℕ}
    (devs : 1 ≤ numStdDevs ∧ numStdDevs ≤ 3) :
    ∃ lower, sketch.getLowerBound doubles numStdDevs = .ok lower := by
  unfold getLowerBound
  split_ifs
  · exact ⟨_, rfl⟩
  · exact BinomialBounds.getLowerBound_returns doubles _ (getTheta_unit bound) devs

theorem getUpperBound_returns (bound : sketch.theta ≤ maxTheta) {numStdDevs : ℕ}
    (devs : 1 ≤ numStdDevs ∧ numStdDevs ≤ 3) :
    ∃ upper, sketch.getUpperBound doubles numStdDevs = .ok upper := by
  unfold getUpperBound
  split_ifs
  · exact ⟨_, rfl⟩
  · exact BinomialBounds.getUpperBound_returns doubles _ (getTheta_unit bound) devs

theorem toText_returns (bound : sketch.theta ≤ maxTheta) : ∃ text, sketch.toText doubles = .ok text := by
  obtain ⟨lower, fromBelow⟩ := getLowerBound_returns doubles bound (⟨by omega, by omega⟩ : 1 ≤ 2 ∧ 2 ≤ 3)
  obtain ⟨upper, fromAbove⟩ := getUpperBound_returns doubles bound (⟨by omega, by omega⟩ : 1 ≤ 2 ∧ 2 ≤ 3)
  rw [toText, fromBelow, Run.ok_bind, fromAbove]
  exact ⟨_, rfl⟩

end Text

end SketchView

end ThetaSketch
