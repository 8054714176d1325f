import Mathlib.Algebra.Ring.Nat

/-! Ways in which a call fails to return, and the constants of the theta sketch code.

The code is compiled without exceptions: every `THROW_` macro prints its message
and exits the process with a code of its own, and `BAIL` aborts. What the
language leaves undefined is kept apart from these deliberate exits.
-/

set_option autoImplicit false

namespace ThetaSketch

/-- Behaviour that the language does not define. -/
inductive Undefined where
  | outOfBounds (offset width : ℕ)
  | shiftTooWide (amount : ℕ)
  | wrongClass
  | useAfterFree
  deriving DecidableEq, Repr

inductive Exit where
  | invalidArg (message : String)
  | outOfRange (message : String)
  | logicErr (message : String)
  | lengthErr (count : ℕ)
  | bail (message : String)
  | undefined (what : Undefined)
  deriving DecidableEq, Repr

abbrev Run := Except Exit

/-- The outcomes that the code asks for: a return, or one of its own exits. -/
def Defined {A : Type} (run : Run A) : Prop :=
  ∀ what, run ≠ .error (.undefined what)

theorem Run.bind_eq_ok {A B : Type} {run : Run A} {next : A → Run B} {result : B} :
    run >>= next = .ok result ↔ ∃ value, run = .ok value ∧ next value = .ok result := by
  cases run with
  | error exit => simp [bind, Except.bind]
  | ok value => simp [bind, Except.bind]

theorem defined_ok {A : Type} (value : A) : Defined (.ok value : Run A) := by
  intro what impossible
  cases impossible

theorem defined_error_iff {A : Type} {exit : Exit} :
    Defined (.error exit : Run A) ↔ ∀ what, exit ≠ .undefined what := by
  simp [Defined]

theorem defined_bind_iff {A B : Type} {run : Run A} {next : A → Run B} :
    Defined (run >>= next) ↔ Defined run ∧ ∀ value, run = .ok value → Defined (next value) := by
  cases run with
  | error exit => simp [Defined, bind, Except.bind]
  | ok value => simp [Defined, bind, Except.bind]

@[simp] theorem Run.pure_eq {A : Type} (value : A) : (pure value : Run A) = .ok value := rfl

@[simp] theorem Run.throw_eq {A : Type} (exit : Exit) : (throw exit : Run A) = .error exit := rfl

@[simp] theorem Run.ok_bind {A B : Type} (value : A) (next : A → Run B) :
    (Except.ok value >>= next : Run B) = next value := rfl

@[simp] theorem Run.error_bind {A B : Type} (exit : Exit) (next : A → Run B) :
    (Except.error exit >>= next : Run B) = .error exit := rfl

/-! Constants. -/

def maxTheta : ℕ := 2 ^ 63 - 1

def defaultSeed : UInt64 := 9001

def minLgK : ℕ := 5
def maxLgK : ℕ := 26
def defaultLgK : ℕ := 12

inductive ResizeFactor where
  | X1 | X2 | X4 | X8
  deriving DecidableEq, Repr

def ResizeFactor.toNat : ResizeFactor → ℕ
  | .X1 => 0
  | .X2 => 1
  | .X4 => 2
  | .X8 => 3

def defaultResizeFactor : ResizeFactor := .X8

end ThetaSketch
