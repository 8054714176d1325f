import ThetaSketch.Extension.Plan

/-! Callbacks of one aggregate, called in any order.

A database keeps the handles that earlier calls returned and gives them back as it
likes. A handle that was given to a call is used up, unless the call returns it.
-/

set_option autoImplicit false

namespace ThetaSketch

inductive AggregateFunction where
  | build | buildByHash | union | intersection
  deriving DecidableEq, Repr

namespace AggregateFunction

/-- What a row is made of; a list that is null in the source is none. -/
abbrev Row : AggregateFunction → Type
  | buildByHash => UInt64
  | build | union | intersection => Option Blob

def callbacks : (function : AggregateFunction) → Aggregate function.Row
  | build => ⟨extensionSketchHandleBuildAccum, extensionSketchHandleUnionMerge⟩
  | buildByHash => ⟨extensionSketchHandleBuildAccumByHash, extensionSketchHandleUnionMerge⟩
  | union => ⟨extensionSketchHandleUnionAccum, extensionSketchHandleUnionMerge⟩
  | intersection => ⟨extensionSketchHandleIntersectionAccum, extensionSketchHandleIntersectionMerge⟩

def accumulator : AggregateFunction → HandleClass
  | build | buildByHash => .updateThetaSketch
  | union => .thetaUnion
  | intersection => .thetaIntersection

def skips : (function : AggregateFunction) → function.Row → Bool
  | buildByHash, _ => false
  | build, row | union, row | intersection, row => row.isNone

end AggregateFunction

inductive Callback (Row : Type) where
  | init
  | accum (handle : Handle) (row : Row)
  | merge (left right : Handle)
  | serialize (handle : Handle) (malloc : ℕ → UInt8)
  | deserialize (data : Blob)

namespace Callback

variable {Row : Type}

def handles : Callback Row → List ℕ
  | init | deserialize _ => []
  | accum handle _ | serialize handle _ => handle.toList
  | merge left right => left.toList ++ right.toList

def code (aggregate : Aggregate Row) : Callback Row → HeapM Handle
  | init => return extensionSketchHandleInit
  | accum handle row => aggregate.accum handle row
  | merge left right => aggregate.merge left right
  | serialize handle malloc => do
    let _ ← extensionSketchHandleSerialize handle malloc
    return none
  | deserialize data => extensionSketchHandleDeserialize data

end Callback

/-- The heap of an instance, and the handles that the database still has. -/
structure Session where
  heap : Heap
  live : List ℕ

/-- What runs of callbacks lead to, when every call is given live handles and meets
a condition on the state before it. -/
inductive Session.Reached (function : AggregateFunction)
    (meets : Heap → Callback function.Row → Prop) : Session → Prop where
  | start (heap : Heap) (unused : heap.accesses = []) : Reached function meets ⟨heap, []⟩
  | step {session : Session} {call : Callback function.Row} {handle : Handle} {after : Heap}
      (reached : Reached function meets session)
      (given : ∀ address ∈ call.handles, address ∈ session.live) (met : meets session.heap call)
      (run : call.code function.callbacks session.heap = .ok handle after) :
      Reached function meets
        ⟨after, session.live.filter (· ∉ call.handles) ++ handle.toList⟩

section Reached

variable {function : AggregateFunction} {meets : Heap → Callback function.Row → Prop}

theorem Session.Reached.invariant {session : Session} (reached : session.Reached function meets)
    {kept : Heap → ℕ → Prop}
    (preserved : ∀ {heap : Heap} {call : Callback function.Row} {handle : Handle} {after : Heap},
      (∀ address ∈ call.handles, kept heap address) → meets heap call →
      call.code function.callbacks heap = .ok handle after →
      (∀ address ∉ call.handles, kept heap address → kept after address) ∧
        ∀ address ∈ handle, kept after address) :
    ∀ address ∈ session.live, kept session.heap address := by
  induction reached with
  | start => simp
  | step reached given met run ih =>
    obtain ⟨others, new⟩ := preserved (fun address member => ih address (given address member)) met run
    intro address member
    rcases List.mem_append.mp member with old | returned
    · obtain ⟨inside, apart⟩ := List.mem_filter.mp old
      exact others address (of_decide_eq_true apart) (ih address inside)
    · exact new address (by simpa using returned)

def Session.call (meets : Heap → Callback function.Row → Prop) [∀ heap call, Decidable (meets heap call)]
    (session : Session) (call : Callback function.Row) : Option Session :=
  if (∀ address ∈ call.handles, address ∈ session.live) ∧ meets session.heap call then
    match call.code function.callbacks session.heap with
    | .ok handle after => some ⟨after, session.live.filter (· ∉ call.handles) ++ handle.toList⟩
    | .error _ _ => none
  else none

theorem Session.Reached.calls [∀ heap call, Decidable (meets heap call)] (calls : List (Callback function.Row))
    {session last : Session} (reached : session.Reached function meets)
    (run : calls.foldlM (Session.call meets) session = some last) : last.Reached function meets := by
  induction calls generalizing session with
  | nil =>
    cases run
    exact reached
  | cons call rest ih =>
    obtain ⟨next, called, later⟩ := Option.bind_eq_some_iff.mp run
    refine ih ?_ later
    unfold Session.call at called
    split_ifs at called with met
    cases ran : call.code function.callbacks session.heap with
    | error exit after =>
      rw [ran] at called
      cases called
    | ok handle after =>
      rw [ran] at called
      cases called
      exact .step reached met.1 met.2 ran

end Reached

end ThetaSketch
