import ThetaSketch.Format.Parser
import ThetaSketch.Format.UnpackBlocks
import ThetaSketch.Sketch.Sketch

/-! Readers of compact sketches: one copies the entries out of the bytes, the
other wraps the bytes and decodes entries while it is iterated.
-/

set_option autoImplicit false

namespace ThetaSketch

def undoDeltas (previous : ℕ) : List ℕ → List ℕ
  | [] => []
  | delta :: rest =>
    let entry := (delta + previous) % 2 ^ 64
    entry :: undoDeltas entry rest

def readWords (bytes : List UInt8) : ℕ → ℕ → Run (List ℕ)
  | 0, _ => return []
  | count + 1, ptr => do
    let word ← readAt bytes ptr 8
    let rest ← readWords bytes count (ptr + 8)
    return word :: rest

def unpackBlocks (bytes : List UInt8) (entryBits : ℕ) : ℕ → ℕ → Run (List ℕ × ℕ)
  | 0, ptr => return ([], ptr)
  | blocks + 1, ptr => do
    let block ← unpackBitsBlock8 (List.replicate 8 0) bytes ptr entryBits
    let (rest, ptr) ← unpackBlocks bytes entryBits blocks (ptr + entryBits)
    return (block ++ rest, ptr)

def unpackRest (bytes : List UInt8) (entryBits : ℕ) : ℕ → ℕ → ℕ → Run (List ℕ)
  | 0, _, _ => return []
  | count + 1, ptr, offset => do
    let (value, ptr, offset) ← unpackBits bytes entryBits ptr offset
    let rest ← unpackRest bytes entryBits count ptr offset
    return value :: rest

/-- The size of a new vector of 64-bit words, which a 32-bit `size_t` counts in bytes. -/
def Run.newVector (count : ℕ) : Run Unit :=
  if count < 2 ^ 29 then pure () else throw (.lengthErr count)

theorem Run.newVector_eq {count : ℕ} (fits : count < 2 ^ 29) : Run.newVector count = .ok () := if_pos fits

theorem Run.newVector_eq_ok {count : ℕ} {made : Unit} : Run.newVector count = .ok made ↔ count < 2 ^ 29 := by
  by_cases fits : count < 2 ^ 29
  · exact ⟨fun _ => fits, Run.newVector_eq⟩
  · rw [newVector, if_neg fits]
    exact ⟨by rintro ⟨⟩, fun small => absurd small fits⟩

theorem Run.newVector_long {count : ℕ} (long : ¬ count < 2 ^ 29) :
    Run.newVector count = .error (.lengthErr count) := if_neg long

theorem defined_newVector_bind {A : Type} {count : ℕ} {next : Unit → Run A} :
    Defined (Run.newVector count >>= next) ↔ (count < 2 ^ 29 → Defined (next ())) := by
  by_cases fits : count < 2 ^ 29
  · rw [Run.newVector_eq fits, Run.ok_bind]
    exact ⟨fun defined _ => defined, fun defined => defined fits⟩
  · rw [Run.newVector_long fits, Run.error_bind]
    exact ⟨fun _ small => absurd small fits, fun _ => defined_error_iff.mpr (by rintro what ⟨⟩)⟩

open CompactThetaSketchParser (parse)

def CompactSketch.deserialize (bytes : List UInt8) (seed : UInt64) : Run CompactSketch := do
  let data ← parse bytes seed false
  let start := data.entriesStart.getD 0
  if data.entryBits = 64 then
    -- The range of these words leaves the bytes before a vector of it is too long.
    let entries ← readWords bytes data.numEntries start
    return CompactSketch.new data.isEmpty data.isOrdered data.seedHash data.theta entries
  else
    Run.newVector data.numEntries
    let (blocks, ptr) ← unpackBlocks bytes data.entryBits (data.numEntries / 8) start
    let rest ← unpackRest bytes data.entryBits (data.numEntries % 8) ptr 0
    return CompactSketch.new data.isEmpty data.isOrdered data.seedHash data.theta
      (undoDeltas 0 (blocks ++ rest))

/-- `wrapped_compact_theta_sketch_alloc::const_iterator`, without the fields that
never change. -/
structure WrappedIterator where
  ptr : ℕ
  index : ℕ
  previous : ℕ
  isBlockMode : Bool
  bufI : ℕ
  offset : ℕ
  buffer : List ℕ
  deriving DecidableEq, Repr

namespace WrappedIterator

def loadBlock (bytes : List UInt8) (entryBits : ℕ) (it : WrappedIterator) : Run WrappedIterator := do
  let block ← unpackBitsBlock8 it.buffer bytes it.ptr entryBits
  let buffer := undoDeltas it.previous block
  return { it with
    ptr := it.ptr + entryBits
    buffer := buffer
    previous := buffer.getLastD it.previous }

def loadOne (bytes : List UInt8) (entryBits : ℕ) (it : WrappedIterator) : Run WrappedIterator := do
  let (value, ptr, offset) ← unpackBits bytes entryBits it.ptr it.offset
  let entry := (value + it.previous) % 2 ^ 64
  return { it with
    ptr := ptr
    offset := offset
    buffer := it.buffer.set 0 entry
    previous := entry }

def begin (bytes : List UInt8) (start entryBits numEntries : ℕ) : Run WrappedIterator :=
  let it : WrappedIterator := {
    ptr := start, index := 0, previous := 0, isBlockMode := decide (8 ≤ numEntries)
    bufI := 0, offset := 0, buffer := List.replicate 8 0 }
  if entryBits = 64 then return it
  else if 0 < numEntries then
    if it.isBlockMode then it.loadBlock bytes entryBits else it.loadOne bytes entryBits
  else return it

/-- `operator++`. The sum `index_ + 8` is one of 32-bit words. -/
def next (bytes : List UInt8) (entryBits numEntries : ℕ) (it : WrappedIterator) :
    Run WrappedIterator :=
  if entryBits = 64 then return { it with ptr := it.ptr + 8 }
  else
    let it := { it with index := it.index + 1 }
    if it.index < numEntries then
      if it.isBlockMode then
        let it := { it with bufI := it.bufI + 1 }
        if it.bufI = 8 then
          let it := { it with bufI := 0 }
          if wrap32 (it.index + 8) < numEntries then it.loadBlock bytes entryBits
          else { it with isBlockMode := false }.loadOne bytes entryBits
        else return it
      else it.loadOne bytes entryBits
    else return it

def deref (bytes : List UInt8) (entryBits : ℕ) (it : WrappedIterator) : Run ℕ :=
  if entryBits = 64 then readAt bytes it.ptr 8 else return it.buffer.getD it.bufI 0

/-- The reads of a loop that is still to make `count` turns; it ends at the first
one that fails. -/
def iterate (bytes : List UInt8) (entryBits numEntries : ℕ) :
    ℕ → Run WrappedIterator → List (Run ℕ)
  | 0, _ => []
  | _ + 1, .error exit => [.error exit]
  | count + 1, .ok it =>
    it.deref bytes entryBits :: iterate bytes entryBits numEntries count (it.next bytes entryBits numEntries)

end WrappedIterator

def CompactThetaSketchData.view (data : CompactThetaSketchData) (bytes : List UInt8) : SketchView where
  isEmpty := data.isEmpty
  isOrdered := data.isOrdered
  seedHash := data.seedHash
  theta := data.theta
  numRetained := data.numEntries
  entries := WrappedIterator.iterate bytes data.entryBits data.numEntries data.numEntries
    (WrappedIterator.begin bytes (data.entriesStart.getD 0) data.entryBits data.numEntries)

def wrap (bytes : List UInt8) (seed : UInt64) (dumpOnError : Bool) : Run SketchView := do
  let data ← parse bytes seed dumpOnError
  return data.view bytes

end ThetaSketch
