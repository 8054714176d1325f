import Mathlib.Data.List.Sort
import Mathlib.Data.Rat.Floor
import ThetaSketch.Common.Exit
import ThetaSketch.Common.MurmurHash3
import ThetaSketch.Library.OpenAddressing

/-! The hash table under update sketches, unions and intersections.

Slots hold 64-bit hashes and zero marks an empty slot. Collisions are resolved
by double hashing with an odd, key-dependent stride. A table that outgrows its
nominal size keeps its smallest keys and remembers the bound in `theta`.
-/

set_option autoImplicit false

namespace ThetaSketch

structure HashTable where
  isEmpty : Bool
  lgCurSize : ℕ
  lgNomSize : ℕ
  rf : ResizeFactor
  /-- The sampling probability, a single-precision number. -/
  p : ℚ
  numEntries : ℕ
  theta : ℕ
  seed : UInt64
  /-- The slots; a table of `lgCurSize` zero has none. -/
  entries : List ℕ
  deriving Repr

/-- Scaling by a power of two is exact, so no rounding happens before the cast. -/
def startingThetaFromP (p : ℚ) : ℕ :=
  if p < 1 then ⌊2 ^ 63 * p⌋.toNat else maxTheta

def startingSubMultiple (lgTgt lgMin lgRf : ℕ) : ℕ :=
  if lgTgt ≤ lgMin then lgMin else if lgRf = 0 then lgTgt else (lgTgt - lgMin) % lgRf + lgMin

/-- The size of a table that takes `n` keys at a load of 15/16. The shift is by at
most 31 bits, for any count of keys that an address space of 32 bits can hold. -/
def lgSizeFromCount (n : ℕ) : ℕ :=
  Nat.log2 n + if 15 * 2 ^ (Nat.log2 n + 1) / 16 < n then 2 else 1

/-- One admissible outcome of `std::nth_element`: the whole range sorted. -/
def nthElement (range : List ℕ) : List ℕ := range.insertionSort (· ≤ ·)

def keyNotZero (entries : List ℕ) : List ℕ := entries.filter (· ≠ 0)

namespace HashTable

def new (lgCurSize lgNomSize : ℕ) (rf : ResizeFactor) (p : ℚ) (theta : ℕ) (seed : UInt64)
    (isEmpty : Bool) : HashTable where
  isEmpty := isEmpty
  lgCurSize := lgCurSize
  lgNomSize := lgNomSize
  rf := rf
  p := p
  numEntries := 0
  theta := theta
  seed := seed
  entries := if 0 < lgCurSize then List.replicate (2 ^ lgCurSize) 0 else []

section New

variable (lgCurSize lgNomSize : ℕ) (rf : ResizeFactor) (p : ℚ) (theta : ℕ) (seed : UInt64)
  (isEmpty : Bool)

@[simp] theorem new_isEmpty : (new lgCurSize lgNomSize rf p theta seed isEmpty).isEmpty = isEmpty :=
  rfl

@[simp] theorem new_theta : (new lgCurSize lgNomSize rf p theta seed isEmpty).theta = theta := rfl

@[simp] theorem new_seed : (new lgCurSize lgNomSize rf p theta seed isEmpty).seed = seed := rfl

@[simp] theorem new_numEntries :
    (new lgCurSize lgNomSize rf p theta seed isEmpty).numEntries = 0 := rfl

end New

def getCapacity (lgCurSize lgNomSize : ℕ) : ℕ :=
  if lgCurSize ≤ lgNomSize then 2 ^ lgCurSize / 2 else 15 * 2 ^ lgCurSize / 16

def strideMask : ℕ := 2 ^ 7 - 1

def getStride (key lgSize : ℕ) : ℕ := 2 * ((key >>> lgSize) &&& strideMask) + 1

/-- The loop of `find` at slot `index`; the fuel bounds the steps until the walk
is back at `loopIndex`. -/
def findLoop (entries : List ℕ) (key mask stride loopIndex : ℕ) : ℕ → ℕ → Run (ℕ × Bool)
  | 0, _ => .error (.logicErr "key not found and no empty slots!")
  | fuel + 1, index =>
    match entries[index]? with
    | none => .error (.undefined (.outOfBounds index 8))
    | some probe =>
      if probe = 0 then .ok (index, false)
      else if probe = key then .ok (index, true)
      else
        let next := (index + stride) &&& mask
        if next = loopIndex then .error (.logicErr "key not found and no empty slots!")
        else findLoop entries key mask stride loopIndex fuel next

def findIn (entries : List ℕ) (lgSize key : ℕ) : Run (ℕ × Bool) :=
  let size := 2 ^ lgSize
  let mask := size - 1
  findLoop entries key mask (getStride key lgSize) (key &&& mask) size (key &&& mask)

def find (table : HashTable) (key : ℕ) : Run (ℕ × Bool) :=
  findIn table.entries table.lgCurSize key

def place (lgSize : ℕ) (entries : List ℕ) (key : ℕ) : Run (List ℕ) := do
  let slot ← findIn entries lgSize key
  return entries.set slot.1 key

def resize (table : HashTable) : Run HashTable := do
  let lgNewSize := min (table.lgCurSize + table.rf.toNat) (table.lgNomSize + 1)
  let newEntries ← (keyNotZero table.entries).foldlM (place lgNewSize)
    (List.replicate (2 ^ lgNewSize) 0)
  return { table with entries := newEntries, lgCurSize := lgNewSize }

/-- The scan of `consolidate_non_empty`: slots from `i` up to `j` are empty, and
the next key at `j` or later moves to slot `i`. -/
def consolidateLoop (num : ℕ) : ℕ → List ℕ → ℕ → ℕ → List ℕ
  | 0, entries, _, _ => entries
  | fuel + 1, entries, i, j =>
    match entries[j]? with
    | none => entries
    | some entry =>
      if entry = 0 then consolidateLoop num fuel entries i (j + 1)
      else
        let moved := (entries.set i entry).set j 0
        if i + 1 = num then moved else consolidateLoop num fuel moved (i + 1) (j + 1)

def consolidateNonEmpty (entries : List ℕ) (num : ℕ) : List ℕ :=
  let i := (entries.takeWhile (· ≠ 0)).length
  consolidateLoop num entries.length entries i (i + 1)

/-- Keep the `2 ^ lgNomSize` smallest keys; the next one becomes `theta`. -/
def rebuild (table : HashTable) : Run HashTable := do
  let nominalSize := 2 ^ table.lgNomSize
  let consolidated := consolidateNonEmpty table.entries table.numEntries
  let oldEntries := nthElement (consolidated.take table.numEntries)
  match oldEntries[nominalSize]? with
  | none => .error (.undefined (.outOfBounds nominalSize 8))
  | some theta =>
    let entries ← (oldEntries.take nominalSize).foldlM (place table.lgCurSize)
      (List.replicate (2 ^ table.lgCurSize) 0)
    return { table with theta := theta, entries := entries, numEntries := nominalSize }

def insert (table : HashTable) (slot entry : ℕ) : Run HashTable :=
  let table := { table with
    entries := table.entries.set slot entry
    numEntries := table.numEntries + 1 }
  if getCapacity table.lgCurSize table.lgNomSize < table.numEntries then
    if table.lgCurSize ≤ table.lgNomSize then table.resize else table.rebuild
  else .ok table

/-- `find`, then `insert` when the key is new: the lines that `update`,
`update_by_hash` and the union share. -/
def findOrInsert (table : HashTable) (hash : ℕ) : Run HashTable := do
  let result ← table.find hash
  if result.2 then return table else table.insert result.1 hash

def put (table : HashTable) (hash : ℕ) : Run HashTable := do
  let result ← table.find hash
  table.insert result.1 hash

def trim (table : HashTable) : Run HashTable :=
  if 2 ^ table.lgNomSize < table.numEntries then table.rebuild else .ok table

def reset (table : HashTable) : HashTable :=
  let startingLgSize := startingSubMultiple (table.lgNomSize + 1) minLgK table.rf.toNat
  { table with
    lgCurSize := startingLgSize
    entries := List.replicate (2 ^ startingLgSize) 0
    numEntries := 0
    theta := startingThetaFromP table.p
    isEmpty := true }

/-- A hash that reaches `theta` is answered by zero, which no slot stores. -/
def screen (table : HashTable) (hash : ℕ) : HashTable × ℕ :=
  ({ table with isEmpty := false }, if table.theta ≤ hash then 0 else hash)

def hashAndScreen (table : HashTable) (data : List UInt8) : HashTable × ℕ :=
  let hash := computeHash data table.seed
  ({ table with isEmpty := false }, if table.theta ≤ hash then 0 else hash)

def iterate (table : HashTable) : List ℕ := keyNotZero table.entries

def stored (table : HashTable) : Finset ℕ := OpenAddressing.keys 0 table.entries

end HashTable

structure ThetaBaseBuilder where
  lgK : ℕ := defaultLgK
  rf : ResizeFactor := defaultResizeFactor
  p : ℚ := 1
  seed : UInt64 := defaultSeed

namespace ThetaBaseBuilder

def startingTheta (builder : ThetaBaseBuilder) : ℕ := startingThetaFromP builder.p

def startingLgSize (builder : ThetaBaseBuilder) : ℕ :=
  startingSubMultiple (builder.lgK + 1) minLgK builder.rf.toNat

def table (builder : ThetaBaseBuilder) : HashTable :=
  HashTable.new builder.startingLgSize builder.lgK builder.rf builder.p builder.startingTheta
    builder.seed true

end ThetaBaseBuilder

end ThetaSketch
