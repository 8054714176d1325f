import ThetaSketch.Format.Deserializer
import ThetaSketch.Format.Serializer

/-! The reader of compact sketches from an input stream.

It does not know the size of what it reads. It looks at the stream only at the end
of a version, so a stream that ends early shows in locals that were never filled.
-/

set_option autoImplicit false

namespace ThetaSketch

/-- The exits of this reader: those of the code, and an exit for `THROW_RUNTIME_ERR`. -/
inductive StreamExit where
  | exit (exit : Exit)
  | runtimeErr (message : String)
  deriving DecidableEq, Repr

/-- An input stream: the bytes ahead and what `good()` returns. A local that is to be
filled holds the next bytes of `unset` before. -/
structure InputStream where
  rest : List UInt8
  good : Bool
  unset : ℕ → UInt8

abbrev StreamRun := StateT InputStream (Except StreamExit)

namespace StreamRun

def fail {A : Type} (exit : StreamExit) : StreamRun A := fun _ => .error exit

def lift {A : Type} (run : Run A) : StreamRun A := fun stream =>
  match run with
  | .ok value => .ok (value, stream)
  | .error exit => .error (.exit exit)

/-- `istream::read` over bytes that hold `old`. A stream that has fewer bytes ahead
stores them and fails; one that failed stores nothing. -/
def fill (old : List UInt8) : StreamRun (List UInt8) := fun stream =>
  let unset := fun index => stream.unset (index + old.length)
  if stream.good then
    .ok (stream.rest.take old.length ++ old.drop stream.rest.length,
      ⟨stream.rest.drop old.length, decide (old.length ≤ stream.rest.length), unset⟩)
  else .ok (old, { stream with unset := unset })

def readInt (width : ℕ) : StreamRun ℕ := do
  let stream ← get
  let bytes ← fill ((List.range width).map stream.unset)
  return LittleEndian.decode bytes

def readBuffer (buffer : List UInt8) (size : ℕ) : StreamRun (List UInt8) :=
  if buffer.length < size then fail (.exit (.undefined (.outOfBounds 0 size)))
  else do
    let bytes ← fill (buffer.take size)
    return bytes ++ buffer.drop size

def checkGood : StreamRun Unit := do
  let stream ← get
  if stream.good then return () else fail (.runtimeErr "error reading from std::istream")

def newVector (count : ℕ) : StreamRun Unit := lift (Run.newVector count)

/-- `read(is, entries.data(), sizeof(uint64_t) * entries.size())`, word by word over zeros. -/
def fillWords : ℕ → StreamRun (List ℕ)
  | 0 => return []
  | count + 1 => do
    let word ← fill (List.replicate 8 0)
    let rest ← fillWords count
    return LittleEndian.decode word :: rest

def countLoop : ℕ → ℕ → ℕ → StreamRun ℕ
  | 0, _, numEntries => return numEntries
  | remaining + 1, i, numEntries => do
    let byte ← readInt 1
    if 32 ≤ i * 8 then fail (.exit (.undefined (.shiftTooWide (i * 8))))
    else countLoop remaining (i + 1) (numEntries ||| wrap32 (byte <<< (i * 8)))

/-- Blocks of eight values, each through one and the same buffer, which is returned. -/
def unpackBlocks (entryBits : ℕ) : ℕ → List UInt8 → StreamRun (List ℕ × List UInt8)
  | 0, buffer => return ([], buffer)
  | blocks + 1, buffer => do
    let buffer ← readBuffer buffer buffer.length
    let block ← lift (unpackBitsBlock8 (List.replicate 8 0) buffer 0 entryBits)
    let (rest, buffer) ← unpackBlocks entryBits blocks buffer
    return (block ++ rest, buffer)

end StreamRun

open StreamRun

namespace CompactSketch

/-! Statements that only some sketches reach. -/

def readEntriesStream (isEmpty : Bool) (numEntries : ℕ) : StreamRun (List ℕ) :=
  if isEmpty then return [] else fillWords numEntries

def checkSeedHashStream (isEmpty : Bool) (seedHash : ℕ) (seed : UInt64) : StreamRun Unit :=
  if isEmpty then return () else lift (checkSeedHash seedHash (computeSeedHash seed))

def readTheta (hasTheta : Bool) : StreamRun ℕ :=
  if hasTheta then readInt 8 else return maxTheta

/-! Each version. -/

def deserializeV1 (seed : UInt64) : StreamRun CompactSketch := do
  let _ ← readInt 1
  let _ ← readInt 4
  let numEntries ← readInt 4
  let _ ← readInt 4
  let theta ← readInt 8
  newVector numEntries
  let isEmpty := decide (numEntries = 0 ∧ theta = maxTheta)
  let entries ← readEntriesStream isEmpty numEntries
  checkGood
  return CompactSketch.new isEmpty true (computeSeedHash seed) theta entries

def deserializeV2 (preambleLongs : ℕ) (seed : UInt64) : StreamRun CompactSketch := do
  let _ ← readInt 1
  let _ ← readInt 2
  let seedHash ← readInt 2
  lift (checkSeedHash seedHash (computeSeedHash seed))
  if preambleLongs = 1 then
    checkGood
    return CompactSketch.new true true seedHash maxTheta []
  else if preambleLongs = 2 then
    let numEntries ← readInt 4
    let _ ← readInt 4
    newVector numEntries
    -- This return does not look at the stream.
    if numEntries = 0 then return CompactSketch.new true true seedHash maxTheta []
    else
      let entries ← fillWords numEntries
      checkGood
      return CompactSketch.new false true seedHash maxTheta entries
  else if preambleLongs = 3 then
    let numEntries ← readInt 4
    let _ ← readInt 4
    let theta ← readInt 8
    let isEmpty := decide (numEntries = 0 ∧ theta = maxTheta)
    newVector numEntries
    let entries ← readEntriesStream isEmpty numEntries
    checkGood
    return CompactSketch.new isEmpty true seedHash theta entries
  else fail (.exit (.invalidArg (toString preambleLongs ++
    " longs of premable, but expected 1, 2, or 3")))

def readPreambleV3 (isEmpty : Bool) (preambleLongs : ℕ) : StreamRun (ℕ × ℕ) :=
  if isEmpty then return (0, maxTheta)
  else if preambleLongs = 1 then return (1, maxTheta)
  else do
    let numEntries ← readInt 4
    let _ ← readInt 4
    let theta ← readTheta (decide (2 < preambleLongs))
    return (numEntries, theta)

def deserializeV3 (preambleLongs : ℕ) (seed : UInt64) : StreamRun CompactSketch := do
  let _ ← readInt 2
  let flags ← readInt 1
  let seedHash ← readInt 2
  let isEmpty := flags.testBit isEmptyFlag
  checkSeedHashStream isEmpty seedHash seed
  let (numEntries, theta) ← readPreambleV3 isEmpty preambleLongs
  newVector numEntries
  let entries ← readEntriesStream isEmpty numEntries
  checkGood
  return CompactSketch.new isEmpty (flags.testBit isOrderedFlag) seedHash theta entries

def readTail (entryBits count : ℕ) (buffer : List UInt8) : StreamRun (List UInt8) :=
  if 0 < count then readBuffer buffer (wholeBytesToHoldBits (count * entryBits)) else return buffer

def readPackedEntries (entryBits numEntries : ℕ) : StreamRun (List ℕ) := do
  let (blocks, buffer) ← StreamRun.unpackBlocks entryBits (numEntries / 8)
    (List.replicate entryBits 0)
  let buffer ← readTail entryBits (numEntries % 8) buffer
  checkGood
  let rest ← lift (unpackRest buffer entryBits (numEntries % 8) 0 0)
  return undoDeltas 0 (blocks ++ rest)

def deserializeV4 (preambleLongs : ℕ) (seed : UInt64) : StreamRun CompactSketch := do
  let entryBits ← readInt 1
  let numEntriesBytes ← readInt 1
  let flags ← readInt 1
  let seedHash ← readInt 2
  let isEmpty := flags.testBit isEmptyFlag
  checkSeedHashStream isEmpty seedHash seed
  let theta ← readTheta (decide (1 < preambleLongs))
  let numEntries ← StreamRun.countLoop numEntriesBytes 0 0
  newVector numEntries
  let entries ← readPackedEntries entryBits numEntries
  return CompactSketch.new isEmpty (flags.testBit isOrderedFlag) seedHash theta entries

def deserializeStream (seed : UInt64) : StreamRun CompactSketch := do
  let preambleLongs ← readInt 1
  let serialVersion ← readInt 1
  let type ← readInt 1
  lift (checkSketchType type CompactThetaSketchParser.sketchType)
  if serialVersion = 4 then deserializeV4 preambleLongs seed
  else if serialVersion = 3 then deserializeV3 preambleLongs seed
  else if serialVersion = 1 then deserializeV1 seed
  else if serialVersion = 2 then deserializeV2 preambleLongs seed
  else fail (.exit (.invalidArg ("unexpected sketch serialization version " ++
    toString serialVersion)))

end CompactSketch

end ThetaSketch
