import ThetaSketch.Common.Memory
import ThetaSketch.Common.MurmurHash3

/-! The parser of serialized compact sketches.

Four serial versions share an eight-byte preamble. Sizes are `size_t` and counts
`uint32_t`, both of 32 bits, so the arithmetic of the size checks wraps. A read
outside the byte string and a shift by 32 bits or more are recorded as undefined.
-/

set_option autoImplicit false

namespace ThetaSketch

/-- `compact_theta_sketch_data`. The start of the entries is an offset into the
bytes, and none where the source has a null pointer. -/
structure CompactThetaSketchData where
  isEmpty : Bool
  isOrdered : Bool
  seedHash : ℕ
  numEntries : ℕ
  theta : ℕ
  entriesStart : Option ℕ
  entryBits : ℕ
  deriving DecidableEq, Repr

/-- The result of arithmetic on `size_t` and `uint32_t`. -/
def wrap32 (value : ℕ) : ℕ := value % 2 ^ 32

def wholeBytesToHoldBits (bits : ℕ) : ℕ := bits / 8 + if 0 < bits % 8 then 1 else 0

def checkValue (actual expected : ℕ) (description : String) : Run Unit :=
  if actual = expected then return ()
  else throw (.invalidArg (description ++ " mismatch: expected " ++ toString expected ++
    ", actual " ++ toString actual))

def checkSketchType (actual expected : ℕ) : Run Unit := checkValue actual expected "sketch type"

def checkSeedHash (actual expected : ℕ) : Run Unit := checkValue actual expected "seed hash"

namespace CompactThetaSketchParser

/-! Field offsets, in units of the type that each field is read as. -/

def preLongsByte : ℕ := 0
def serialVersionByte : ℕ := 1
def typeByte : ℕ := 2
def flagsByte : ℕ := 5
def seedHashU16 : ℕ := 3
def singleEntryU64 : ℕ := 1
def numEntriesU32 : ℕ := 2
def entriesExactU64 : ℕ := 2
def entriesEstimationU64 : ℕ := 3
def thetaU64 : ℕ := 2
def v4EntryBitsByte : ℕ := 3
def v4NumEntriesBytesByte : ℕ := 4
def v4ThetaU64 : ℕ := 1
def v4PackedDataExactByte : ℕ := 8
def v4PackedDataEstimationByte : ℕ := 16
def isEmptyFlag : ℕ := 2
def isOrderedFlag : ℕ := 4
def sketchType : ℕ := 3

def readU16 (bytes : List UInt8) (index : ℕ) : Run ℕ := readAt bytes (index * 2) 2
def readU32 (bytes : List UInt8) (index : ℕ) : Run ℕ := readAt bytes (index * 4) 4
def readU64 (bytes : List UInt8) (index : ℕ) : Run ℕ := readAt bytes (index * 8) 8

def hexDigit (value : ℕ) : Char := "0123456789ABCDEF".toList.getD value '0'

def hexDump (bytes : List UInt8) : String :=
  String.ofList (bytes.flatMap fun byte => [hexDigit (byte.toNat / 16), hexDigit (byte.toNat % 16)])

def checkMemorySize (bytes : List UInt8) (expectedBytes : ℕ) (dumpOnError : Bool) : Run Unit :=
  if bytes.length < expectedBytes then
    throw (.outOfRange ("at least " ++ toString expectedBytes ++ " bytes expected, actual " ++
      toString bytes.length ++ if dumpOnError then ", sketch dump: " ++ hexDump bytes else ""))
  else return ()

/-- Byte `i` of the count shifted into place and or-ed into it. -/
def countLoop (bytes : List UInt8) (start : ℕ) : ℕ → ℕ → ℕ → Run ℕ
  | 0, _, numEntries => return numEntries
  | remaining + 1, i, numEntries => do
    let byte ← readByte bytes (start + i)
    if 32 ≤ i * 8 then throw (.undefined (.shiftTooWide (i * 8)))
    countLoop bytes start remaining (i + 1) (numEntries ||| wrap32 (byte <<< (i * 8)))

def parseV4 (bytes : List UInt8) (seed : UInt64) (dumpOnError : Bool) :
    Run CompactThetaSketchData := do
  let seedHash ← readU16 bytes seedHashU16
  checkSeedHash seedHash (computeSeedHash seed)
  let hasTheta := decide (1 < (← readByte bytes preLongsByte))
  let theta ← if hasTheta then do
      checkMemorySize bytes 16 dumpOnError
      readU64 bytes v4ThetaU64
    else pure maxTheta
  let numEntriesBytes ← readByte bytes v4NumEntriesBytesByte
  let dataOffset := if hasTheta then v4PackedDataEstimationByte else v4PackedDataExactByte
  checkMemorySize bytes (wrap32 (dataOffset + numEntriesBytes)) dumpOnError
  let numEntries ← countLoop bytes dataOffset numEntriesBytes 0 0
  let dataOffset := dataOffset + numEntriesBytes
  let entryBits ← readByte bytes v4EntryBitsByte
  let expectedBits := wrap32 (entryBits * numEntries)
  checkMemorySize bytes (wrap32 (dataOffset + wholeBytesToHoldBits expectedBits)) dumpOnError
  return ⟨false, true, seedHash, numEntries, theta, some dataOffset, entryBits⟩

def parseV3 (bytes : List UInt8) (seed : UInt64) (dumpOnError : Bool) :
    Run CompactThetaSketchData := do
  let seedHash ← readU16 bytes seedHashU16
  let flags ← readByte bytes flagsByte
  if flags.testBit isEmptyFlag then return ⟨true, true, seedHash, 0, maxTheta, none, 64⟩
  checkSeedHash seedHash (computeSeedHash seed)
  let preLongs ← readByte bytes preLongsByte
  let hasTheta := decide (2 < preLongs)
  let theta ← if hasTheta then do
      checkMemorySize bytes ((thetaU64 + 1) * 8) dumpOnError
      readU64 bytes thetaU64
    else pure maxTheta
  if preLongs = 1 then
    checkMemorySize bytes 16 dumpOnError
    return ⟨false, true, seedHash, 1, theta, some (singleEntryU64 * 8), 64⟩
  let numEntries ← readU32 bytes numEntriesU32
  let entriesStart := if hasTheta then entriesEstimationU64 else entriesExactU64
  checkMemorySize bytes (wrap32 ((entriesStart + numEntries) * 8)) dumpOnError
  return ⟨false, flags.testBit isOrderedFlag, seedHash, numEntries, theta,
    some (entriesStart * 8), 64⟩

/-- The tail that versions 1 and 2 share: a count and a `theta` were read. -/
def parseEstimation (bytes : List UInt8) (seedHash numEntries theta : ℕ) (dumpOnError : Bool) :
    Run CompactThetaSketchData := do
  if numEntries = 0 ∧ theta = maxTheta then return ⟨true, true, seedHash, 0, theta, none, 64⟩
  checkMemorySize bytes (wrap32 ((entriesEstimationU64 + numEntries) * 8)) dumpOnError
  return ⟨false, true, seedHash, numEntries, theta, some (entriesEstimationU64 * 8), 64⟩

def parseV1 (bytes : List UInt8) (seed : UInt64) (dumpOnError : Bool) :
    Run CompactThetaSketchData := do
  let numEntries ← readU32 bytes numEntriesU32
  let theta ← readU64 bytes thetaU64
  parseEstimation bytes (computeSeedHash seed) numEntries theta dumpOnError

def parseV2 (bytes : List UInt8) (seed : UInt64) (dumpOnError : Bool) :
    Run CompactThetaSketchData := do
  let preambleSize ← readByte bytes preLongsByte
  let seedHash ← readU16 bytes seedHashU16
  checkSeedHash seedHash (computeSeedHash seed)
  if preambleSize = 1 then return ⟨true, true, seedHash, 0, maxTheta, none, 64⟩
  else if preambleSize = 2 then
    let numEntries ← readU32 bytes numEntriesU32
    if numEntries = 0 then return ⟨true, true, seedHash, 0, maxTheta, none, 64⟩
    else
      checkMemorySize bytes (wrap32 ((preambleSize + numEntries) * 8)) dumpOnError
      return ⟨false, true, seedHash, numEntries, maxTheta, some (entriesExactU64 * 8), 64⟩
  else if preambleSize = 3 then
    let numEntries ← readU32 bytes numEntriesU32
    let theta ← readU64 bytes thetaU64
    parseEstimation bytes seedHash numEntries theta dumpOnError
  else throw (.invalidArg (toString preambleSize ++ " longs of premable, but expected 1, 2, or 3"))

def parse (bytes : List UInt8) (seed : UInt64) (dumpOnError : Bool) :
    Run CompactThetaSketchData := do
  checkMemorySize bytes 8 dumpOnError
  checkSketchType (← readByte bytes typeByte) sketchType
  let serialVersion ← readByte bytes serialVersionByte
  if serialVersion = 4 then parseV4 bytes seed dumpOnError
  else if serialVersion = 3 then parseV3 bytes seed dumpOnError
  else if serialVersion = 1 then parseV1 bytes seed dumpOnError
  else if serialVersion = 2 then parseV2 bytes seed dumpOnError
  else throw (.invalidArg ("unsupported serial version " ++ toString serialVersion))

end CompactThetaSketchParser

end ThetaSketch
