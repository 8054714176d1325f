import ThetaSketch.Common.CountZeros
import ThetaSketch.Format.Parser
import ThetaSketch.Format.PackBlocks
import ThetaSketch.Sketch.Sketch

/-! Writers of compact sketches.

Serial version 3 stores the entries as words. Serial version 4 stores the
differences of ordered entries, packed with as many bits as the largest needs.
-/

set_option autoImplicit false

namespace ThetaSketch

open LittleEndian

def uncompressedSerialVersion : ℕ := 3
def compressedSerialVersion : ℕ := 4
def compactSketchType : ℕ := 3

def sub64 (left right : ℕ) : ℕ := (left + (2 ^ 64 - right % 2 ^ 64)) % 2 ^ 64

def deltas (previous : ℕ) : List ℕ → List ℕ
  | [] => []
  | entry :: rest => sub64 entry previous :: deltas entry rest

def packBlocks (entryBits : ℕ) : ℕ → List ℕ → List UInt8 → ℕ → Run (List UInt8 × List ℕ × ℕ)
  | 0, deltas, buffer, ptr => return (buffer, deltas, ptr)
  | blocks + 1, deltas, buffer, ptr => do
    let buffer ← packBitsBlock8 (deltas.take 8) buffer ptr entryBits
    packBlocks entryBits blocks (deltas.drop 8) buffer (ptr + entryBits)

/-- Fewer than eight deltas that are left. -/
def packRest (entryBits : ℕ) : List ℕ → List UInt8 → ℕ → ℕ → Run (List UInt8)
  | [], buffer, _, _ => return buffer
  | delta :: rest, buffer, ptr, offset => do
    let (buffer, ptr, offset) ← packBits delta entryBits buffer ptr offset
    packRest entryBits rest buffer ptr offset

namespace CompactSketch

def isReadOnlyFlag : ℕ := 1
def isEmptyFlag : ℕ := 2
def isCompactFlag : ℕ := 3
def isOrderedFlag : ℕ := 4

def preambleLongs (sketch : CompactSketch) : ℕ :=
  if sketch.isEstimationMode then 3
  else if sketch.isEmpty || sketch.entries.length == 1 then 1 else 2

def flagsByte (sketch : CompactSketch) : ℕ :=
  1 <<< isCompactFlag ||| 1 <<< isReadOnlyFlag |||
    (if sketch.isEmpty then 1 <<< isEmptyFlag else 0) |||
    (if sketch.isOrdered then 1 <<< isOrderedFlag else 0)

/-- The bytes of serial version 3. The writer skips unused bytes; they keep what
the buffer held. -/
def image (sketch : CompactSketch) (buffer : ℕ → UInt8) : List UInt8 :=
  [UInt8.ofNat sketch.preambleLongs, UInt8.ofNat uncompressedSerialVersion,
    UInt8.ofNat compactSketchType, buffer 3, buffer 4, UInt8.ofNat sketch.flagsByte] ++
  encode 2 sketch.seedHash ++
  (if 1 < sketch.preambleLongs then
    encode 4 sketch.entries.length ++ [buffer 12, buffer 13, buffer 14, buffer 15] else []) ++
  (if sketch.isEstimationMode then encode 8 sketch.theta else []) ++
  sketch.entries.flatMap (encode 8)

/-- The vector is filled with zeros first. -/
def serialize (sketch : CompactSketch) (headerSizeBytes : ℕ) : List UInt8 :=
  List.replicate headerSizeBytes 0 ++ sketch.image fun _ => 0

/-- The output is fresh from `malloc`. -/
def serialize2 (sketch : CompactSketch) (malloc : ℕ → UInt8) : List UInt8 := sketch.image malloc

def isSuitableForCompression (sketch : CompactSketch) : Bool :=
  !(!sketch.isOrdered || sketch.entries.length == 0 ||
    (sketch.entries.length == 1 && !sketch.isEstimationMode))

def computeMinLeadingZeros (sketch : CompactSketch) : ℕ :=
  countLeadingZerosInU64 ((deltas 0 sketch.entries).foldl (· ||| ·) 0)

def entryBits (sketch : CompactSketch) : ℕ := 64 - sketch.computeMinLeadingZeros

def numEntriesBytes (sketch : CompactSketch) : ℕ :=
  wholeBytesToHoldBits (32 - countLeadingZerosInU32 sketch.entries.length)

/-- What serial version 4 writes before the packed entries. -/
def compressedHeader (sketch : CompactSketch) : List UInt8 :=
  [UInt8.ofNat (if sketch.isEstimationMode then 2 else 1), UInt8.ofNat compressedSerialVersion,
    UInt8.ofNat compactSketchType, UInt8.ofNat sketch.entryBits,
    UInt8.ofNat sketch.numEntriesBytes,
    UInt8.ofNat (1 <<< isCompactFlag ||| 1 <<< isReadOnlyFlag ||| 1 <<< isOrderedFlag)] ++
  encode 2 sketch.seedHash ++
  (if sketch.isEstimationMode then encode 8 sketch.theta else []) ++
  encode sketch.numEntriesBytes sketch.entries.length

def serializeVersion4 (sketch : CompactSketch) (headerSizeBytes : ℕ) : Run (List UInt8) := do
  let compressedBits := wrap32 (sketch.entryBits * sketch.entries.length)
  let header := List.replicate headerSizeBytes 0 ++ sketch.compressedHeader
  let bytes := header ++ List.replicate (wholeBytesToHoldBits compressedBits) 0
  let (bytes, rest, ptr) ← packBlocks sketch.entryBits (sketch.entries.length / 8)
    (deltas 0 sketch.entries) bytes header.length
  packRest sketch.entryBits rest bytes ptr 0

def serializeCompressed (sketch : CompactSketch) (headerSizeBytes : ℕ) : Run (List UInt8) :=
  if sketch.isSuitableForCompression then sketch.serializeVersion4 headerSizeBytes
  else return sketch.serialize headerSizeBytes

end CompactSketch

end ThetaSketch
