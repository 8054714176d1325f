import ThetaSketch.Format.Serializer

/-! The writers into an output stream.

They repeat the writers into memory, and the compressed one packs every block
into one and the same buffer before it is written out.
-/

set_option autoImplicit false

namespace ThetaSketch

open LittleEndian

def packBlocksStream (entryBits : ℕ) :
    ℕ → List ℕ → List UInt8 → Run (List UInt8 × List ℕ × List UInt8)
  | 0, deltas, buffer => return ([], deltas, buffer)
  | blocks + 1, deltas, buffer => do
    let buffer ← packBitsBlock8 (deltas.take 8) buffer 0 entryBits
    let (written, rest, final) ← packBlocksStream entryBits blocks (deltas.drop 8) buffer
    return (buffer ++ written, rest, final)

def packTail (entryBits : ℕ) : List ℕ → List UInt8 → ℕ → ℕ → Run (List UInt8 × ℕ)
  | [], buffer, ptr, _ => return (buffer, ptr)
  | delta :: rest, buffer, ptr, offset => do
    let (buffer, ptr, offset) ← packBits delta entryBits buffer ptr offset
    packTail entryBits rest buffer ptr offset

namespace CompactSketch

def serializeStream (sketch : CompactSketch) : List UInt8 :=
  [UInt8.ofNat sketch.preambleLongs, UInt8.ofNat uncompressedSerialVersion,
    UInt8.ofNat compactSketchType] ++
  encode 2 0 ++ [UInt8.ofNat sketch.flagsByte] ++ encode 2 sketch.seedHash ++
  (if 1 < sketch.preambleLongs then encode 4 sketch.entries.length ++ encode 4 0 else []) ++
  (if sketch.isEstimationMode then encode 8 sketch.theta else []) ++
  sketch.entries.flatMap (encode 8)

/-- `serialize_version_4(std::ostream&)`. The bytes before the pointer are written of
the last, partial block. -/
def serializeVersion4Stream (sketch : CompactSketch) : Run (List UInt8) := do
  let (written, rest, buffer) ← packBlocksStream sketch.entryBits (sketch.entries.length / 8)
    (deltas 0 sketch.entries) (List.replicate sketch.entryBits 0)
  let (buffer, ptr) ← packTail sketch.entryBits rest buffer 0 0
  return sketch.compressedHeader ++ written ++ buffer.take ptr

def serializeCompressedStream (sketch : CompactSketch) : Run (List UInt8) :=
  if sketch.isSuitableForCompression then sketch.serializeVersion4Stream
  else return sketch.serializeStream

end CompactSketch

end ThetaSketch
