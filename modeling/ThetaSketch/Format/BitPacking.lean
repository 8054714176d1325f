import ThetaSketch.Common.Memory

/-! Packing of integers into bit fields that cross byte boundaries.

The scalar routines move one value and keep a bit offset between calls. The
block routines move eight values of one width; the source unrolls each width by
hand, and here every statement of these functions is one element of a list.
-/

set_option autoImplicit false

namespace ThetaSketch

/-! Scalar routines. Each returns the pointer and the bit offset for the next call. -/

def packWhole (value : ℕ) : ℕ → ℕ → List UInt8 → ℕ → Run (List UInt8 × ℕ × ℕ)
  | 0, bits, buffer, ptr =>
    if 0 < bits then do
      let buffer ← writeByte buffer ptr (value <<< (8 - bits))
      return (buffer, ptr, bits)
    else return (buffer, ptr, 0)
  | whole + 1, bits, buffer, ptr => do
    let buffer ← writeByte buffer ptr (value >>> (bits - 8))
    packWhole value whole (bits - 8) buffer (ptr + 1)

def packBits (value bits : ℕ) (buffer : List UInt8) (ptr offset : ℕ) :
    Run (List UInt8 × ℕ × ℕ) := do
  if 0 < offset then
    let chunkBits := 8 - offset
    let mask := 2 ^ chunkBits - 1
    if bits < chunkBits then
      let buffer ← orByte buffer ptr ((value <<< (chunkBits - bits)) &&& mask)
      return (buffer, ptr, offset + bits)
    else
      let buffer ← orByte buffer ptr ((value >>> (bits - chunkBits)) &&& mask)
      packWhole value ((bits - chunkBits) / 8) (bits - chunkBits) buffer (ptr + 1)
  else packWhole value (bits / 8) bits buffer ptr

def packValues (bits : ℕ) : List ℕ → List UInt8 → ℕ → ℕ → Run (List UInt8 × ℕ × ℕ)
  | [], buffer, ptr, offset => return (buffer, ptr, offset)
  | value :: rest, buffer, ptr, offset => do
    let (buffer, ptr, offset) ← packBits value bits buffer ptr offset
    packValues bits rest buffer ptr offset

def unpackWhole (bytes : List UInt8) (offset : ℕ) : ℕ → ℕ → ℕ → ℕ → Run (ℕ × ℕ × ℕ)
  | 0, bits, value, ptr =>
    if 0 < bits then do
      let byte ← readByte bytes ptr
      return ((value <<< bits) % 2 ^ 64 ||| byte >>> (8 - bits), ptr, bits)
    else return (value, ptr, offset)
  | whole + 1, bits, value, ptr => do
    let byte ← readByte bytes ptr
    unpackWhole bytes offset whole (bits - 8) ((value <<< 8) % 2 ^ 64 ||| byte) (ptr + 1)

def unpackBits (bytes : List UInt8) (bits ptr offset : ℕ) : Run (ℕ × ℕ × ℕ) := do
  let availBits := 8 - offset
  let chunkBits := min availBits bits
  let mask := 2 ^ chunkBits - 1
  let byte ← readByte bytes ptr
  let value := (byte >>> (availBits - chunkBits)) &&& mask
  let ptr := if availBits = chunkBits then ptr + 1 else ptr
  unpackWhole bytes ((offset + chunkBits) &&& 7) ((bits - chunkBits) / 8) (bits - chunkBits) value ptr

/-! Statements of the block routines. -/

inductive Assign where
  | set | or
  deriving DecidableEq, Repr

inductive Step where
  | stay | next
  deriving DecidableEq, Repr

def Step.from (step : Step) (ptr : ℕ) : ℕ :=
  match step with
  | .stay => ptr
  | .next => ptr + 1

/-- `*ptr = static_cast<uint8_t>(values[index] << left >> right)`; no statement of
the source shifts both ways. -/
structure PackOp where
  assign : Assign
  step : Step
  index : ℕ
  left : ℕ
  right : ℕ
  deriving DecidableEq, Repr

inductive ShiftType where
  | int | u64
  deriving DecidableEq, Repr

/-- `values[index] = ((*ptr >> right) & mask) << left`. -/
structure UnpackOp where
  index : ℕ
  assign : Assign
  step : Step
  right : ℕ
  mask : ℕ
  left : ℕ
  type : ShiftType
  deriving DecidableEq, Repr

def PackOp.term (op : PackOp) (value : ℕ) : ℕ :=
  (((value <<< op.left) % 2 ^ 64) >>> op.right) % 256

/-- The shifted byte as the 64-bit operand of the assignment. A negative `int`
is extended with its sign. -/
def UnpackOp.term (op : UnpackOp) (byte : ℕ) : ℕ :=
  let shifted := ((byte >>> op.right) &&& op.mask) <<< op.left
  match op.type with
  | .int => ((BitVec.ofNat 32 shifted).signExtend 64).toNat
  | .u64 => (BitVec.ofNat 64 shifted).toNat

def runPack (values : List ℕ) : List PackOp → List UInt8 → ℕ → Run (List UInt8)
  | [], buffer, _ => return buffer
  | op :: rest, buffer, ptr => do
    let term := op.term (values.getD op.index 0)
    let buffer ← match op.assign with
      | .set => writeByte buffer ptr term
      | .or => orByte buffer ptr term
    runPack values rest buffer (op.step.from ptr)

def runUnpack (bytes : List UInt8) : List UnpackOp → ℕ → List ℕ → Run (List ℕ)
  | [], _, values => return values
  | op :: rest, ptr, values => do
    let byte ← readByte bytes ptr
    let term := op.term byte
    let value := match op.assign with
      | .set => term
      | .or => values.getD op.index 0 ||| term
    runUnpack bytes rest (op.step.from ptr) (values.set op.index value)

end ThetaSketch
