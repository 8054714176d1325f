import ThetaSketch.Common.Exit
import ThetaSketch.Library.LittleEndian

/-! Reads and writes through pointers into a block of bytes.

A pointer is an offset into the block. An access outside the block is recorded
as undefined.
-/

set_option autoImplicit false

namespace ThetaSketch

def readAt (bytes : List UInt8) (offset width : ℕ) : Run ℕ :=
  match LittleEndian.read bytes offset width with
  | some value => .ok value
  | none => .error (.undefined (.outOfBounds offset width))

def readByte (bytes : List UInt8) (index : ℕ) : Run ℕ := readAt bytes index 1

/-- `*ptr = value`, the value cut to a byte. -/
def writeByte (bytes : List UInt8) (index value : ℕ) : Run (List UInt8) :=
  if index < bytes.length then .ok (bytes.set index (UInt8.ofNat value))
  else .error (.undefined (.outOfBounds index 1))

/-- `*ptr |= value`. -/
def orByte (bytes : List UInt8) (index value : ℕ) : Run (List UInt8) := do
  let byte ← readByte bytes index
  writeByte bytes index (byte ||| value)

theorem readAt_eq_ok {bytes : List UInt8} {offset width value : ℕ} :
    readAt bytes offset width = .ok value ↔ LittleEndian.read bytes offset width = some value := by
  unfold readAt
  cases LittleEndian.read bytes offset width <;> simp

theorem readAt_defined_iff {bytes : List UInt8} {offset width : ℕ} :
    Defined (readAt bytes offset width) ↔ offset + width ≤ bytes.length := by
  unfold readAt LittleEndian.read Defined
  split_ifs with inside
  · simp [inside]
  · simp [inside]

theorem readAt_eq {bytes : List UInt8} {offset width : ℕ} (inside : offset + width ≤ bytes.length) :
    readAt bytes offset width = .ok (LittleEndian.word bytes offset width) := by
  rw [readAt_eq_ok, LittleEndian.read, if_pos inside]

theorem readByte_eq {bytes : List UInt8} {index : ℕ} (inside : index < bytes.length) :
    readByte bytes index = .ok (bytes[index]?.getD 0).toNat := by
  have one : (bytes.drop index).take 1 = [bytes[index]] := by
    rw [List.drop_eq_getElem_cons inside, List.take_succ_cons, List.take_zero]
  rw [readByte, readAt_eq_ok, LittleEndian.read, if_pos (by omega), LittleEndian.word, one,
    List.getElem?_eq_getElem inside]
  simp [LittleEndian.decode]

theorem readAt_encode (front : List UInt8) (width value : ℕ) (rest : List UInt8) {offset : ℕ}
    (start : front.length = offset) (small : value < 256 ^ width) :
    readAt (front ++ (LittleEndian.encode width value ++ rest)) offset width = .ok value :=
  readAt_eq_ok.mpr (LittleEndian.read_encode_at front width value rest start small)

theorem readByte_defined_iff {bytes : List UInt8} {index : ℕ} :
    Defined (readByte bytes index) ↔ index < bytes.length := readAt_defined_iff

end ThetaSketch
