import Mathlib.Algebra.Ring.Nat
import Mathlib.Data.List.Basic

/-! Unsigned integers as little-endian byte strings of a fixed width, and reads
of such integers at an offset of a longer byte string.
-/

set_option autoImplicit false

namespace LittleEndian

def encode : ℕ → ℕ → List UInt8
  | 0, _ => []
  | width + 1, value => UInt8.ofNat value :: encode width (value / 256)

def decode : List UInt8 → ℕ
  | [] => 0
  | byte :: rest => byte.toNat + 256 * decode rest

/-- The integer stored in `width` bytes from `offset` on. -/
def word (bytes : List UInt8) (offset width : ℕ) : ℕ := decode ((bytes.drop offset).take width)

/-- A stored integer, when all its bytes are there. -/
def read (bytes : List UInt8) (offset width : ℕ) : Option ℕ :=
  if offset + width ≤ bytes.length then some (word bytes offset width) else none

@[simp] theorem length_encode (width value : ℕ) : (encode width value).length = width := by
  induction width generalizing value with
  | zero => rfl
  | succ width ih => simp [encode, ih]

theorem decode_encode (width value : ℕ) : decode (encode width value) = value % 256 ^ width := by
  induction width generalizing value with
  | zero => simp [encode, decode, Nat.mod_one]
  | succ width ih =>
    have low : (UInt8.ofNat value).toNat = value % 256 := UInt8.toNat_ofNat' ..
    rw [encode, decode, ih, low, Nat.pow_succ', Nat.mod_mul]

theorem decode_lt (bytes : List UInt8) : decode bytes < 256 ^ bytes.length := by
  induction bytes with
  | nil => simp [decode]
  | cons byte rest ih =>
    have := byte.toNat_lt
    rw [decode, List.length_cons, Nat.pow_succ']
    omega

theorem encode_decode (bytes : List UInt8) : encode bytes.length (decode bytes) = bytes := by
  induction bytes with
  | nil => rfl
  | cons byte rest ih =>
    have small := byte.toNat_lt
    have low : UInt8.ofNat (byte.toNat + 256 * decode rest) = byte := by
      rw [← UInt8.toNat_inj, UInt8.toNat_ofNat']
      omega
    have high : (byte.toNat + 256 * decode rest) / 256 = decode rest := by omega
    rw [List.length_cons, decode, encode, low, high, ih]

theorem word_lt (bytes : List UInt8) (offset width : ℕ) : word bytes offset width < 256 ^ width := by
  refine Nat.lt_of_lt_of_le (decode_lt _) (Nat.pow_le_pow_right (by decide) ?_)
  rw [List.length_take]
  exact Nat.min_le_left _ _

theorem read_append_right (front rest : List UInt8) {offset : ℕ} (width : ℕ)
    (past : front.length ≤ offset) :
    read (front ++ rest) offset width = read rest (offset - front.length) width := by
  have dropped : (front ++ rest).drop offset = rest.drop (offset - front.length) := by
    rw [List.drop_append, List.drop_eq_nil_of_le past, List.nil_append]
  have bounds : offset + width ≤ (front ++ rest).length ↔
      offset - front.length + width ≤ rest.length := by
    rw [List.length_append]
    omega
  simp only [read, word, dropped, bounds]

theorem read_encode (width value : ℕ) (rest : List UInt8) (small : value < 256 ^ width) :
    read (encode width value ++ rest) 0 width = some value := by
  have front : (encode width value ++ rest).take width = encode width value := by
    simp
  rw [read, if_pos (by simp), word, List.drop_zero, front, decode_encode, Nat.mod_eq_of_lt small]

theorem read_encode_at (front : List UInt8) (width value : ℕ) (rest : List UInt8) {offset : ℕ}
    (start : front.length = offset) (small : value < 256 ^ width) :
    read (front ++ (encode width value ++ rest)) offset width = some value := by
  rw [read_append_right _ _ _ (Nat.le_of_eq start), start, Nat.sub_self, read_encode _ _ _ small]

end LittleEndian
