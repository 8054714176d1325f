import Mathlib.Data.Nat.Bitwise
import Mathlib.Data.List.Basic
import Mathlib.Tactic.Ring

/-! Byte strings read as streams of bits, the high bit of each byte first.

An unsigned integer occupies a range of positions in the stream, its high bit
first. Integers may start and end inside a byte.
-/

set_option autoImplicit false

namespace BitStream

/-- The bit at a position of the stream; the stream continues with zeros. -/
def bit (bytes : List UInt8) (position : ℕ) : Bool :=
  ((bytes[position / 8]?.getD 0).toNat).testBit (7 - position % 8)

theorem bit_set {bytes : List UInt8} {index : ℕ} (inside : index < bytes.length) (byte : UInt8)
    (position : ℕ) :
    bit (bytes.set index byte) position =
      if position / 8 = index then byte.toNat.testBit (7 - position % 8) else bit bytes position := by
  unfold bit
  split_ifs with same
  · rw [same, List.getElem?_set_self inside, Option.getD_some]
  · rw [List.getElem?_set_ne (Ne.symm same)]

theorem bit_append_left {front : List UInt8} (rest : List UInt8) {position : ℕ}
    (inside : position < 8 * front.length) : bit (front ++ rest) position = bit front position := by
  have byte : position / 8 < front.length := by omega
  rw [bit, bit, List.getElem?_append_left byte]

theorem bit_slice (bytes : List UInt8) (start : ℕ) {count position : ℕ}
    (inside : position < 8 * count) :
    bit ((bytes.drop start).take count) position = bit bytes (8 * start + position) := by
  have byte : position / 8 < count := by omega
  have place : (8 * start + position) / 8 = start + position / 8 := by omega
  have lane : (8 * start + position) % 8 = position % 8 := by omega
  rw [bit, bit, List.getElem?_take_of_lt byte, List.getElem?_drop, place, lane]

theorem take_eq {bytes other : List UInt8} {count : ℕ} (left : count ≤ bytes.length)
    (right : count ≤ other.length) (same : ∀ place < 8 * count, bit bytes place = bit other place) :
    bytes.take count = other.take count := by
  apply List.ext_getElem (by simp [left, right])
  intro index low _
  have inside : index < count := by
    rw [List.length_take] at low
    omega
  rw [List.getElem_take, List.getElem_take, ← UInt8.toNat_inj]
  apply Nat.eq_of_testBit_eq
  intro place
  by_cases lane : place < 8
  · have bits := same (8 * index + (7 - place)) (by omega)
    have byte : (8 * index + (7 - place)) / 8 = index := by omega
    have offset : 7 - (8 * index + (7 - place)) % 8 = place := by omega
    rwa [bit, bit, byte, offset, List.getElem?_eq_getElem (by omega),
      List.getElem?_eq_getElem (by omega)] at bits
  · have high : ∀ byte : UInt8, byte.toNat.testBit place = false := fun byte =>
      Nat.testBit_lt_two_pow (byte.toNat_lt.trans_le (Nat.pow_le_pow_right Nat.two_pos (by omega)))
    rw [high, high]

/-- The integer spelled by `width` bits from `start` on. -/
def value (bytes : List UInt8) (start : ℕ) : ℕ → ℕ
  | 0 => 0
  | width + 1 => 2 * value bytes start width + (bit bytes (start + width)).toNat

theorem value_lt (bytes : List UInt8) (start width : ℕ) : value bytes start width < 2 ^ width := by
  induction width with
  | zero => exact Nat.one_pos
  | succ width ih =>
    have := Bool.toNat_lt (bit bytes (start + width))
    rw [value, Nat.pow_succ']
    omega

theorem testBit_value (bytes : List UInt8) (start width index : ℕ) :
    (value bytes start width).testBit index =
      (decide (index < width) && bit bytes (start + (width - 1 - index))) := by
  induction width generalizing index with
  | zero => simp [value]
  | succ width ih =>
    rw [value]
    cases index with
    | zero =>
      rw [Nat.testBit_zero]
      cases low : bit bytes (start + width) <;> simp [Nat.add_mod, low]
    | succ index =>
      have half : (2 * value bytes start width + (bit bytes (start + width)).toNat) / 2 =
          value bytes start width := by
        have := Bool.toNat_lt (bit bytes (start + width))
        omega
      rw [Nat.testBit_succ, half, ih]
      have place : width - 1 - index = width + 1 - 1 - (index + 1) := by omega
      rw [place]
      simp

theorem value_add (bytes : List UInt8) (start first second : ℕ) :
    value bytes start (first + second) =
      value bytes start first * 2 ^ second + value bytes (start + first) second := by
  induction second with
  | zero => simp [value]
  | succ second ih =>
    rw [← Nat.add_assoc, value, ih, value, Nat.pow_succ, Nat.add_assoc start]
    ring

theorem value_in_byte (bytes : List UInt8) {index offset width : ℕ} (inside : offset + width ≤ 8) :
    value bytes (8 * index + offset) width =
      ((bytes[index]?.getD 0).toNat >>> (8 - offset - width)) % 2 ^ width := by
  apply Nat.eq_of_testBit_eq
  intro place
  rw [testBit_value, Nat.testBit_mod_two_pow, Nat.testBit_shiftRight]
  by_cases low : place < width
  · have position : (8 * index + offset + (width - 1 - place)) / 8 = index := by omega
    have lane : 7 - (8 * index + offset + (width - 1 - place)) % 8 =
        8 - offset - width + place := by omega
    rw [bit, position, lane]
  · simp [low]

/-- Reading on by the high bits of a byte, in words of `size` bits. -/
theorem value_add_byte (bytes : List UInt8) {start width index next size : ℕ}
    (line : start + width = 8 * index) (inside : next ≤ 8) (room : next ≤ size) :
    value bytes start (width + next) % 2 ^ size =
      ((value bytes start width % 2 ^ size) <<< next) % 2 ^ size |||
        (bytes[index]?.getD 0).toNat >>> (8 - next) := by
  obtain ⟨rest, rfl⟩ : ∃ rest, size = next + rest := ⟨size - next, by omega⟩
  have byte : value bytes (8 * index) next = (bytes[index]?.getD 0).toNat >>> (8 - next) := by
    have small : (bytes[index]?.getD 0).toNat >>> (8 - next) < 2 ^ next := by
      have := UInt8.toNat_lt (bytes[index]?.getD 0)
      rw [Nat.shiftRight_eq_div_pow, Nat.div_lt_iff_lt_mul (Nat.two_pow_pos _), ← pow_add]
      have total : next + (8 - next) = 8 := by omega
      rw [total]
      exact this
    have := @value_in_byte bytes index 0 next (by omega)
    rwa [Nat.add_zero, Nat.sub_zero, Nat.mod_eq_of_lt small] at this
  have low := value_lt bytes (8 * index) next
  have shifted : ∀ number, (number <<< next) % 2 ^ (next + rest) = (number % 2 ^ rest) <<< next := by
    intro number
    rw [Nat.shiftLeft_eq, Nat.shiftLeft_eq, pow_add, Nat.mul_comm (2 ^ next), Nat.mul_mod_mul_right]
  rw [shifted, Nat.mod_mod_of_dvd _ (pow_dvd_pow 2 (Nat.le_add_left rest next)), ← byte,
    ← Nat.shiftLeft_add_eq_or_of_lt low, value_add, line, Nat.shiftLeft_eq, pow_add, Nat.mod_mul,
    Nat.mul_comm _ (2 ^ next), Nat.mul_add_mod, Nat.mod_eq_of_lt low,
    Nat.mul_add_div (Nat.two_pow_pos _), Nat.div_eq_of_lt low, Nat.add_zero, Nat.add_comm,
    Nat.mul_comm]

theorem value_congr {bytes other : List UInt8} {start otherStart width : ℕ}
    (same : ∀ index < width, bit bytes (start + index) = bit other (otherStart + index)) :
    value bytes start width = value other otherStart width := by
  induction width with
  | zero => rfl
  | succ width ih =>
    rw [value, value, ih fun index bound => same index (by omega), same width (by omega)]

theorem value_eq {bytes : List UInt8} {start width number : ℕ} (small : number < 2 ^ width)
    (same : ∀ index < width, bit bytes (start + index) = number.testBit (width - 1 - index)) :
    value bytes start width = number := by
  apply Nat.eq_of_testBit_eq
  intro place
  rw [testBit_value]
  by_cases low : place < width
  · have lane : width - 1 - (width - 1 - place) = place := by omega
    rw [same _ (by omega), lane]
    simp [low]
  · have high : number < 2 ^ place := small.trans_le (Nat.pow_le_pow_right (by omega) (by omega))
    rw [Nat.testBit_lt_two_pow high]
    simp [low]

/-! Rows of integers. -/

/-- The numbers stand one after the other from `start` on. -/
def Stored (bytes : List UInt8) (width start : ℕ) (numbers : List ℕ) : Prop :=
  ∀ index (inside : index < numbers.length),
    value bytes (start + index * width) width = numbers[index]

theorem stored_nil (bytes : List UInt8) (width start : ℕ) : Stored bytes width start [] :=
  fun _ impossible => absurd impossible (Nat.not_lt_zero _)

theorem stored_append_iff {bytes : List UInt8} {width start : ℕ} {first second : List ℕ} :
    Stored bytes width start (first ++ second) ↔
      Stored bytes width start first ∧ Stored bytes width (start + first.length * width) second := by
  have line : ∀ index, start + first.length * width + index * width =
      start + (first.length + index) * width := fun index => by ring
  constructor
  · intro stored
    refine ⟨fun index inside => ?_, fun index inside => ?_⟩
    · rw [stored index (by simp; omega), List.getElem_append_left inside]
    · have here := stored (first.length + index) (by simp; omega)
      rw [List.getElem_append_right (Nat.le_add_right _ _)] at here
      simpa [line] using here
  · rintro ⟨low, high⟩ index inside
    by_cases early : index < first.length
    · rw [List.getElem_append_left early, low index early]
    · have late := high (index - first.length) (by simp at inside; omega)
      rw [line, Nat.add_sub_cancel' (not_lt.mp early)] at late
      rw [List.getElem_append_right (not_lt.mp early), late]

theorem stored_cons_iff {bytes : List UInt8} {width start number : ℕ} {rest : List ℕ} :
    Stored bytes width start (number :: rest) ↔
      value bytes start width = number ∧ Stored bytes width (start + width) rest := by
  have single : Stored bytes width start [number] ↔ value bytes start width = number := by
    simp [Stored]
  have split := @stored_append_iff bytes width start [number] rest
  rw [single, List.length_singleton, Nat.one_mul] at split
  exact split

theorem Stored.congr {bytes other : List UInt8} {width start : ℕ} {numbers : List ℕ}
    (stored : Stored bytes width start numbers)
    (same : ∀ place < start + numbers.length * width, bit other place = bit bytes place) :
    Stored other width start numbers := by
  intro index inside
  rw [← stored index inside]
  refine value_congr fun offset low => same _ ?_
  have step : (index + 1) * width ≤ numbers.length * width := Nat.mul_le_mul_right _ inside
  rw [Nat.add_mul, Nat.one_mul] at step
  omega

theorem Stored.bytes_eq {bytes other : List UInt8} {width : ℕ} {numbers : List ℕ}
    (positive : 0 < width) (left : Stored bytes width 0 numbers)
    (right : Stored other width 0 numbers) (size : bytes.length = other.length)
    (covered : 8 * bytes.length ≤ numbers.length * width) : bytes = other := by
  have same : bytes.take bytes.length = other.take bytes.length := by
    refine take_eq le_rfl size.le fun place low => ?_
    have inside : place / width < numbers.length := by
      rw [Nat.div_lt_iff_lt_mul positive]
      omega
    have lane := Nat.mod_lt place positive
    have spelled := congrArg (Nat.testBit · (width - 1 - place % width))
      ((left _ inside).trans (right _ inside).symm)
    have position : 0 + place / width * width + (width - 1 - (width - 1 - place % width)) =
        place := by
      have := Nat.div_add_mod' place width
      omega
    simp only [testBit_value, position] at spelled
    simpa [show width - 1 - place % width < width by omega] using spelled
  rwa [List.take_length, size, List.take_length] at same

end BitStream
