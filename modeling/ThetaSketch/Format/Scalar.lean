import ThetaSketch.Library.BitStream
import ThetaSketch.Format.BitPacking

/-! What the scalar routines compute.

A pointer and a bit offset are a position in the stream. Packing sets the next
bits of a stream that is zero from there on; unpacking reads them.
-/

set_option autoImplicit false

namespace ThetaSketch

open BitStream

def Clear (buffer : List UInt8) (position : ℕ) : Prop :=
  ∀ later, position ≤ later → bit buffer later = false

/-- `after` is `before` with `width` bits of a number written at `position`. -/
structure Packed (before after : List UInt8) (number position width : ℕ) : Prop where
  length : after.length = before.length
  bits : ∀ place, bit after place = (bit before place ||
    decide (position ≤ place ∧ place < position + width) &&
      number.testBit (position + width - 1 - place))

theorem Packed.clear {before after : List UInt8} {number position width : ℕ}
    (packed : Packed before after number position width) (clear : Clear before position) :
    Clear after (position + width) := by
  intro later high
  have outside : ¬ later < position + width := by omega
  rw [packed.bits, clear later (by omega)]
  simp [outside]

theorem Packed.same {before after : List UInt8} {number position width : ℕ}
    (packed : Packed before after number position width) {place : ℕ} (low : place < position) :
    bit after place = bit before place := by
  rw [packed.bits]
  simp [Nat.not_le.mpr low]

theorem Packed.value_eq {before after : List UInt8} {number position width : ℕ}
    (packed : Packed before after number position width) (clear : Clear before position)
    (small : number < 2 ^ width) : value after position width = number := by
  refine BitStream.value_eq small fun index inside => ?_
  have lane : position + width - 1 - (position + index) = width - 1 - index := by omega
  rw [packed.bits, clear _ (by omega), lane]
  simp [inside]

theorem Packed.trans {before middle after : List UInt8} {number position first second : ℕ}
    (upper : Packed before middle (number >>> second) position first)
    (lower : Packed middle after number (position + first) second) :
    Packed before after number position (first + second) := by
  refine ⟨lower.length.trans upper.length, fun place => ?_⟩
  rw [lower.bits, upper.bits, Nat.testBit_shiftRight, Bool.or_assoc]
  congr 1
  by_cases early : place < position + first
  · have lane : second + (position + first - 1 - place) = position + (first + second) - 1 - place := by
      omega
    have here : place < position + (first + second) := by omega
    rw [lane]
    simp [early, here, Nat.not_le.mpr early]
  · have line : position + first + second = position + (first + second) := by omega
    rw [line]
    simp [early, Nat.le_of_not_lt early, show position ≤ place by omega]

theorem packed_nothing (buffer : List UInt8) (number position : ℕ) :
    Packed buffer buffer number position 0 := by
  refine ⟨rfl, fun place => ?_⟩
  have outside : ¬ (position ≤ place ∧ place < position) := by omega
  simp [outside]

theorem packed_set {buffer : List UInt8} {index offset width number byte : ℕ}
    (inside : index < buffer.length) (fits : offset + width ≤ 8)
    (bits : ∀ place < 8, (byte % 256).testBit (7 - place) = (bit buffer (8 * index + place) ||
      decide (offset ≤ place ∧ place < offset + width) && number.testBit (offset + width - 1 - place))) :
    Packed buffer (buffer.set index (UInt8.ofNat byte)) number (8 * index + offset) width := by
  refine ⟨List.length_set, fun place => ?_⟩
  rw [bit_set inside, UInt8.toNat_ofNat']
  split_ifs with same
  · have line : place = 8 * index + place % 8 := by omega
    have range : (8 * index + offset ≤ place ∧ place < 8 * index + offset + width) ↔
        (offset ≤ place % 8 ∧ place % 8 < offset + width) := by omega
    have lane : 8 * index + offset + width - 1 - place = offset + width - 1 - place % 8 := by omega
    rw [show 2 ^ 8 = 256 from rfl, bits _ (Nat.mod_lt _ (by decide)), ← line, lane]
    simp only [range]
  · have outside : ¬ (8 * index + offset ≤ place ∧ place < 8 * index + offset + width) := by omega
    simp [outside]

theorem writeByte_packed {buffer : List UInt8} {index width number : ℕ}
    (inside : index < buffer.length) (fits : width ≤ 8) (clear : Clear buffer (8 * index)) :
    ∃ after, writeByte buffer index (number <<< (8 - width)) = .ok after ∧
      Packed buffer after number (8 * index) width := by
  refine ⟨_, if_pos inside, @packed_set _ _ 0 _ _ _ inside (by omega) fun place low => ?_⟩
  rw [clear _ (by omega), show 256 = 2 ^ 8 from rfl, Nat.testBit_mod_two_pow, Nat.testBit_shiftLeft]
  have high : 7 - place < 8 := by omega
  by_cases written : place < width
  · have lane : 7 - place - (8 - width) = width - 1 - place := by omega
    simp [high, written, lane, show 8 - width ≤ 7 - place by omega]
  · simp [written, show ¬ 8 - width ≤ 7 - place by omega]

theorem orByte_packed {buffer : List UInt8} {index offset width number : ℕ}
    (inside : index < buffer.length) (fits : offset + width ≤ 8) :
    ∃ after, orByte buffer index ((number <<< (8 - offset - width)) &&& (2 ^ (8 - offset) - 1)) =
        .ok after ∧ Packed buffer after number (8 * index + offset) width := by
  rw [orByte, readByte_eq inside, Run.ok_bind, writeByte, if_pos inside]
  refine ⟨_, rfl, packed_set inside fits fun place low => ?_⟩
  have byte : (8 * index + place) / 8 = index := by omega
  have lane : (8 * index + place) % 8 = place := by omega
  have high : 7 - place < 8 := by omega
  rw [bit, byte, lane, show 256 = 2 ^ 8 from rfl, Nat.testBit_mod_two_pow, Nat.testBit_or,
    Nat.testBit_and, Nat.testBit_two_pow_sub_one, Nat.testBit_shiftLeft]
  simp only [high, decide_true, Bool.true_and]
  congr 1
  by_cases reached : offset ≤ place
  · have masked : 7 - place < 8 - offset := by omega
    by_cases written : place < offset + width
    · have moved : 7 - place - (8 - offset - width) = offset + width - 1 - place := by omega
      simp [masked, reached, written, moved, show 8 - offset - width ≤ 7 - place by omega]
    · simp [written, show ¬ 8 - offset - width ≤ 7 - place by omega]
  · simp [reached, show ¬ 7 - place < 8 - offset by omega]

theorem packWhole_spec {number : ℕ} (whole : ℕ) {bits ptr : ℕ} {buffer : List UInt8}
    (low : 8 * whole ≤ bits) (high : bits < 8 * whole + 8) (clear : Clear buffer (8 * ptr))
    (room : 8 * ptr + bits ≤ 8 * buffer.length) :
    ∃ after, packWhole number whole bits buffer ptr =
        .ok (after, (8 * ptr + bits) / 8, (8 * ptr + bits) % 8) ∧
      Packed buffer after number (8 * ptr) bits := by
  induction whole generalizing bits ptr buffer with
  | zero =>
    have index : (8 * ptr + bits) / 8 = ptr := by omega
    have offset : (8 * ptr + bits) % 8 = bits := by omega
    rw [packWhole, index, offset]
    split_ifs with some
    · obtain ⟨after, written, packed⟩ := @writeByte_packed buffer ptr bits number
        (by omega) (by omega) clear
      exact ⟨after, by rw [written]; rfl, packed⟩
    · have none : bits = 0 := by omega
      subst none
      exact ⟨buffer, rfl, packed_nothing _ _ _⟩
  | succ whole ih =>
    obtain ⟨middle, written, first⟩ := @writeByte_packed buffer ptr 8
      (number >>> (bits - 8)) (by omega) le_rfl clear
    have next : 8 * (ptr + 1) = 8 * ptr + 8 := by ring
    obtain ⟨after, run, rest⟩ := @ih (bits - 8) (ptr + 1) middle
      (by omega) (by omega) (next ▸ first.clear clear) (by rw [first.length]; omega)
    rw [Nat.sub_self, Nat.shiftLeft_zero] at written
    rw [next] at rest run
    have total : 8 + (bits - 8) = bits := by omega
    have stop : 8 * ptr + 8 + (bits - 8) = 8 * ptr + bits := by omega
    rw [stop] at run
    refine ⟨after, ?_, total ▸ first.trans rest⟩
    rw [packWhole, written, Run.ok_bind, run]

/-- `pack_bits` writes its value at the position and moves it past the value. -/
theorem packBits_spec {number bits ptr offset : ℕ} {buffer : List UInt8} (inner : offset < 8)
    (positive : 0 < bits) (clear : Clear buffer (8 * ptr + offset))
    (room : 8 * ptr + offset + bits ≤ 8 * buffer.length) :
    ∃ after, packBits number bits buffer ptr offset =
        .ok (after, (8 * ptr + offset + bits) / 8, (8 * ptr + offset + bits) % 8) ∧
      Packed buffer after number (8 * ptr + offset) bits := by
  have here : ptr < buffer.length := by omega
  rw [packBits]
  dsimp only
  split_ifs with shared short
  · obtain ⟨after, run, packed⟩ := @orByte_packed buffer ptr offset bits number
      here (by omega)
    have index : (8 * ptr + offset + bits) / 8 = ptr := by omega
    have lane : (8 * ptr + offset + bits) % 8 = offset + bits := by omega
    exact ⟨after, by rw [run, index, lane]; rfl, packed⟩
  · -- The first bits fill a byte that holds a value already.
    obtain ⟨middle, ored, first⟩ := @orByte_packed buffer ptr offset (8 - offset)
      (number >>> (bits - (8 - offset))) here (by omega)
    rw [Nat.sub_self, Nat.shiftLeft_zero] at ored
    have next : 8 * (ptr + 1) = 8 * ptr + offset + (8 - offset) := by omega
    obtain ⟨after, run, rest⟩ := @packWhole_spec number ((bits - (8 - offset)) / 8)
      (bits - (8 - offset)) (ptr + 1) middle (by omega) (by omega)
      (next ▸ first.clear clear) (by rw [first.length]; omega)
    have total : 8 - offset + (bits - (8 - offset)) = bits := by omega
    have stop : 8 * (ptr + 1) + (bits - (8 - offset)) = 8 * ptr + offset + bits := by omega
    rw [stop] at run
    rw [next] at rest
    exact ⟨after, by rw [ored, Run.ok_bind, run], total ▸ first.trans rest⟩
  · have none : offset = 0 := by omega
    subst none
    exact packWhole_spec (bits / 8) (by omega) (by omega) clear room

theorem unpackWhole_spec {bytes : List UInt8} (whole : ℕ) {bits ptr start width : ℕ}
    (low : 8 * whole ≤ bits) (high : bits < 8 * whole + 8)
    (room : 8 * ptr + bits ≤ 8 * bytes.length) (line : start + width = 8 * ptr) :
    unpackWhole bytes 0 whole bits (value bytes start width % 2 ^ 64) ptr =
      .ok (value bytes start (width + bits) % 2 ^ 64, (8 * ptr + bits) / 8, (8 * ptr + bits) % 8) := by
  induction whole generalizing bits ptr width with
  | zero =>
    have index : (8 * ptr + bits) / 8 = ptr := by omega
    have offset : (8 * ptr + bits) % 8 = bits := by omega
    rw [unpackWhole, index, offset]
    split_ifs with some
    · rw [readByte_eq (by omega), Run.ok_bind, value_add_byte bytes line (by omega) (by omega)]
      rfl
    · have none : bits = 0 := by omega
      subst none
      rfl
  | succ whole ih =>
    have stop : 8 * (ptr + 1) + (bits - 8) = 8 * ptr + bits := by omega
    have total : width + 8 + (bits - 8) = width + bits := by omega
    have grown := @value_add_byte bytes _ _ _ 8 64 line le_rfl (by decide)
    rw [Nat.sub_self, Nat.shiftRight_zero] at grown
    rw [unpackWhole, readByte_eq (by omega), Run.ok_bind, ← grown,
      ih (by omega) (by omega) (by omega) (by omega), stop, total]

/-- `unpack_bits` reads the value at the position, as a word, and moves it past the value.
For no bits at all it still looks at a byte. -/
theorem unpackBits_spec {bytes : List UInt8} {bits ptr offset : ℕ} (inner : offset < 8)
    (room : 8 * ptr + offset + max 1 bits ≤ 8 * bytes.length) :
    unpackBits bytes bits ptr offset = .ok (value bytes (8 * ptr + offset) bits % 2 ^ 64,
      (8 * ptr + offset + bits) / 8, (8 * ptr + offset + bits) % 8) := by
  have here : ptr < bytes.length := by omega
  have first := @value_in_byte bytes ptr offset
    (min (8 - offset) bits) (by omega)
  have masked : ∀ number, number &&& (2 ^ min (8 - offset) bits - 1) =
      number % 2 ^ min (8 - offset) bits := fun number => Nat.and_two_pow_sub_one_eq_mod _ _
  have small : value bytes (8 * ptr + offset) (min (8 - offset) bits) < 2 ^ 64 :=
    (value_lt _ _ _).trans_le (Nat.pow_le_pow_right Nat.two_pos (by omega))
  rw [unpackBits, readByte_eq here, Run.ok_bind]
  dsimp only
  rw [masked, ← first, ← Nat.mod_eq_of_lt small]
  by_cases crosses : 8 - offset < bits
  · have chunk : min (8 - offset) bits = 8 - offset := min_eq_left crosses.le
    have next : (offset + (8 - offset)) &&& 7 = 0 := by
      rw [Nat.add_sub_cancel' inner.le]
      rfl
    have run := @unpackWhole_spec bytes ((bits - (8 - offset)) / 8) (bits - (8 - offset)) (ptr + 1)
      (8 * ptr + offset) (8 - offset) (by omega) (by omega) (by omega) (by omega)
    have total : 8 - offset + (bits - (8 - offset)) = bits := by omega
    have stop : 8 * (ptr + 1) + (bits - (8 - offset)) = 8 * ptr + offset + bits := by omega
    rw [stop, total] at run
    rw [chunk, if_pos rfl, next, run]
  · have chunk : min (8 - offset) bits = bits := min_eq_right (by omega)
    have offset_eq : (offset + bits) &&& 7 = (8 * ptr + offset + bits) % 8 := by
      rw [show 7 = 2 ^ 3 - 1 from rfl, Nat.and_two_pow_sub_one_eq_mod]
      omega
    have index : (if 8 - offset = bits then ptr + 1 else ptr) = (8 * ptr + offset + bits) / 8 := by
      split_ifs <;> omega
    rw [chunk, Nat.sub_self, Nat.zero_div, unpackWhole, if_neg (lt_irrefl 0), index, offset_eq]
    rfl

theorem unpackBits_moves {bytes : List UInt8} {bits ptr offset : ℕ} (inner : offset < 8)
    (room : 8 * ptr + offset + max 1 bits ≤ 8 * bytes.length) :
    ∃ result next lane, unpackBits bytes bits ptr offset = .ok (result, next, lane) ∧ lane < 8 ∧
      8 * next + lane = 8 * ptr + offset + bits :=
  ⟨_, _, _, unpackBits_spec inner room, Nat.mod_lt _ (by decide), Nat.div_add_mod _ _⟩

theorem unpackWhole_inside {bytes : List UInt8} (whole : ℕ) {bits ptr number offset : ℕ}
    (low : 8 * whole ≤ bits) (high : bits < 8 * whole + 8) (positive : 0 < bits)
    (defined : Defined (unpackWhole bytes offset whole bits number ptr)) :
    8 * ptr + bits ≤ 8 * bytes.length := by
  induction whole generalizing bits ptr number with
  | zero =>
    rw [unpackWhole, if_pos positive, defined_bind_iff, readByte_defined_iff] at defined
    omega
  | succ whole ih =>
    rw [unpackWhole, defined_bind_iff, readByte_defined_iff] at defined
    obtain ⟨here, rest⟩ := defined
    by_cases more : 0 < bits - 8
    · have := ih (by omega) (by omega) more (rest _ (readByte_eq here))
      omega
    · omega

/-- `unpack_bits` stays inside the bytes exactly when its value is there. -/
theorem unpackBits_defined_iff {bytes : List UInt8} {bits ptr offset : ℕ} (inner : offset < 8) :
    Defined (unpackBits bytes bits ptr offset) ↔
      8 * ptr + offset + max 1 bits ≤ 8 * bytes.length := by
  refine ⟨fun defined => ?_, fun room => ?_⟩
  · rw [unpackBits, defined_bind_iff, readByte_defined_iff] at defined
    obtain ⟨here, rest⟩ := defined
    have rest := rest _ (readByte_eq here)
    by_cases crosses : 8 - offset < bits
    · have chunk : min (8 - offset) bits = 8 - offset := min_eq_left crosses.le
      rw [chunk, if_pos rfl] at rest
      have := unpackWhole_inside _ (by omega) (by omega) (by omega) rest
      omega
    · omega
  · rw [unpackBits_spec inner room]
    exact defined_ok _

end ThetaSketch
