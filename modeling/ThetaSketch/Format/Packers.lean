import ThetaSketch.Format.Unpackers
import ThetaSketch.Format.Writers

/-! Scalar packing, read back and compared with block packing.

The bytes that scalar packing fills do not depend on what they held before, and
scalar unpacking follows the same cursor through them. The block routines leave
the same bytes except for two: at width 13 one byte takes the wrong bits of a
value, and at width 19 one byte keeps what it held.
-/

set_option autoImplicit false

namespace ThetaSketch

open BitStream CompactThetaSketchParser

/-! The bytes of a row of values. -/

/-- What successive calls of `pack_bits` leave in memory that held zeros. -/
def packedValues (width : ℕ) (values : List ℕ) : List UInt8 :=
  match packValues width values
      (List.replicate (wholeBytesToHoldBits (values.length * width)) 0) 0 0 with
  | .ok (bytes, _) => bytes
  | .error _ => []

theorem clear_replicate (count position : ℕ) : Clear (List.replicate count (0 : UInt8)) position := by
  intro later _
  rw [bit, List.getElem?_replicate]
  split_ifs <;> simp

theorem bit_append {front middle rest : List UInt8} {place : ℕ} (inside : place < 8 * middle.length) :
    bit (front ++ middle ++ rest) (8 * front.length + place) = bit middle place := by
  have byte : (8 * front.length + place) / 8 = front.length + place / 8 := by omega
  have lane : (8 * front.length + place) % 8 = place % 8 := by omega
  rw [bit, bit, byte, lane, List.append_assoc, List.getElem?_append_right (Nat.le_add_right _ _),
    Nat.add_sub_cancel_left, List.getElem?_append_left (by omega)]

section Values

variable {width : ℕ} {values : List ℕ}

theorem packedValues_spec (positive : 0 < width) (small : ∀ value ∈ values, value < 2 ^ width) :
    packValues width values (List.replicate (wholeBytesToHoldBits (values.length * width)) 0) 0 0 =
        .ok (packedValues width values, values.length * width / 8, values.length * width % 8) ∧
      (packedValues width values).length = wholeBytesToHoldBits (values.length * width) ∧
      Stored (packedValues width values) width 0 values := by
  have enough := (wholeBytesToHoldBits_spec (values.length * width)).1
  obtain ⟨after, run, wrote⟩ := @packValues_spec width positive values
    (List.replicate (wholeBytesToHoldBits (values.length * width)) 0) 0 0 (by decide)
    (clear_replicate _ _) (by rw [List.length_replicate]; omega) small
  rw [Nat.mul_zero, Nat.zero_add] at run
  have same : packedValues width values = after := by rw [packedValues, run]
  rw [same]
  exact ⟨run, by rw [wrote.length, List.length_replicate], wrote.stored⟩

theorem packValues_over (positive : 0 < width) (small : ∀ value ∈ values, value < 2 ^ width)
    (front rest : List UInt8) {middle : List UInt8}
    (fits : middle.length = wholeBytesToHoldBits (values.length * width)) :
    packValues width values (front ++ middle ++ rest) front.length 0 =
      .ok (front ++ packedValues width values ++ rest, front.length + values.length * width / 8,
        values.length * width % 8) := by
  obtain ⟨zeroRun, length, _⟩ := packedValues_spec positive small
  obtain ⟨enough, tight⟩ := wholeBytesToHoldBits_spec (values.length * width)
  obtain ⟨a, b, runA, runB, lengthA, lengthB, alike⟩ := @packValues_alike middle
    (List.replicate (wholeBytesToHoldBits (values.length * width)) 0) 0 width values 0 (by decide)
    (fun _ low => absurd low (Nat.not_lt_zero _)) (by omega) (by rw [List.length_replicate]; omega)
  rw [Nat.mul_zero, Nat.zero_add] at runA runB alike
  cases runB.symm.trans zeroRun
  have same : a = packedValues width values := by
    refine List.ext_getElem? fun index => ?_
    by_cases inside : index < middle.length
    · exact alike index (by omega)
    · rw [List.getElem?_eq_none (by omega), List.getElem?_eq_none (by omega)]
  have placed := @packValues_append front _ a rest width values 0 0 _ _ runA
  rwa [Nat.add_zero, same] at placed

theorem unpackValues_over (positive : 0 < width) (narrow : width ≤ 64)
    (small : ∀ value ∈ values, value < 2 ^ width) (front rest : List UInt8) {count : ℕ}
    (few : count ≤ values.length) :
    unpackValues (front ++ packedValues width values ++ rest) width count front.length 0 =
      .ok (values.take count, front.length + count * width / 8, count * width % 8) := by
  obtain ⟨_, length, stored⟩ := packedValues_spec positive small
  have enough := (wholeBytesToHoldBits_spec (values.length * width)).1
  have within : ∀ index ≤ values.length, index * width ≤ 8 * (packedValues width values).length :=
    fun index low => by
      have := Nat.mul_le_mul_right width low
      omega
  have found : fields (front ++ packedValues width values ++ rest) width (8 * front.length) count =
      values.take count := by
    refine List.ext_getElem (by simp [few]) fun index left right => ?_
    have inside : index < values.length := by
      rw [length_fields] at left
      omega
    have step := within (index + 1) inside
    rw [Nat.add_mul, Nat.one_mul] at step
    have known := stored index inside
    rw [Nat.zero_add] at known
    simp only [fields, List.getElem_map, List.getElem_range, List.getElem_take]
    rw [← known]
    refine value_congr fun place low => ?_
    rw [Nat.add_assoc]
    exact bit_append (by omega)
  have room := within count few
  have run := @unpackValues_spec (front ++ packedValues width values ++ rest) width positive narrow
    count front.length 0 (by decide) (by
      rw [List.length_append, List.length_append]
      omega)
  have byte : (8 * front.length + count * width) / 8 = front.length + count * width / 8 := by omega
  have lane : (8 * front.length + count * width) % 8 = count * width % 8 := by omega
  rwa [Nat.add_zero, found, byte, lane] at run

/-- Scalar packing and unpacking are inverse. A row of values fills as many bytes as its
bits need, with contents that do not depend on what was there, and it leaves the bytes
around them alone. It is read back from these bytes, and after every count of values the
reader's pointer and bit offset are the writer's. -/
theorem packValues_roundTrip (positive : 0 < width) (narrow : width ≤ 64)
    (small : ∀ value ∈ values, value < 2 ^ width) :
    ∃ packed : List UInt8, packed.length = wholeBytesToHoldBits (values.length * width) ∧
      ∀ front middle rest : List UInt8, middle.length = packed.length →
        (∃ ptr offset, packValues width values (front ++ middle ++ rest) front.length 0 =
            .ok (front ++ packed ++ rest, ptr, offset) ∧
          unpackValues (front ++ packed ++ rest) width values.length front.length 0 =
            .ok (values, ptr, offset) ∧
          ptr + (if 0 < offset then 1 else 0) = front.length + packed.length) ∧
        ∀ count ≤ values.length, ∃ bytes ptr offset,
          packValues width (values.take count) (front ++ middle ++ rest) front.length 0 =
            .ok (bytes, ptr, offset) ∧
          unpackValues (front ++ packed ++ rest) width count front.length 0 =
            .ok (values.take count, ptr, offset) ∧
          8 * ptr + offset = 8 * front.length + count * width ∧ offset < 8 := by
  obtain ⟨_, length, _⟩ := packedValues_spec positive small
  refine ⟨packedValues width values, length, fun front middle rest fits => ⟨?_, fun count few => ?_⟩⟩
  · refine ⟨_, _, packValues_over positive small front rest (fits.trans length), ?_, ?_⟩
    · rw [unpackValues_over positive narrow small front rest le_rfl, List.take_length]
    · rw [length, wholeBytesToHoldBits]
      omega
  · -- The first values fill a part of the bytes; the others belong to the rest.
    have taken : (values.take count).length = count := by
      rw [List.length_take]
      omega
    have least : wholeBytesToHoldBits (count * width) ≤ middle.length := by
      have bits := Nat.mul_le_mul_right width few
      have whole := wholeBytesToHoldBits_spec (count * width)
      have all := wholeBytesToHoldBits_spec (values.length * width)
      omega
    have run := @packValues_over width (values.take count) positive
      (fun value member => small value (List.mem_of_mem_take member)) front
      (middle.drop (wholeBytesToHoldBits (count * width)) ++ rest)
      (middle.take (wholeBytesToHoldBits (count * width)))
      (by rw [List.length_take, taken]; omega)
    rw [List.append_assoc, ← List.append_assoc (middle.take _), List.take_append_drop,
      ← List.append_assoc, taken] at run
    exact ⟨_, _, _, run, unpackValues_over positive narrow small front rest few, by omega,
      Nat.mod_lt _ (by decide)⟩

theorem packValues_roundTrip_three :
    ∃ packed : List UInt8, packed.length = wholeBytesToHoldBits (3 * 11) ∧
      ∀ front middle rest : List UInt8, middle.length = packed.length →
        (∃ ptr offset, packValues 11 [2047, 0, 5] (front ++ middle ++ rest) front.length 0 =
            .ok (front ++ packed ++ rest, ptr, offset) ∧
          unpackValues (front ++ packed ++ rest) 11 3 front.length 0 =
            .ok ([2047, 0, 5], ptr, offset) ∧
          ptr + (if 0 < offset then 1 else 0) = front.length + packed.length) ∧
        ∀ count ≤ 3, ∃ bytes ptr offset,
          packValues 11 ([2047, 0, 5].take count) (front ++ middle ++ rest) front.length 0 =
            .ok (bytes, ptr, offset) ∧
          unpackValues (front ++ packed ++ rest) 11 count front.length 0 =
            .ok ([2047, 0, 5].take count, ptr, offset) ∧
          8 * ptr + offset = 8 * front.length + count * 11 ∧ offset < 8 :=
  @packValues_roundTrip 11 [2047, 0, 5] (by decide) (by decide) (by decide)

end Values

/-! The slips of the block routines. -/

theorem or_eleventh_iff {stale : UInt8} {number : ℕ} :
    stale.toNat ||| (number >>> 7) % 256 = (number >>> 7) % 256 ↔
      ∀ place < 8, stale.toNat.testBit place = true → number.testBit (7 + place) = true := by
  have bits : ∀ place, ((number >>> 7) % 256).testBit place =
      (decide (place < 8) && number.testBit (7 + place)) := fun place => by
    rw [show 256 = 2 ^ 8 from rfl, Nat.testBit_mod_two_pow, Nat.testBit_shiftRight]
  rw [or_eq_right_iff]
  constructor
  · intro covered place low set
    have bit := covered place set
    rw [bits, Bool.and_eq_true] at bit
    exact bit.2
  · intro hidden place set
    have low : place < 8 := by
      by_contra beyond
      have clear : stale.toNat.testBit place = false := Nat.testBit_lt_two_pow
        (stale.toNat_lt.trans_le (Nat.pow_le_pow_right Nat.two_pos (not_lt.mp beyond)))
      rw [clear] at set
      cases set
    rw [bits, hidden place low set]
    simp [low]

/-- The slips do not show. At width 13 the fourth value has its bits 0 to 3 in places 8 to
11 again, and where it has one of the bits 4 to 7, the fifth value has the bit that this
spills into. At width 19 the eleventh byte held no bits that the fifth value does not set. -/
def PackSlipsHidden (values : List ℕ) (buffer : List UInt8) (base width : ℕ) : Prop :=
  (width = 13 → ∀ place < 4,
    (values.getD 3 0).testBit (8 + place) = (values.getD 3 0).testBit place ∧
    ((values.getD 3 0).testBit (4 + place) = true → (values.getD 4 0).testBit (9 + place) = true)) ∧
  (width = 19 → ∀ place < 8,
    (buffer.getD (base + 10) 0).toNat.testBit place = true → (values.getD 4 0).testBit (7 + place) = true)

instance (values : List ℕ) (buffer : List UInt8) (base width : ℕ) :
    Decidable (PackSlipsHidden values buffer base width) :=
  inferInstanceAs (Decidable (_ ∧ _))

/-! Both routines. -/

section Block

variable {width : ℕ} {values : List ℕ}

theorem packedBlock_stored (positive : 0 < width) (narrow : width < 64)
    (small : ∀ value ∈ values, value < 2 ^ width) :
    Stored (packedBlock width values) width 0 ((List.range 8).map (packSlip width values)) := by
  have below := getD_lt (Nat.two_pow_pos width) small
  obtain ⟨block, run, _, _, bits⟩ := @packBitsBlock8_spec (List.replicate width 0) 0 width values
    positive narrow (by rw [List.length_replicate, Nat.zero_add])
    (fun byte inside => by simp [inside]) below
  have same := Except.ok.inj ((packedBlock_run positive narrow values).symm.trans run)
  exact same ▸ stored_block positive below bits

theorem packedBlock_eq_iff (positive : 0 < width) (narrow : width < 64) (eight : values.length = 8)
    (small : ∀ value ∈ values, value < 2 ^ width) :
    packedBlock width values = packedValues width values ↔
      ∀ index < 8, packSlip width values index = values.getD index 0 := by
  obtain ⟨_, length, scalar⟩ := packedValues_spec positive small
  have block := packedBlock_stored positive narrow small
  have size := length_packedBlock positive narrow values
  have whole := wholeBytesToHoldBits_spec (8 * width)
  rw [eight] at length
  constructor
  · intro same index inside
    have slipped := block index (by simpa using inside)
    have plain := scalar index (by omega)
    rw [List.getElem_map, List.getElem_range, same] at slipped
    rw [List.getD_eq_getElem _ _ (by omega), ← plain, slipped]
  · intro same
    have row : (List.range 8).map (packSlip width values) = values := by
      refine List.ext_getElem (by simp [eight]) fun index left right => ?_
      rw [List.getElem_map, List.getElem_range, same index (by omega), List.getD_eq_getElem _ _ right]
    exact (row ▸ block).bytes_eq positive scalar (by omega) (by rw [size, eight])

end Block

def blockWrites (width : ℕ) : List ℕ :=
  match packBlockOps width with
  | some ops => PackOp.visits ops 0
  | none => []

theorem mem_blockWrites {width : ℕ} (positive : 0 < width) (narrow : width < 64) (offset : ℕ) :
    offset ∈ blockWrites width ↔ offset < width := by
  have checked : ∀ width < 64, 0 < width → (blockWrites width).all (fun offset => offset.blt width) &&
      (List.range width).all (fun offset => offset ∈ blockWrites width) = true := by decide +kernel
  have known := checked width narrow positive
  simp only [Bool.and_eq_true, List.all_eq_true, Nat.blt_eq, List.mem_range, decide_eq_true_eq] at known
  exact ⟨known.1 offset, known.2 offset⟩

/-- Block and scalar packing of eight values leave the same bytes, both write the bytes of the
block and no others, and the eight calls end with the block. -/
structure PackersAgree (values : List ℕ) (buffer : List UInt8) (base width : ℕ) : Prop where
  bytes : ∃ after, packBitsBlock8 values buffer base width = .ok after ∧
    packValues width values buffer base 0 = .ok (after, base + width, 0) ∧
    after.length = buffer.length ∧
    ∀ index, index < base ∨ base + width ≤ index → after[index]? = buffer[index]?
  writes : ∀ offset, offset ∈ blockWrites width ↔ offset < width

theorem packersAgree_iff {values : List ℕ} {buffer : List UInt8} {base width : ℕ}
    (positive : 0 < width) (narrow : width < 64) (inside : base + width ≤ buffer.length)
    (eight : values.length = 8) (small : ∀ value ∈ values, value < 2 ^ width) :
    PackersAgree values buffer base width ↔ PackSlipsHidden values buffer base width := by
  obtain ⟨front, isFront⟩ : ∃ front, front = buffer.take base := ⟨_, rfl⟩
  obtain ⟨middle, isMiddle⟩ : ∃ middle, middle = (buffer.drop base).take width := ⟨_, rfl⟩
  obtain ⟨rest, isRest⟩ : ∃ rest, rest = buffer.drop (base + width) := ⟨_, rfl⟩
  -- The buffer falls into what stands before the block, the block and what stands after.
  have split : front ++ middle ++ rest = buffer := by
    rw [isFront, isMiddle, isRest, ← List.drop_drop, List.append_assoc, List.take_append_drop,
      List.take_append_drop]
  have before : front.length = base := by
    rw [isFront, List.length_take]
    omega
  have fits : middle.length = width := by
    rw [isMiddle, List.length_take, List.length_drop]
    omega
  have bytes : values.length * width / 8 = width := by
    rw [eight]
    omega
  have lane : values.length * width % 8 = 0 := by
    rw [eight]
    omega
  have whole := wholeBytesToHoldBits_spec (values.length * width)
  obtain ⟨_, length, _⟩ := packedValues_spec positive small
  obtain ⟨block, size, _⟩ := packedBlock_spec positive narrow values fits
  have placed := @packBitsBlock8_append width 0 values front middle _ rest block
  have scalar := @packValues_over width values positive small front rest middle (by omega)
  rw [split, before, bytes, lane] at scalar
  rw [split, before, Nat.add_zero] at placed
  -- At width 19 the block routine keeps bits of byte 10 of the block.
  have stale : buffer.getD (base + 10) 0 = middle.getD 10 0 ∨ width ≤ 10 := by
    by_cases low : width ≤ 10
    · exact .inr low
    · left
      rw [List.getD_eq_getElem?_getD, List.getD_eq_getElem?_getD, ← split, List.append_assoc,
        List.getElem?_append_right (by omega), before, Nat.add_sub_cancel_left,
        List.getElem?_append_left (by omega)]
  have words : ∀ value ∈ values, value < 2 ^ 64 := fun value member =>
    (small value member).trans (Nat.pow_lt_pow_right (by decide) narrow)
  have below := getD_lt (Nat.two_pow_pos width) small
  -- What the inputs hide is that both writers leave what `packValues` means.
  have hidden : PackSlipsHidden values buffer base width ↔
      overBuffer width middle (packedBlock width values) = packedBlock width values ∧
        packedBlock width values = packedValues width values := by
    have halves : (∀ place < 4, (values.getD 3 0).testBit (8 + place) = (values.getD 3 0).testBit place ∧
          ((values.getD 3 0).testBit (4 + place) = true → (values.getD 4 0).testBit (9 + place) = true)) ↔
        (∀ place < 4, (values.getD 3 0).testBit place = (values.getD 3 0).testBit (8 + place)) ∧
          ∀ place < 4, (values.getD 3 0).testBit (4 + place) = true →
            (values.getD 4 0).testBit (9 + place) = true := by
      simp only [forall_and, eq_comm]
    rw [overBuffer_eq_iff positive narrow words, or_eleventh_iff, packedBlock_eq_iff positive narrow eight small,
      packSlip_eq_iff below, and_comm, PackSlipsHidden, halves]
    refine and_congr_right fun _ => forall_congr' fun nineteen => ?_
    rw [stale.resolve_right (by omega)]
  -- Only width 13 changes values and only width 19 keeps old bits, so one slip never
  -- undoes the other.
  have agree : overBuffer width middle (packedBlock width values) = packedValues width values ↔
      overBuffer width middle (packedBlock width values) = packedBlock width values ∧
        packedBlock width values = packedValues width values := by
    refine ⟨fun same => ?_, fun both => both.1.trans both.2⟩
    by_cases nineteen : width = 19
    · have unslipped : packedBlock width values = packedValues width values :=
        (packedBlock_eq_iff positive narrow eight small).mpr
          ((packSlip_eq_iff below).mpr fun thirteen => by omega)
      exact ⟨same.trans unslipped.symm, unslipped⟩
    · have fresh : overBuffer width middle (packedBlock width values) = packedBlock width values :=
        if_neg nineteen
      exact ⟨fresh, fresh.symm.trans same⟩
  rw [hidden, ← agree]
  constructor
  · rintro ⟨⟨after, left, right, _⟩, _⟩
    have first := Except.ok.inj (placed.symm.trans left)
    have second := congrArg Prod.fst (Except.ok.inj (scalar.symm.trans right))
    exact List.append_cancel_left (List.append_cancel_right (first.trans second.symm))
  · intro same
    refine ⟨⟨_, placed, by rw [scalar, same], ?_, fun index away => ?_⟩,
      mem_blockWrites positive narrow⟩
    · rw [← split]
      simp only [List.length_append, same]
      omega
    · have short : (overBuffer width middle (packedBlock width values)).length = middle.length := by
        rw [same]
        omega
      rw [← split]
      rcases away with low | high
      · rw [List.append_assoc, List.append_assoc, List.getElem?_append_left (by omega),
          List.getElem?_append_left (by omega)]
      · rw [List.getElem?_append_right (by rw [List.length_append]; omega),
          List.getElem?_append_right (by rw [List.length_append]; omega)]
        simp only [List.length_append, short]

theorem packers_disagree :
    ¬ PackersAgree [0, 0, 0, 1, 0, 0, 0, 0] (List.replicate 13 0) 0 13 ∧
    ¬ PackersAgree (List.replicate 8 0) (List.replicate 19 255) 0 19 := by
  constructor
  · intro agree
    obtain ⟨after, left, right, _⟩ := agree.bytes
    have block : packBitsBlock8 [0, 0, 0, 1, 0, 0, 0, 0] (List.replicate 13 0) 0 13 =
        .ok (List.replicate 13 0) := by decide +kernel
    have scalar : packValues 13 [0, 0, 0, 1, 0, 0, 0, 0] (List.replicate 13 0) 0 0 =
        .ok ((List.replicate 13 0).set 6 16, 13, 0) := by decide +kernel
    have same := (Except.ok.inj (block.symm.trans left)).trans
      (congrArg Prod.fst (Except.ok.inj (scalar.symm.trans right))).symm
    revert same
    decide +kernel
  · intro agree
    obtain ⟨after, left, right, _⟩ := agree.bytes
    have block : packBitsBlock8 (List.replicate 8 0) (List.replicate 19 255) 0 19 =
        .ok ((List.replicate 19 0).set 10 255) := by decide +kernel
    have scalar : packValues 19 (List.replicate 8 0) (List.replicate 19 255) 0 0 =
        .ok (List.replicate 19 0, 19, 0) := by decide +kernel
    have same := (Except.ok.inj (block.symm.trans left)).trans
      (congrArg Prod.fst (Except.ok.inj (scalar.symm.trans right))).symm
    revert same
    decide +kernel

theorem packersAgree_nineteen :
    PackersAgree [1, 2 ^ 19 - 1, 3, 2 ^ 18, 2 ^ 15 - 1, 6, 70000, 8] (List.replicate 19 255) 0 19 :=
  (packersAgree_iff (by decide) (by decide) (by decide) (by decide) (by decide)).mpr (by decide)

end ThetaSketch
