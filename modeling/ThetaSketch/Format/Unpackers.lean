import ThetaSketch.Format.Slips
import ThetaSketch.Format.Scalar
import ThetaSketch.Format.Deserializer

/-! Block and scalar unpacking of the same bytes.

The scalar routine reads the fields of the layout at every width. The block
routines do so except for one field at width 33 and one at width 35.
-/

set_option autoImplicit false

namespace ThetaSketch

open BitStream

def unpackValues (bytes : List UInt8) (bits : ℕ) : ℕ → ℕ → ℕ → Run (List ℕ × ℕ × ℕ)
  | 0, ptr, offset => return ([], ptr, offset)
  | count + 1, ptr, offset => do
    let (value, ptr, offset) ← unpackBits bytes bits ptr offset
    let (rest, ptr, offset) ← unpackValues bytes bits count ptr offset
    return (value :: rest, ptr, offset)

theorem unpackRest_eq (bytes : List UInt8) (bits count ptr offset : ℕ) :
    unpackRest bytes bits count ptr offset =
      (unpackValues bytes bits count ptr offset).map Prod.fst := by
  induction count generalizing ptr offset with
  | zero => rfl
  | succ count ih =>
    rw [unpackRest, unpackValues]
    cases unpackBits bytes bits ptr offset with
    | error exit => rfl
    | ok result =>
      obtain ⟨value, next, lane⟩ := result
      simp only [Run.ok_bind, ih]
      cases unpackValues bytes bits count next lane <;> rfl

def fields (bytes : List UInt8) (width start count : ℕ) : List ℕ :=
  (List.range count).map fun index => value bytes (start + index * width) width

section Fields

variable {bytes : List UInt8} {width start count : ℕ}

@[simp] theorem length_fields : (fields bytes width start count).length = count := by
  simp [fields]

theorem fields_succ : fields bytes width start (count + 1) =
    value bytes start width :: fields bytes width (start + width) count := by
  have line : ∀ index, start + (index + 1) * width = start + width + index * width :=
    fun index => by ring
  simp only [fields, List.range_succ_eq_map, List.map_cons, List.map_map, Function.comp_def,
    Nat.zero_mul, Nat.add_zero, Nat.succ_eq_add_one, line]

theorem fields_lt : ∀ number ∈ fields bytes width start count, number < 2 ^ width := by
  intro number member
  obtain ⟨index, _, rfl⟩ := List.mem_map.mp member
  exact value_lt _ _ _

theorem fields_of_stored {numbers : List ℕ} (stored : Stored bytes width start numbers) :
    fields bytes width start numbers.length = numbers := by
  refine List.ext_getElem length_fields fun index _ inside => ?_
  rw [← stored index inside]
  simp only [fields, List.getElem_map, List.getElem_range]

theorem unpackValues_spec (positive : 0 < width) (narrow : width ≤ 64) (count : ℕ) {ptr offset : ℕ}
    (inner : offset < 8) (inside : 8 * ptr + offset + count * width ≤ 8 * bytes.length) :
    unpackValues bytes width count ptr offset = .ok (fields bytes width (8 * ptr + offset) count,
      (8 * ptr + offset + count * width) / 8, (8 * ptr + offset + count * width) % 8) := by
  induction count generalizing ptr offset with
  | zero =>
    have index : (8 * ptr + offset) / 8 = ptr := by omega
    have lane : (8 * ptr + offset) % 8 = offset := by omega
    rw [Nat.zero_mul, Nat.add_zero, index, lane]
    rfl
  | succ count ih =>
    have expand : (count + 1) * width = width + count * width := by ring
    have room : 8 * ptr + offset + max 1 width ≤ 8 * bytes.length := by
      rw [max_eq_right positive]
      omega
    have small : value bytes (8 * ptr + offset) width < 2 ^ 64 :=
      (value_lt _ _ _).trans_le (Nat.pow_le_pow_right Nat.two_pos narrow)
    have next : 8 * ((8 * ptr + offset + width) / 8) + (8 * ptr + offset + width) % 8 =
        8 * ptr + offset + width := Nat.div_add_mod _ _
    have more := @ih ((8 * ptr + offset + width) / 8) ((8 * ptr + offset + width) % 8)
      (Nat.mod_lt _ (by decide)) (by rw [next]; omega)
    rw [next] at more
    have total : 8 * ptr + offset + width + count * width =
        8 * ptr + offset + (count + 1) * width := by omega
    rw [unpackValues, unpackBits_spec inner room, Nat.mod_eq_of_lt small, Run.ok_bind, fields_succ, ← total]
    simp only [more, Run.ok_bind]
    rfl

end Fields

/-- The two bits that the block routines get wrong are clear: the one that a sign is
taken from at width 33, and the one that is masked away at width 35. -/
def SlipsClear (bytes : List UInt8) (base width : ℕ) : Prop :=
  (width = 33 → bit bytes (8 * base + 232) = false) ∧ (width = 35 → bit bytes (8 * base + 71) = false)

instance (bytes : List UInt8) (base width : ℕ) : Decidable (SlipsClear bytes base width) :=
  inferInstanceAs (Decidable (_ ∧ _))

def blockFields (bytes : List UInt8) (base width : ℕ) : List ℕ :=
  (List.range 8).map fun index => unpackSlip width index (value bytes (8 * base + index * width) width)

theorem blockFields_eq_iff (bytes : List UInt8) (base width : ℕ) :
    blockFields bytes base width = fields bytes width (8 * base) 8 ↔ SlipsClear bytes base width := by
  have each : blockFields bytes base width = fields bytes width (8 * base) 8 ↔
      ∀ index < 8, unpackSlip width index (value bytes (8 * base + index * width) width) =
        value bytes (8 * base + index * width) width := by
    rw [blockFields, fields, List.map_inj_left]
    simp only [List.mem_range]
  rw [each]
  simp only [unpackSlip_eq_iff (value_lt _ _ _), testBit_value]
  constructor
  · intro all
    refine ⟨fun same => ?_, fun same => ?_⟩
    · subst same
      simpa using (all 7 (by decide)).1 ⟨rfl, rfl⟩
    · subst same
      simpa using (all 2 (by decide)).2 ⟨rfl, rfl⟩
  · rintro ⟨sign, mask⟩ index _
    refine ⟨?_, ?_⟩
    · rintro ⟨rfl, rfl⟩
      simpa using sign rfl
    · rintro ⟨rfl, rfl⟩
      simpa using mask rfl

/-! Both routines. -/

def blockReads (width : ℕ) : List ℕ :=
  match unpackBlockOps width with
  | some ops => UnpackOp.visits ops 0
  | none => []

theorem mem_blockReads {width : ℕ} (positive : 0 < width) (narrow : width < 64) (offset : ℕ) :
    offset ∈ blockReads width ↔ offset < width := by
  have checked : ∀ width < 64, 0 < width → (blockReads width).all (fun offset => offset.blt width) &&
      (List.range width).all (fun offset => offset ∈ blockReads width) = true := by decide +kernel
  have known := checked width narrow positive
  simp only [Bool.and_eq_true, List.all_eq_true, Nat.blt_eq, List.mem_range, decide_eq_true_eq] at known
  exact ⟨known.1 offset, known.2 offset⟩

/-- Block and scalar unpacking of a block return the same eight numbers of `width` bits, both
read its bytes and no others, and the eight calls end with the block. -/
structure UnpackersAgree (values : List ℕ) (bytes : List UInt8) (base width : ℕ) : Prop where
  values : ∃ numbers, unpackBitsBlock8 values bytes base width = .ok numbers ∧
    unpackValues bytes width 8 base 0 = .ok (numbers, base + width, 0) ∧
    numbers.length = 8 ∧ ∀ number ∈ numbers, number < 2 ^ width
  reads : ∀ offset, offset ∈ blockReads width ↔ offset < width

theorem unpackersAgree_iff {values : List ℕ} {bytes : List UInt8} {base width : ℕ}
    (positive : 0 < width) (narrow : width < 64) (inside : base + width ≤ bytes.length)
    (eight : values.length = 8) (words : ∀ value ∈ values, value < 2 ^ 64) :
    UnpackersAgree values bytes base width ↔ SlipsClear bytes base width := by
  have block : unpackBitsBlock8 values bytes base width = .ok (blockFields bytes base width) :=
    unpackBitsBlock8_spec positive narrow inside eight words
  have scalar := @unpackValues_spec bytes width positive narrow.le 8 base 0 (by decide) (by omega)
  have index : (8 * base + 8 * width) / 8 = base + width := by omega
  have lane : (8 * base + 8 * width) % 8 = 0 := by omega
  rw [Nat.add_zero, index, lane] at scalar
  rw [← blockFields_eq_iff]
  constructor
  · rintro ⟨⟨numbers, left, right, _⟩, _⟩
    have first := Except.ok.inj (block.symm.trans left)
    have second := congrArg Prod.fst (Except.ok.inj (scalar.symm.trans right))
    exact first.trans second.symm
  · intro same
    refine ⟨⟨_, block, ?_, ?_, ?_⟩, mem_blockReads positive narrow⟩
    · rw [scalar, same]
    · rw [same, length_fields]
    · rw [same]
      exact fields_lt

/-- A block of width 33 whose last value has bit 31 set. -/
theorem unpackers_disagree :
    ¬ ∀ (values : List ℕ) (bytes : List UInt8) (width : ℕ), 0 < width → width < 64 →
      bytes.length = width → values.length = 8 → (∀ value ∈ values, value < 2 ^ 64) →
      UnpackersAgree values bytes 0 width := by
  intro claim
  have agree := claim (List.replicate 8 0) (List.replicate 33 255) 33 (by decide) (by decide)
    (by decide) (by decide) (by decide)
  obtain ⟨numbers, left, right, _⟩ := agree.values
  have block : unpackBitsBlock8 (List.replicate 8 0) (List.replicate 33 255) 0 33 =
      .ok (List.replicate 7 (2 ^ 33 - 1) ++ [2 ^ 64 - 1]) := by decide +kernel
  have scalar : unpackValues (List.replicate 33 255) 33 8 0 0 =
      .ok (List.replicate 8 (2 ^ 33 - 1), 33, 0) := by decide +kernel
  have same := (Except.ok.inj (block.symm.trans left)).trans
    (congrArg Prod.fst (Except.ok.inj (scalar.symm.trans right))).symm
  revert same
  decide +kernel

theorem unpackersAgree_two : UnpackersAgree (List.replicate 8 0) [27, 228] 0 2 :=
  (unpackersAgree_iff (by decide) (by decide) (by decide) (by decide) (by decide)).mpr (by decide)

end ThetaSketch
