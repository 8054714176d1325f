import ThetaSketch.Format.Serializer
import ThetaSketch.Format.Unpackers

/-! The packed entries of serial version 4, as the writer leaves them and as the
reader finds them.

Both go through blocks of eight and finish one value at a time. Each block is
subject to the slips of its width, on the way in and on the way out.
-/

set_option autoImplicit false

namespace ThetaSketch

open BitStream

/-! Deltas. -/

theorem sub64_lt (left right : ℕ) : sub64 left right < 2 ^ 64 := Nat.mod_lt _ (by decide)

theorem add_sub64 {left right : ℕ} (small : left < 2 ^ 64) :
    (sub64 left right + right) % 2 ^ 64 = left := by
  have back : (left + (2 ^ 64 - right % 2 ^ 64) + right) % 2 ^ 64 = left := by omega
  rw [sub64, Nat.mod_add_mod, back]

@[simp] theorem length_deltas (previous : ℕ) (entries : List ℕ) :
    (deltas previous entries).length = entries.length := by
  induction entries generalizing previous with
  | nil => rfl
  | cons entry rest ih => simp [deltas, ih]

theorem deltas_lt {previous : ℕ} {entries : List ℕ} :
    ∀ delta ∈ deltas previous entries, delta < 2 ^ 64 := by
  induction entries generalizing previous with
  | nil => simp [deltas]
  | cons entry rest ih =>
    intro delta member
    rcases List.mem_cons.mp member with rfl | member
    · exact sub64_lt _ _
    · exact ih delta member

theorem undoDeltas_deltas {previous : ℕ} {entries : List ℕ}
    (words : ∀ entry ∈ entries, entry < 2 ^ 64) :
    undoDeltas previous (deltas previous entries) = entries := by
  induction entries generalizing previous with
  | nil => rfl
  | cons entry rest ih =>
    have same := @add_sub64 entry previous (words entry List.mem_cons_self)
    rw [deltas, undoDeltas, same, ih fun word member => words word (List.mem_cons_of_mem _ member)]

theorem undoDeltas_injective {previous : ℕ} {first second : List ℕ}
    (left : ∀ delta ∈ first, delta < 2 ^ 64) (right : ∀ delta ∈ second, delta < 2 ^ 64)
    (same : undoDeltas previous first = undoDeltas previous second) : first = second := by
  induction first generalizing previous second with
  | nil =>
    cases second with
    | nil => rfl
    | cons => cases same
  | cons delta rest ih =>
    cases second with
    | nil => cases same
    | cons other others =>
      simp only [undoDeltas, List.cons.injEq] at same
      obtain ⟨head, tail⟩ := same
      have low := left delta List.mem_cons_self
      have high := right other List.mem_cons_self
      have equal : delta = other := by omega
      subst equal
      rw [ih (fun word member => left word (List.mem_cons_of_mem _ member))
        (fun word member => right word (List.mem_cons_of_mem _ member)) tail]

/-! Writing. -/

theorem packSlip_lt {width : ℕ} {values : List ℕ} (small : ∀ index, values.getD index 0 < 2 ^ width)
    (index : ℕ) : packSlip width values index < 2 ^ width := by
  unfold packSlip
  dsimp only
  split_ifs with fourth fifth
  · obtain ⟨rfl, rfl⟩ := fourth
    exact Nat.or_lt_two_pow (Nat.and_lt_two_pow _ (by decide)) (Nat.and_lt_two_pow _ (by decide))
  · obtain ⟨rfl, rfl⟩ := fifth
    refine Nat.or_lt_two_pow (small 4) ?_
    have nibble : (values.getD 3 0 >>> 4) &&& 0xf < 2 ^ 4 := Nat.and_lt_two_pow _ (by decide)
    rw [Nat.shiftLeft_eq]
    omega
  · exact small index

/-- The numbers that the blocks of deltas leave in their fields. -/
def packedBlocks (width : ℕ) : ℕ → List ℕ → List ℕ
  | 0, _ => []
  | blocks + 1, deltas =>
    (List.range 8).map (packSlip width (deltas.take 8)) ++ packedBlocks width blocks (deltas.drop 8)

theorem length_packedBlocks (width blocks : ℕ) (deltas : List ℕ) :
    (packedBlocks width blocks deltas).length = 8 * blocks := by
  induction blocks generalizing deltas with
  | zero => rfl
  | succ blocks ih =>
    simp only [packedBlocks, List.length_append, List.length_map, List.length_range, ih]
    omega

theorem getD_lt {values : List ℕ} {bound : ℕ} (positive : 0 < bound)
    (small : ∀ value ∈ values, value < bound) (index : ℕ) : values.getD index 0 < bound := by
  by_cases inside : index < values.length
  · rw [List.getD_eq_getElem _ _ inside]
    exact small _ (List.getElem_mem _)
  · rw [List.getD_eq_default _ _ (not_lt.mp inside)]
    exact positive

theorem stored_block {after : List UInt8} {base width : ℕ} {values : List ℕ}
    (positive : 0 < width) (small : ∀ index, values.getD index 0 < 2 ^ width)
    (bits : ∀ position < 8 * width, bit after (8 * base + position) =
      field (packSlip width values) width position) :
    Stored after width (8 * base) ((List.range 8).map (packSlip width values)) := by
  intro index inside
  rw [List.length_map, List.length_range] at inside
  rw [List.getElem_map, List.getElem_range]
  refine value_eq (packSlip_lt small index) fun offset low => ?_
  have step : (index + 1) * width ≤ 8 * width := Nat.mul_le_mul_right _ inside
  have expand : (index + 1) * width = index * width + width := by ring
  have line : index * width + offset = width * index + offset := by ring
  rw [Nat.add_assoc, bits _ (by omega), field, line, Nat.mul_add_div positive, Nat.div_eq_of_lt low,
    Nat.mul_add_mod, Nat.mod_eq_of_lt low, Nat.add_zero]

theorem Clear.byte {buffer : List UInt8} {base index : ℕ} (clear : Clear buffer (8 * base))
    (past : base ≤ index) : (buffer[index]?).getD 0 = 0 := by
  rw [← UInt8.toNat_inj]
  apply Nat.eq_of_testBit_eq
  intro place
  by_cases lane : place < 8
  · have zero := clear (8 * index + (7 - place)) (by omega)
    have byte : (8 * index + (7 - place)) / 8 = index := by omega
    have offset : 7 - (8 * index + (7 - place)) % 8 = place := by omega
    rw [bit, byte, offset] at zero
    simpa using zero
  · have high := Nat.testBit_lt_two_pow ((buffer[index]?.getD 0).toNat_lt.trans_le
      (Nat.pow_le_pow_right Nat.two_pos (show 8 ≤ place by omega)))
    simpa using high

theorem bit_of_byte {bytes other : List UInt8} {place : ℕ}
    (same : bytes[place / 8]? = other[place / 8]?) : bit bytes place = bit other place := by
  rw [bit, bit, same]

/-- What a run of the writer leaves behind: it wrote numbers at `start`, and nothing
before or after them. -/
structure Wrote (before after : List UInt8) (width start : ℕ) (numbers : List ℕ) : Prop where
  length : after.length = before.length
  same : ∀ place < start, bit after place = bit before place
  clear : Clear after (start + numbers.length * width)
  stored : Stored after width start numbers

theorem Wrote.nothing {buffer : List UInt8} {width start : ℕ} (clear : Clear buffer start) :
    Wrote buffer buffer width start [] :=
  ⟨rfl, fun _ _ => rfl, by simpa using clear, stored_nil _ _ _⟩

theorem Wrote.append {before middle after : List UInt8} {width start : ℕ} {first second : List ℕ}
    (left : Wrote before middle width start first)
    (right : Wrote middle after width (start + first.length * width) second) :
    Wrote before after width start (first ++ second) where
  length := right.length.trans left.length
  same := fun place low => (right.same place (by omega)).trans (left.same place low)
  clear := by
    have stop : start + first.length * width + second.length * width =
        start + (first ++ second).length * width := by
      rw [List.length_append]
      ring
    exact stop ▸ right.clear
  stored := stored_append_iff.mpr ⟨left.stored.congr right.same, right.stored⟩

theorem packBitsBlock8_wrote {buffer : List UInt8} {base width : ℕ} {values : List ℕ}
    (positive : 0 < width) (narrow : width < 64) (clear : Clear buffer (8 * base))
    (room : base + width ≤ buffer.length) (small : ∀ value ∈ values, value < 2 ^ width) :
    ∃ after, packBitsBlock8 values buffer base width = .ok after ∧
      Wrote buffer after width (8 * base) ((List.range 8).map (packSlip width values)) := by
  have below := getD_lt (Nat.two_pow_pos width) small
  obtain ⟨after, run, length, others, bits⟩ := packBitsBlock8_spec positive narrow room
    (fun byte _ => clear.byte (Nat.le_add_right _ _)) below
  refine ⟨after, run, length, fun place low => ?_, fun later high => ?_,
    stored_block positive below bits⟩
  · exact bit_of_byte (others _ (.inl (by omega)))
  · rw [List.length_map, List.length_range] at high
    rw [bit_of_byte (others (later / 8) (.inr (by omega)))]
    exact clear later (by omega)

theorem packBlocks_spec {width : ℕ} (positive : 0 < width) (narrow : width < 64) (blocks : ℕ)
    {deltas : List ℕ} {buffer : List UInt8} {ptr : ℕ} (clear : Clear buffer (8 * ptr))
    (room : ptr + blocks * width ≤ buffer.length) (small : ∀ delta ∈ deltas, delta < 2 ^ width) :
    ∃ after, packBlocks width blocks deltas buffer ptr =
        .ok (after, deltas.drop (8 * blocks), ptr + blocks * width) ∧
      Wrote buffer after width (8 * ptr) (packedBlocks width blocks deltas) := by
  induction blocks generalizing deltas buffer ptr with
  | zero => exact ⟨buffer, by simp [packBlocks], Wrote.nothing clear⟩
  | succ blocks ih =>
    have expand : (blocks + 1) * width = width + blocks * width := by ring
    obtain ⟨middle, block, first⟩ := packBitsBlock8_wrote positive narrow clear (by omega)
      fun delta member => small delta (List.mem_of_mem_take member)
    have next : 8 * ptr + ((List.range 8).map (packSlip width (deltas.take 8))).length * width =
        8 * (ptr + width) := by
      rw [List.length_map, List.length_range]
      ring
    obtain ⟨after, run, rest⟩ := @ih (deltas.drop 8) middle (ptr + width) (next ▸ first.clear)
      (by rw [first.length]; omega) fun delta member => small delta (List.mem_of_mem_drop member)
    refine ⟨after, ?_, first.append (next ▸ rest)⟩
    have dropped : 8 + 8 * blocks = 8 * (blocks + 1) := by ring
    rw [packBlocks, block, Run.ok_bind, run, List.drop_drop, dropped, expand, ← Nat.add_assoc]

theorem packRest_eq (width : ℕ) (deltas : List ℕ) (buffer : List UInt8) (ptr offset : ℕ) :
    packRest width deltas buffer ptr offset =
      (packValues width deltas buffer ptr offset).map Prod.fst := by
  induction deltas generalizing buffer ptr offset with
  | nil => rfl
  | cons delta rest ih =>
    rw [packRest, packValues]
    cases packBits delta width buffer ptr offset with
    | error exit => rfl
    | ok result => exact ih _ _ _

theorem packValues_spec {width : ℕ} (positive : 0 < width) {values : List ℕ} {buffer : List UInt8}
    {ptr offset : ℕ} (inner : offset < 8) (clear : Clear buffer (8 * ptr + offset))
    (room : 8 * ptr + offset + values.length * width ≤ 8 * buffer.length)
    (small : ∀ value ∈ values, value < 2 ^ width) :
    ∃ after, packValues width values buffer ptr offset =
        .ok (after, (8 * ptr + offset + values.length * width) / 8,
          (8 * ptr + offset + values.length * width) % 8) ∧
      Wrote buffer after width (8 * ptr + offset) values := by
  induction values generalizing buffer ptr offset with
  | nil =>
    have stop : (8 * ptr + offset) / 8 = ptr := by omega
    have lane : (8 * ptr + offset) % 8 = offset := by omega
    rw [List.length_nil, Nat.zero_mul, Nat.add_zero, stop, lane]
    exact ⟨buffer, rfl, Wrote.nothing clear⟩
  | cons value rest ih =>
    rw [List.length_cons] at room ⊢
    have expand : (rest.length + 1) * width = width + rest.length * width := by ring
    obtain ⟨middle, run, packed⟩ := @packBits_spec value width ptr offset buffer inner positive clear (by omega)
    have next : 8 * ((8 * ptr + offset + width) / 8) + (8 * ptr + offset + width) % 8 =
        8 * ptr + offset + width := Nat.div_add_mod _ _
    have total : 8 * ptr + offset + (rest.length + 1) * width =
        8 * ptr + offset + width + rest.length * width := by omega
    obtain ⟨after, more, tail⟩ := @ih middle _ _ (Nat.mod_lt _ (by decide))
      (by rw [next]; exact packed.clear clear) (by rw [next, packed.length]; omega)
      fun value member => small value (List.mem_cons_of_mem _ member)
    rw [next] at tail more
    have head : Wrote buffer middle width (8 * ptr + offset) [value] := by
      refine ⟨packed.length, fun place low => packed.same low, ?_, ?_⟩
      · rw [List.length_singleton, Nat.one_mul]
        exact packed.clear clear
      · exact stored_cons_iff.mpr
          ⟨packed.value_eq clear (small value List.mem_cons_self), stored_nil _ _ _⟩
    refine ⟨after, by rw [packValues, run, Run.ok_bind, total]; exact more, head.append ?_⟩
    rwa [List.length_singleton, Nat.one_mul]

theorem packRest_spec {width : ℕ} (positive : 0 < width) {deltas : List ℕ} {buffer : List UInt8}
    {ptr offset : ℕ} (inner : offset < 8) (clear : Clear buffer (8 * ptr + offset))
    (room : 8 * ptr + offset + deltas.length * width ≤ 8 * buffer.length)
    (small : ∀ delta ∈ deltas, delta < 2 ^ width) :
    ∃ after, packRest width deltas buffer ptr offset = .ok after ∧
      Wrote buffer after width (8 * ptr + offset) deltas := by
  obtain ⟨after, run, wrote⟩ := packValues_spec positive inner clear room small
  exact ⟨after, by rw [packRest_eq, run]; rfl, wrote⟩

/-! Reading. -/

/-- The deltas that come out again, after the slips of both ways. -/
def readBlocks (width : ℕ) : ℕ → List ℕ → List ℕ
  | 0, _ => []
  | blocks + 1, deltas =>
    ((List.range 8).map fun index => unpackSlip width index (packSlip width (deltas.take 8) index)) ++
      readBlocks width blocks (deltas.drop 8)

theorem unpackBlocks_spec {bytes : List UInt8} {width : ℕ} (positive : 0 < width)
    (narrow : width < 64) (blocks : ℕ) {deltas : List ℕ} {ptr : ℕ}
    (inside : ptr + blocks * width ≤ bytes.length)
    (stored : Stored bytes width (8 * ptr) (packedBlocks width blocks deltas)) :
    unpackBlocks bytes width blocks ptr = .ok (readBlocks width blocks deltas, ptr + blocks * width) := by
  induction blocks generalizing deltas ptr with
  | zero => simp [unpackBlocks, readBlocks]
  | succ blocks ih =>
    have expand : (blocks + 1) * width = width + blocks * width := by ring
    obtain ⟨here, rest⟩ := stored_append_iff.mp stored
    rw [List.length_map, List.length_range] at rest
    have next : 8 * ptr + 8 * width = 8 * (ptr + width) := by ring
    have values : ∀ index < 8, value bytes (8 * ptr + index * width) width =
        packSlip width (deltas.take 8) index := by
      intro index low
      have known := here index (by simpa using low)
      rwa [List.getElem_map, List.getElem_range] at known
    have block : (List.range 8).map (fun index =>
          unpackSlip width index (value bytes (8 * ptr + index * width) width)) =
        (List.range 8).map fun index => unpackSlip width index (packSlip width (deltas.take 8) index) :=
      List.map_congr_left fun index member => by rw [values index (List.mem_range.mp member)]
    rw [unpackBlocks, unpackBitsBlock8_spec positive narrow (by omega) (by rfl)
      (by intro value member; rw [List.eq_of_mem_replicate member]; decide), Run.ok_bind,
      ih (by omega) (next ▸ rest), block, expand, ← Nat.add_assoc]
    rfl

theorem unpackRest_spec {bytes : List UInt8} {width : ℕ} (positive : 0 < width) (narrow : width ≤ 64)
    {numbers : List ℕ} {ptr offset : ℕ} (inner : offset < 8)
    (inside : 8 * ptr + offset + numbers.length * width ≤ 8 * bytes.length)
    (stored : Stored bytes width (8 * ptr + offset) numbers) :
    unpackRest bytes width numbers.length ptr offset = .ok numbers := by
  rw [unpackRest_eq, unpackValues_spec positive narrow _ inner inside, fields_of_stored stored]
  rfl

end ThetaSketch
