import ThetaSketch.Format.Compressed

/-! When the compressed format loses nothing.

Three block routines slip: the packer of width 13 and the unpackers of widths 33
and 35. A sketch survives exactly when none of its full blocks shows the slip of
its width.
-/

set_option autoImplicit false

namespace ThetaSketch

open LittleEndian BitStream CompactThetaSketchParser

/-- The deltas of a block do not show the slip of their width. At width 13 the low
bits of the fourth delta are those that the packer puts in their place, and the
bits that spill over are set in the fifth delta already. At width 33 the last
delta has no sign bit of an `int`; at width 35 the third one has not the bit that
is masked away. -/
def BlockSurvives (width : ℕ) (block : List ℕ) : Prop :=
  (width = 13 → (∀ place < 4, (block.getD 3 0).testBit place = (block.getD 3 0).testBit (8 + place)) ∧
    ∀ place < 4, (block.getD 3 0).testBit (4 + place) = true →
      (block.getD 4 0).testBit (9 + place) = true) ∧
  (width = 33 → (block.getD 7 0).testBit 31 = false) ∧
  (width = 35 → (block.getD 2 0).testBit 33 = false)

instance (width : ℕ) (block : List ℕ) : Decidable (BlockSurvives width block) :=
  inferInstanceAs (Decidable (_ ∧ _ ∧ _))

theorem slips_iff {width : ℕ} {block : List ℕ} (small : ∀ index, block.getD index 0 < 2 ^ width) :
    (∀ index < 8, unpackSlip width index (packSlip width block index) = block.getD index 0) ↔
      BlockSurvives width block := by
  have packed := packSlip_eq_iff small
  unfold BlockSurvives
  -- No width slips in both directions.
  by_cases thirteen : width = 13
  · have read : ∀ index number, unpackSlip width index number = number := by simp [unpackSlip, thirteen]
    simp only [read]
    rw [packed]
    exact (and_iff_left ⟨fun other => by omega, fun other => by omega⟩).symm
  · have written : ∀ index, packSlip width block index = block.getD index 0 := by simp [packSlip, thirteen]
    simp only [written, unpackSlip_eq_iff (small _)]
    constructor
    · intro same
      exact ⟨fun slips => absurd slips thirteen, fun signed => (same 7 (by decide)).1 ⟨signed, rfl⟩,
        fun masked => (same 2 (by decide)).2 ⟨masked, rfl⟩⟩
    · rintro ⟨_, signed, masked⟩ index _
      refine ⟨?_, ?_⟩
      · rintro ⟨same, rfl⟩
        exact signed same
      · rintro ⟨same, rfl⟩
        exact masked same

theorem readBlocks_eq_iff {width : ℕ} (blocks : ℕ) {deltas : List ℕ}
    (small : ∀ delta ∈ deltas, delta < 2 ^ width) (enough : 8 * blocks ≤ deltas.length) :
    readBlocks width blocks deltas = deltas.take (8 * blocks) ↔
      ∀ block < blocks, BlockSurvives width ((deltas.drop (8 * block)).take 8) := by
  induction blocks generalizing deltas with
  | zero => simp [readBlocks]
  | succ blocks ih =>
    have eight : (deltas.take 8).length = 8 := by
      rw [List.length_take]
      omega
    have split : deltas.take (8 * (blocks + 1)) = deltas.take 8 ++ (deltas.drop 8).take (8 * blocks) := by
      rw [← List.take_add]
      congr 1
      ring
    -- One block survives when each of its eight values does.
    have head : (List.range 8).map (fun index =>
          unpackSlip width index (packSlip width (deltas.take 8) index)) = deltas.take 8 ↔
        BlockSurvives width (deltas.take 8) := by
      rw [← slips_iff (getD_lt (Nat.two_pow_pos width) fun delta member =>
        small delta (List.mem_of_mem_take member))]
      constructor
      · intro same index low
        rw [List.getD_eq_getElem _ _ (by omega), ← List.getElem_of_eq same (by simpa using low)]
        simp
      · intro same
        apply List.ext_getElem (by simp [eight])
        intro index low high
        have inside : index < 8 := by simpa using low
        rw [List.getElem_map, List.getElem_range, same index inside, List.getD_eq_getElem]
    -- The blocks behind it are the blocks of the list without its first eight.
    have tail := @ih (deltas.drop 8)
      (fun delta member => small delta (List.mem_of_mem_drop member))
      (by rw [List.length_drop]; omega)
    rw [readBlocks, split, Nat.forall_lt_succ_left]
    constructor
    · intro same
      obtain ⟨first, rest⟩ := List.append_inj same (by simp [eight])
      refine ⟨head.mp first, fun block low => ?_⟩
      have survives := tail.mp rest block low
      rwa [List.drop_drop, show 8 + 8 * block = 8 * (block + 1) by ring] at survives
    · rintro ⟨first, rest⟩
      rw [head.mpr first, tail.mpr]
      intro block low
      have survives := rest block low
      rwa [List.drop_drop, show 8 + 8 * block = 8 * (block + 1) by ring]

namespace CompactSketch

variable {sketch : CompactSketch}

/-- What the compressed format relies on: the order flag and `theta` can be told
from the other fields, and no full block of packed deltas shows a slip. -/
def SurvivesCompression (sketch : CompactSketch) : Prop :=
  sketch.theta ≤ maxTheta ∧ (sketch.entries.length ≤ 1 → sketch.isOrdered = true) ∧
  (sketch.isSuitableForCompression = true → ∀ block < sketch.entries.length / 8,
    BlockSurvives sketch.entryBits (((deltas 0 sketch.entries).drop (8 * block)).take 8))

def readEntries (sketch : CompactSketch) : List ℕ :=
  undoDeltas 0 (readBlocks sketch.entryBits (sketch.entries.length / 8) (deltas 0 sketch.entries) ++
    (deltas 0 sketch.entries).drop (8 * (sketch.entries.length / 8)))

theorem deserialize_version4 (packable : sketch.Packable) (some : sketch.entries ≠ [])
    (narrow : sketch.entryBits < 64) :
    ∃ bytes, sketch.serializeVersion4 0 = .ok bytes ∧
      deserialize bytes defaultSeed = .ok (CompactSketch.new false true sketch.seedHash
        (if sketch.isEstimationMode then sketch.theta else maxTheta) sketch.readEntries) := by
  obtain ⟨positive, _, small, _⟩ := packable.entryBits_spec some
  obtain ⟨packed, written, length, stored⟩ :=
    serializeVersion4_spec packable some (.inl narrow)
  refine ⟨_, written, ?_⟩
  have enough := (wholeBytesToHoldBits_spec (sketch.entryBits * sketch.entries.length)).1
  rw [← length] at enough
  have split := bits_split sketch.entryBits sketch.entries.length
  have total : (sketch.compressedHeader ++ packed).length =
      sketch.compressedHeader.length + packed.length := List.length_append
  -- The packed bytes are the whole blocks and, behind them, up to seven values.
  obtain ⟨inBlocks, inRest⟩ := stored_append_iff.mp stored
  have next : 8 * sketch.compressedHeader.length + (packedBlocks sketch.entryBits
      (sketch.entries.length / 8) (deltas 0 sketch.entries)).length * sketch.entryBits =
      8 * (sketch.compressedHeader.length + sketch.entries.length / 8 * sketch.entryBits) + 0 := by
    rw [length_packedBlocks]
    ring
  rw [next] at inRest
  have left : ((deltas 0 sketch.entries).drop (8 * (sketch.entries.length / 8))).length =
      sketch.entries.length % 8 := by
    rw [List.length_drop, length_deltas]
    omega
  have blocks := unpackBlocks_spec positive narrow (sketch.entries.length / 8)
    (by rw [total]; omega) inBlocks
  have rest := unpackRest_spec positive narrow.le (by decide) (by rw [left, total]; omega) inRest
  rw [left] at rest
  have vector := Run.newVector_eq (packable.count.trans_lt (show 2 ^ maxLgK < 2 ^ 29 by decide))
  rw [deserialize, parse_version4 packable some (.inl narrow) length, Run.ok_bind,
    if_neg narrow.ne, vector, Run.ok_bind]
  simp only [Option.getD_some, blocks, Run.ok_bind, rest, readEntries]
  rfl

theorem readBlocks_lt {width : ℕ} (narrow : width < 64) (blocks : ℕ) {deltas : List ℕ}
    (small : ∀ delta ∈ deltas, delta < 2 ^ width) :
    ∀ delta ∈ readBlocks width blocks deltas, delta < 2 ^ 64 := by
  induction blocks generalizing deltas with
  | zero => simp [readBlocks]
  | succ blocks ih =>
    intro delta member
    rcases List.mem_append.mp member with block | rest
    · obtain ⟨index, _, rfl⟩ := List.mem_map.mp block
      exact unpackSlip_lt narrow (packSlip_lt (getD_lt (Nat.two_pow_pos width)
        fun delta member => small delta (List.mem_of_mem_take member)) index)
    · exact ih (fun delta member => small delta (List.mem_of_mem_drop member)) delta rest

theorem readEntries_eq_iff (packable : sketch.Packable) (some : sketch.entries ≠ [])
    (narrow : sketch.entryBits < 64) :
    sketch.readEntries = sketch.entries ↔ ∀ block < sketch.entries.length / 8,
      BlockSurvives sketch.entryBits (((deltas 0 sketch.entries).drop (8 * block)).take 8) := by
  obtain ⟨_, _, small, _⟩ := packable.entryBits_spec some
  rw [← readBlocks_eq_iff (sketch.entries.length / 8) small (by rw [length_deltas]; omega)]
  have back : undoDeltas 0 (deltas 0 sketch.entries) = sketch.entries :=
    undoDeltas_deltas packable.writable.words
  constructor
  · intro same
    have equal : readBlocks sketch.entryBits (sketch.entries.length / 8) (deltas 0 sketch.entries) ++
        (deltas 0 sketch.entries).drop (8 * (sketch.entries.length / 8)) = deltas 0 sketch.entries := by
      refine undoDeltas_injective (fun delta member => ?_) deltas_lt (same.trans back.symm)
      rcases List.mem_append.mp member with block | rest
      · exact readBlocks_lt narrow _ small delta block
      · exact deltas_lt delta (List.mem_of_mem_drop rest)
    refine List.append_cancel_right (equal.trans ?_)
    rw [List.take_append_drop]
  · intro same
    rw [readEntries, same, List.take_append_drop, back]

theorem theta_eq_iff (packable : sketch.Packable) :
    (if sketch.isEstimationMode then sketch.theta else maxTheta) = sketch.theta ↔
      sketch.theta ≤ maxTheta := by
  cases flagged : sketch.isEmpty with
  | true => simp [isEstimationMode, flagged, (packable.empty flagged).2]
  | false =>
    by_cases estimation : sketch.theta < maxTheta
    · simp [isEstimationMode, flagged, estimation, estimation.le]
    · simp only [isEstimationMode, flagged, estimation, decide_false, Bool.false_and,
        Bool.false_eq_true, if_false]
      omega

theorem wide_fails (packable : sketch.Packable) (some : sketch.entries ≠ [])
    (wide : sketch.entryBits = 64) :
    ((sketch.serializeVersion4 0).bind fun bytes => deserialize bytes defaultSeed) ≠ .ok sketch := by
  have above : ¬ sketch.theta ≤ maxTheta := fun bound =>
    absurd ((packable.entryBits_spec some).2.2.2 bound) (by omega)
  by_cases short : sketch.entries.length < 8
  · obtain ⟨packed, written, length, _⟩ := serializeVersion4_spec packable some (.inr short)
    have theta := mt (theta_eq_iff packable).mp above
    rw [written]
    intro same
    change deserialize _ _ = _ at same
    rw [deserialize, parse_version4 packable some (.inr short) length, Run.ok_bind, if_pos wide,
      Run.bind_eq_ok] at same
    obtain ⟨entries, _, made⟩ := same
    exact theta (congrArg CompactSketch.theta (Except.ok.inj made))
  · obtain ⟨blocks, full⟩ : ∃ blocks, sketch.entries.length / 8 = blocks + 1 :=
      ⟨sketch.entries.length / 8 - 1, by omega⟩
    rw [serializeVersion4, full, wide, packBlocks]
    rintro ⟨⟩

/-- The compressed format loses nothing exactly for the sketches that survive it. -/
theorem deserialize_serializeCompressed_iff (packable : sketch.Packable) :
    ((sketch.serializeCompressed 0).bind fun bytes => deserialize bytes defaultSeed) = .ok sketch ↔
      sketch.SurvivesCompression := by
  unfold serializeCompressed SurvivesCompression
  cases suitable : sketch.isSuitableForCompression with
  | false =>
    -- The bytes are those of version 3.
    have read := deserialize_image packable.writable fun _ => 0
    have bytes : sketch.serialize 0 = sketch.image fun _ => 0 := List.nil_append _
    change deserialize (sketch.serialize 0) defaultSeed = _ ↔ _
    rw [bytes, read]
    have order : (sketch.isOrdered || decide (sketch.entries.length ≤ 1)) = sketch.isOrdered ↔
        (sketch.entries.length ≤ 1 → sketch.isOrdered = true) := by
      cases sketch.isOrdered <;> simp
    rw [← order, ← theta_eq_iff packable]
    constructor
    · intro same
      have equal := Except.ok.inj same
      exact ⟨congrArg CompactSketch.theta equal, congrArg CompactSketch.isOrdered equal,
        by rintro ⟨⟩⟩
    · rintro ⟨theta, order, _⟩
      rw [theta, order]
  | true =>
    have shape : sketch.isOrdered = true ∧ sketch.entries ≠ [] := by
      unfold isSuitableForCompression at suitable
      simp only [Bool.not_eq_true', Bool.or_eq_false_iff, Bool.not_eq_false', beq_eq_false_iff_ne] at suitable
      exact ⟨suitable.1.1, fun none => suitable.1.2 (by rw [none]; rfl)⟩
    obtain ⟨ordered, some⟩ := shape
    have full : sketch.isEmpty = false := by
      cases flagged : sketch.isEmpty with
      | false => rfl
      | true => exact absurd (packable.empty flagged).1 some
    rw [if_pos rfl]
    by_cases wide : sketch.entryBits = 64
    · have fails := wide_fails packable some wide
      refine ⟨fun same => absurd same fails, fun survives => ?_⟩
      exact absurd ((packable.entryBits_spec some).2.2.2 survives.1) (by omega)
    · have narrow : sketch.entryBits < 64 := by
        have := (packable.entryBits_spec some).2.1
        omega
      obtain ⟨bytes, written, read⟩ := deserialize_version4 packable some narrow
      rw [written]
      change deserialize bytes defaultSeed = _ ↔ _
      rw [read, ← theta_eq_iff packable, ← readEntries_eq_iff packable some narrow]
      constructor
      · intro same
        have equal := Except.ok.inj same
        exact ⟨congrArg CompactSketch.theta equal, fun _ => ordered,
          fun _ => congrArg CompactSketch.entries equal⟩
      · rintro ⟨theta, _, survives⟩
        rw [theta, survives rfl]
        refine congrArg _ ?_
        unfold CompactSketch.new
        rw [Bool.true_or]
        cases sketch
        simp_all

theorem consecutive_survive :
    ((CompactSketch.mk false true 37836 maxTheta [1, 2, 3, 4, 5, 6, 7, 8, 9]).serializeCompressed 0).bind
        (fun bytes => deserialize bytes defaultSeed) =
      .ok ⟨false, true, 37836, maxTheta, [1, 2, 3, 4, 5, 6, 7, 8, 9]⟩ := by
  refine (deserialize_serializeCompressed_iff
    ⟨by decide +kernel, by decide, by decide, by decide, by decide, by decide⟩).mpr ?_
  exact ⟨by decide, fun _ => rfl, by decide +kernel⟩

theorem fourth_delta_lost :
    CompactSketch.Packable ⟨false, true, 37836, maxTheta,
        [4096, 4097, 4098, 4099, 4100, 4101, 4102, 4103]⟩ ∧
      ((CompactSketch.mk false true 37836 maxTheta
          [4096, 4097, 4098, 4099, 4100, 4101, 4102, 4103]).serializeCompressed 0).bind
        (fun bytes => deserialize bytes defaultSeed) ≠
      .ok ⟨false, true, 37836, maxTheta, [4096, 4097, 4098, 4099, 4100, 4101, 4102, 4103]⟩ :=
  ⟨⟨by decide +kernel, by decide, by decide, by decide, by decide, by decide⟩, by decide +kernel⟩

end CompactSketch

end ThetaSketch
