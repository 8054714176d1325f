import ThetaSketch.Format.PackedEntries
import ThetaSketch.Format.ParserSafety
import ThetaSketch.Format.RoundTrip

/-! Reading back what serial version 4 wrote.

The header and the deltas survive; a delta is lost where a block routine slips.
-/

set_option autoImplicit false

namespace ThetaSketch

open LittleEndian BitStream CompactThetaSketchParser

/-! The header. -/

section Version4

variable {preamble : Preamble} {seed : UInt64} {dumpOnError : Bool}

/-- The header of version 4: `theta` is stored when the preamble has two words. -/
def version4Header (preamble : Preamble) (theta numEntriesBytes count : ℕ) : List UInt8 :=
  preamble.bytes ++ ((if 1 < preamble.preLongs then encode 8 theta else []) ++
    encode numEntriesBytes count)

theorem parseV4_header (fits : preamble.Fits) (seedHash : preamble.hash = computeSeedHash seed)
    {theta count : ℕ} {entries : List UInt8} (word : theta < 2 ^ 64)
    (bytes : preamble.fourth.toNat ≤ 4) (small : count < 256 ^ preamble.fourth.toNat)
    (bits : preamble.third.toNat * count < 2 ^ 32)
    (enough : wholeBytesToHoldBits (preamble.third.toNat * count) ≤ entries.length) :
    parseV4 (version4Header preamble theta preamble.fourth.toNat count ++ entries) seed dumpOnError =
      .ok ⟨false, true, preamble.hash, count, if 1 < preamble.preLongs then theta else maxTheta,
        some (version4Header preamble theta preamble.fourth.toNat count).length,
        preamble.third.toNat⟩ := by
  obtain ⟨stored, isStored⟩ : ∃ stored, stored =
      (if 1 < preamble.preLongs then encode 8 theta else []) := ⟨_, rfl⟩
  obtain ⟨offset, isOffset⟩ : ∃ offset, offset =
      (if 1 < preamble.preLongs then v4PackedDataEstimationByte else v4PackedDataExactByte) := ⟨_, rfl⟩
  have place : (preamble.bytes ++ stored).length = offset := by
    rw [isStored, isOffset]
    split_ifs <;> simp [v4PackedDataEstimationByte, v4PackedDataExactByte]
  have narrow : offset ≤ 16 := by
    rw [isOffset]
    split_ifs <;> decide
  have regroup : version4Header preamble theta preamble.fourth.toNat count ++ entries =
      preamble.bytes ++ (stored ++ (encode preamble.fourth.toNat count ++ entries)) := by
    rw [version4Header, isStored, List.append_assoc, List.append_assoc]
  have size : (version4Header preamble theta preamble.fourth.toNat count).length =
      offset + preamble.fourth.toNat := by
    rw [version4Header, ← isStored, ← List.append_assoc, List.length_append, place, length_encode]
  rw [regroup, size]
  have total : (preamble.bytes ++ (stored ++ (encode preamble.fourth.toNat count ++ entries))).length =
      offset + (preamble.fourth.toNat + entries.length) := by
    rw [← List.append_assoc, List.length_append, place, List.length_append, length_encode]
  -- The fields, in the order in which they are read.
  have widthByte : readByte (preamble.bytes ++ (stored ++ (encode preamble.fourth.toNat count ++ entries)))
      v4EntryBitsByte = .ok preamble.third.toNat := Preamble.readByte_eq _ (by decide)
  have sizeByte : readByte (preamble.bytes ++ (stored ++ (encode preamble.fourth.toNat count ++ entries)))
      v4NumEntriesBytesByte = .ok preamble.fourth.toNat := Preamble.readByte_eq _ (by decide)
  have counted := @countLoop_encode (preamble.bytes ++ stored) entries offset
    preamble.fourth.toNat 0 _ 0 (by rw [place]; rfl) (by omega) small (by decide)
  rw [List.append_assoc, Nat.pow_zero, Nat.one_mul, Nat.zero_add] at counted
  have countSized : checkMemorySize (preamble.bytes ++ (stored ++ (encode preamble.fourth.toNat count ++ entries)))
      (wrap32 (offset + preamble.fourth.toNat)) dumpOnError = .ok () := by
    refine checkMemorySize_eq ?_
    rw [total, wrap32]
    omega
  have sized : checkMemorySize (preamble.bytes ++ (stored ++ (encode preamble.fourth.toNat count ++ entries)))
      (wrap32 (offset + preamble.fourth.toNat +
        wholeBytesToHoldBits (wrap32 (preamble.third.toNat * count)))) dumpOnError = .ok () := by
    have few := wholeBytesToHoldBits_spec (preamble.third.toNat * count)
    refine checkMemorySize_eq ?_
    rw [total, wrap32, wrap32, Nat.mod_eq_of_lt bits]
    omega
  simp only [parseV4, Preamble.readU16_hash _ fits, Run.ok_bind, checkSeedHash_eq seedHash,
    Preamble.readByte_preLongs _ fits, sizeByte, widthByte]
  by_cases estimation : 1 < preamble.preLongs
  · rw [if_pos estimation] at isOffset isStored
    have thetaSized : checkMemorySize (preamble.bytes ++ (stored ++ (encode preamble.fourth.toNat count ++ entries)))
        16 dumpOnError = .ok () := checkMemorySize_eq (by rw [total, isOffset]; exact Nat.le_add_right _ _)
    have thetaRead : readU64 (preamble.bytes ++ (stored ++ (encode preamble.fourth.toNat count ++ entries)))
        v4ThetaU64 = .ok theta := by
      rw [isStored]
      exact readAt_encode _ 8 _ _ Preamble.length_bytes word
    simp only [estimation, decide_true, if_true, thetaSized, Run.ok_bind, thetaRead, ← isOffset,
      countSized, counted, sized]
    rfl
  · rw [if_neg estimation] at isOffset
    simp only [estimation, decide_false, Bool.false_eq_true, if_false, Run.pure_eq, Run.ok_bind,
      ← isOffset, countSized, counted, sized]

end Version4

/-! The width of the deltas. -/

theorem le_foldl_or {numbers : List ℕ} {number known : ℕ}
    (member : number = known ∨ number ∈ numbers) : number ≤ numbers.foldl (· ||| ·) known := by
  induction numbers generalizing number known with
  | nil => simpa using member.elim (fun same => same.le) (by rintro ⟨⟩)
  | cons first rest ih =>
    rw [List.foldl_cons]
    rcases member with rfl | member
    · exact Nat.left_le_or.trans (ih (.inl rfl))
    · rcases List.mem_cons.mp member with rfl | member
      · exact Nat.right_le_or.trans (ih (.inl rfl))
      · exact ih (.inr member)

theorem foldl_or_lt {numbers : List ℕ} {known width : ℕ} (low : known < 2 ^ width)
    (small : ∀ number ∈ numbers, number < 2 ^ width) :
    numbers.foldl (· ||| ·) known < 2 ^ width := by
  induction numbers generalizing known with
  | nil => exact low
  | cons first rest ih =>
    exact ih (Nat.or_lt_two_pow low (small first List.mem_cons_self))
      fun number member => small number (List.mem_cons_of_mem _ member)

theorem deltas_lt_of_sorted {entries : List ℕ} {previous bound : ℕ} (word : bound ≤ 2 ^ 64)
    (above : ∀ entry ∈ entries, previous < entry) (sorted : entries.Pairwise (· < ·))
    (small : ∀ entry ∈ entries, entry < bound) :
    ∀ delta ∈ deltas previous entries, delta < bound := by
  induction entries generalizing previous with
  | nil => simp [deltas]
  | cons entry rest ih =>
    intro delta member
    rw [List.pairwise_cons] at sorted
    have low := above entry List.mem_cons_self
    have high := small entry List.mem_cons_self
    rcases List.mem_cons.mp member with rfl | member
    · unfold sub64
      omega
    · exact @ih entry sorted.1 sorted.2
        (fun other inside => small other (List.mem_cons_of_mem _ inside)) delta member

/-- The sketches that the compressed format is for. -/
structure CompactSketch.Packable (sketch : CompactSketch) : Prop where
  seed : sketch.seedHash = computeSeedHash defaultSeed
  sorted : sketch.entries.Pairwise (· < ·)
  range : ∀ entry ∈ sketch.entries, 0 < entry ∧ entry < sketch.theta
  theta : sketch.theta < 2 ^ 64
  count : sketch.entries.length ≤ 2 ^ maxLgK
  empty : sketch.isEmpty = true → sketch.entries = [] ∧ sketch.theta = maxTheta

namespace CompactSketch

variable {sketch : CompactSketch}

theorem Packable.writable (packable : sketch.Packable) : sketch.Writable defaultSeed where
  words := fun entry member => (packable.range entry member).2.trans packable.theta
  theta := packable.theta
  hash := by
    rw [packable.seed]
    exact computeSeedHash_lt _
  seed := fun _ => packable.seed
  count := by
    have := packable.count
    rw [maxLgK] at this
    omega
  empty := fun flagged => (packable.empty flagged).1

theorem Packable.entryBits_spec (packable : sketch.Packable) (some : sketch.entries ≠ []) :
    0 < sketch.entryBits ∧ sketch.entryBits ≤ 64 ∧
      (∀ delta ∈ deltas 0 sketch.entries, delta < 2 ^ sketch.entryBits) ∧
      (sketch.theta ≤ maxTheta → sketch.entryBits < 64) := by
  obtain ⟨ored, isOred⟩ : ∃ ored, ored = (deltas 0 sketch.entries).foldl (· ||| ·) 0 := ⟨_, rfl⟩
  have below : ored < 2 ^ 64 := isOred ▸ foldl_or_lt (by decide) deltas_lt
  have zeros := countLeadingZerosInU64_spec below
  have width : sketch.entryBits = 64 - countLeadingZerosInU64 ored := by
    rw [entryBits, computeMinLeadingZeros, isOred]
  -- The first delta is the first entry.
  have positive : 0 < ored := by
    obtain ⟨first, rest, split⟩ := List.exists_cons_of_ne_nil some
    have member : first ∈ sketch.entries := split ▸ List.mem_cons_self
    obtain ⟨low, high⟩ := packable.range first member
    have delta : sub64 first 0 = first := by
      have := packable.theta
      unfold sub64
      omega
    have counted : first ∈ deltas 0 sketch.entries := by
      rw [split, deltas, delta]
      exact List.mem_cons_self
    exact low.trans_le (isOred ▸ le_foldl_or (.inr counted))
  obtain ⟨fewer, tight⟩ := zeros.tight positive
  refine ⟨by omega, by omega, fun delta member => ?_, fun bound => ?_⟩
  · rw [width]
    exact (isOred ▸ le_foldl_or (.inr member)).trans_lt zeros.fits
  · have small : ored < 2 ^ 63 := isOred ▸ foldl_or_lt (by decide)
      (deltas_lt_of_sorted (by decide) (fun entry member => (packable.range entry member).1)
        packable.sorted fun entry member => by
          have := (packable.range entry member).2
          have : maxTheta < 2 ^ 63 := by decide
          omega)
    by_contra wide
    have none : countLeadingZerosInU64 ored = 0 := by omega
    rw [none] at tight
    omega

theorem numEntriesBytes_spec (few : sketch.entries.length < 2 ^ 32) :
    sketch.numEntriesBytes ≤ 4 ∧ sketch.entries.length < 256 ^ sketch.numEntriesBytes := by
  have zeros := countLeadingZerosInU32_spec few
  obtain ⟨enough, tight⟩ := wholeBytesToHoldBits_spec
    (32 - countLeadingZerosInU32 sketch.entries.length)
  change _ ≤ 8 * sketch.numEntriesBytes at enough
  change 8 * sketch.numEntriesBytes < _ at tight
  refine ⟨by omega, zeros.fits.trans_le ?_⟩
  rw [show 256 = 2 ^ 8 from rfl, ← pow_mul]
  exact Nat.pow_le_pow_right Nat.two_pos enough

/-! The bytes. -/

def preamble4 (sketch : CompactSketch) : Preamble where
  preLongs := if sketch.isEstimationMode then 2 else 1
  version := compressedSerialVersion
  third := UInt8.ofNat sketch.entryBits
  fourth := UInt8.ofNat sketch.numEntriesBytes
  flags := 1 <<< isCompactFlag ||| 1 <<< isReadOnlyFlag ||| 1 <<< isOrderedFlag
  hash := sketch.seedHash

theorem preamble4_fits (packable : sketch.Packable) : sketch.preamble4.Fits where
  preLongs := by
    change (if sketch.isEstimationMode = true then 2 else 1) < 256
    split_ifs <;> decide
  version := show compressedSerialVersion < 256 by decide
  flags := show 1 <<< isCompactFlag ||| 1 <<< isReadOnlyFlag ||| 1 <<< isOrderedFlag < 256 by decide
  hash := packable.writable.hash

theorem compressedHeader_eq (sketch : CompactSketch) : sketch.compressedHeader =
    version4Header sketch.preamble4 sketch.theta sketch.numEntriesBytes sketch.entries.length := by
  cases estimation : sketch.isEstimationMode <;>
    simp [compressedHeader, version4Header, Preamble.bytes, preamble4, estimation]

theorem clear_zeros (header : List UInt8) (count : ℕ) :
    Clear (header ++ List.replicate count 0) (8 * header.length) := by
  intro later high
  have past : header.length ≤ later / 8 := by omega
  have zero : (List.replicate count (0 : UInt8))[later / 8 - header.length]?.getD 0 = 0 := by
    rw [List.getElem?_replicate]
    split_ifs <;> rfl
  rw [bit, List.getElem?_append_right past, zero]
  exact Nat.zero_testBit _

def packedEntries (sketch : CompactSketch) : List ℕ :=
  packedBlocks sketch.entryBits (sketch.entries.length / 8) (deltas 0 sketch.entries) ++
    (deltas 0 sketch.entries).drop (8 * (sketch.entries.length / 8))

/-- The number of packed bits is one of 32-bit words. -/
theorem Packable.bits_lt (packable : sketch.Packable) (some : sketch.entries ≠ [])
    (narrow : sketch.entryBits < 64 ∨ sketch.entries.length < 8) :
    sketch.entryBits * sketch.entries.length < 2 ^ 32 := by
  have count := packable.count
  rw [maxLgK] at count
  rcases narrow with narrow | short
  · calc sketch.entryBits * sketch.entries.length ≤ 63 * 2 ^ 26 :=
        Nat.mul_le_mul (by omega) count
      _ < 2 ^ 32 := by decide
  · calc sketch.entryBits * sketch.entries.length
        ≤ 64 * 7 := Nat.mul_le_mul (packable.entryBits_spec some).2.1 (by omega)
      _ < 2 ^ 32 := by decide

/-- Blocks are written for widths below 64 only; fewer than eight deltas for any. -/
theorem serializeVersion4_spec (packable : sketch.Packable) (some : sketch.entries ≠ [])
    (narrow : sketch.entryBits < 64 ∨ sketch.entries.length < 8) :
    ∃ packed, sketch.serializeVersion4 0 = .ok (sketch.compressedHeader ++ packed) ∧
      packed.length = wholeBytesToHoldBits (sketch.entryBits * sketch.entries.length) ∧
      Stored (sketch.compressedHeader ++ packed) sketch.entryBits
        (8 * sketch.compressedHeader.length) sketch.packedEntries := by
  obtain ⟨positive, atMost, small, _⟩ := packable.entryBits_spec some
  have bits := packable.bits_lt some narrow
  obtain ⟨header, isHeader⟩ : ∃ header, header = sketch.compressedHeader := ⟨_, rfl⟩
  obtain ⟨whole, isWhole⟩ : ∃ whole, whole =
      wholeBytesToHoldBits (sketch.entryBits * sketch.entries.length) := ⟨_, rfl⟩
  have enough := (wholeBytesToHoldBits_spec (sketch.entryBits * sketch.entries.length)).1
  rw [← isWhole] at enough
  have split := bits_split sketch.entryBits sketch.entries.length
  have clear := clear_zeros header whole
  have length : (header ++ List.replicate whole (0 : UInt8)).length = header.length + whole := by
    simp
  obtain ⟨middle, blocks, first⟩ : ∃ middle,
      packBlocks sketch.entryBits (sketch.entries.length / 8) (deltas 0 sketch.entries)
          (header ++ List.replicate whole 0) header.length =
        .ok (middle, (deltas 0 sketch.entries).drop (8 * (sketch.entries.length / 8)),
          header.length + sketch.entries.length / 8 * sketch.entryBits) ∧
      Wrote (header ++ List.replicate whole 0) middle sketch.entryBits (8 * header.length)
        (packedBlocks sketch.entryBits (sketch.entries.length / 8) (deltas 0 sketch.entries)) := by
    rcases narrow with narrow | short
    · exact packBlocks_spec positive narrow _ clear (by omega) small
    · rw [Nat.div_eq_of_lt short]
      exact ⟨_, by simp [packBlocks], Wrote.nothing clear⟩
  have next : 8 * header.length + (packedBlocks sketch.entryBits (sketch.entries.length / 8)
      (deltas 0 sketch.entries)).length * sketch.entryBits =
      8 * (header.length + sketch.entries.length / 8 * sketch.entryBits) + 0 := by
    rw [length_packedBlocks]
    ring
  have left : ((deltas 0 sketch.entries).drop (8 * (sketch.entries.length / 8))).length =
      sketch.entries.length % 8 := by
    rw [List.length_drop, length_deltas]
    omega
  obtain ⟨after, rest, second⟩ := packRest_spec positive (by decide) (next ▸ first.clear)
    (by rw [left, first.length, length]; omega)
    fun delta member => small delta (List.mem_of_mem_drop member)
  have wrote := first.append (next ▸ second)
  -- The header is still there.
  have prefix_same : after.take header.length = header := by
    rw [@take_eq _ (header ++ List.replicate whole 0) _ (by rw [wrote.length, length]; omega)
      (by rw [length]; omega) wrote.same]
    simp
  have whole_after : header ++ after.drop header.length = after := by
    conv_rhs => rw [← List.take_append_drop header.length after, prefix_same]
  refine ⟨after.drop header.length, ?_, ?_, ?_⟩
  · rw [← isHeader, whole_after, serializeVersion4, wrap32, Nat.mod_eq_of_lt bits, ← isWhole,
      List.replicate_zero, List.nil_append, ← isHeader]
    simp only [blocks, Run.ok_bind]
    exact rest
  · rw [List.length_drop, wrote.length, length, ← isWhole]
    omega
  · rw [← isHeader, whole_after]
    exact wrote.stored

theorem parse_version4 (packable : sketch.Packable) (some : sketch.entries ≠ [])
    (narrow : sketch.entryBits < 64 ∨ sketch.entries.length < 8) {packed : List UInt8}
    (length : packed.length = wholeBytesToHoldBits (sketch.entryBits * sketch.entries.length))
    (dumpOnError : Bool) :
    parse (sketch.compressedHeader ++ packed) defaultSeed dumpOnError =
      .ok ⟨false, true, sketch.seedHash, sketch.entries.length,
        if sketch.isEstimationMode then sketch.theta else maxTheta,
        Option.some sketch.compressedHeader.length, sketch.entryBits⟩ := by
  obtain ⟨_, atMost, _, _⟩ := packable.entryBits_spec some
  have count := packable.count
  rw [maxLgK] at count
  obtain ⟨few, room⟩ := @numEntriesBytes_spec sketch (by omega)
  have bits := packable.bits_lt some narrow
  have third : sketch.preamble4.third.toNat = sketch.entryBits := by
    change (UInt8.ofNat sketch.entryBits).toNat = _
    rw [UInt8.toNat_ofNat', Nat.mod_eq_of_lt (by omega)]
  have fourth : sketch.preamble4.fourth.toNat = sketch.numEntriesBytes := by
    change (UInt8.ofNat sketch.numEntriesBytes).toNat = _
    rw [UInt8.toNat_ofNat', Nat.mod_eq_of_lt (by omega)]
  have fits := preamble4_fits packable
  have parsed := @parseV4_header _ _ dumpOnError fits packable.seed sketch.theta
    sketch.entries.length packed
    packable.theta (by omega) (by rwa [fourth]) (by rwa [third]) (by rw [third, length])
  rw [fourth, third] at parsed
  have version : parse (sketch.compressedHeader ++ packed) defaultSeed dumpOnError =
      parseV4 (sketch.compressedHeader ++ packed) defaultSeed dumpOnError := by
    rw [compressedHeader_eq, version4Header, List.append_assoc, parse_preamble fits]
    rfl
  have mode : (1 < sketch.preamble4.preLongs) ↔ sketch.isEstimationMode = true := by
    change 1 < (if sketch.isEstimationMode = true then 2 else 1) ↔ _
    cases sketch.isEstimationMode <;> decide
  rw [version, compressedHeader_eq, parsed]
  simp only [mode]
  rfl

end CompactSketch

end ThetaSketch
