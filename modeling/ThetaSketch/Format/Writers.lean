import ThetaSketch.Format.PackLocality
import ThetaSketch.Format.PackedEntries
import ThetaSketch.Format.ParserSafety

/-! How far the writers of one sketch agree.

The writer into fresh memory skips bytes that the others set to zero. The stream
writer of serial version 4 drops a last byte that is not full, and at width 19 a
byte of every block is or-ed into what the block before left there.
-/

set_option autoImplicit false

namespace ThetaSketch

open LittleEndian BitStream CompactThetaSketchParser

namespace CompactSketch

/-! Serial version 3. -/

/-- The offsets that the writer into fresh memory skips. -/
def unusedBytes (sketch : CompactSketch) : List ℕ :=
  [3, 4] ++ if 1 < sketch.preambleLongs then [12, 13, 14, 15] else []

theorem image_eq_iff (sketch : CompactSketch) (first second : ℕ → UInt8) :
    sketch.image first = sketch.image second ↔
      ∀ offset ∈ sketch.unusedBytes, first offset = second offset := by
  unfold image unusedBytes
  by_cases long : 1 < sketch.preambleLongs
  · simp [long]
  · simp [long]

/-- The length of the output never depends on what fresh memory holds; its bytes do,
unless the skipped ones are alike. -/
theorem serialize2_eq_serialize_iff (sketch : CompactSketch) (malloc : ℕ → UInt8) :
    (sketch.serialize2 malloc).length = (sketch.serialize 0).length ∧
    (sketch.serialize2 malloc = sketch.serialize 0 ↔
      ∀ offset ∈ sketch.unusedBytes, malloc offset = 0) ∧
    ∀ other, sketch.serialize2 malloc = sketch.serialize2 other ↔
      ∀ offset ∈ sketch.unusedBytes, malloc offset = other offset := by
  refine ⟨?_, ?_, fun other => sketch.image_eq_iff malloc other⟩
  · simp only [serialize2, serialize, image, List.replicate_zero, List.nil_append, List.length_append,
      List.length_cons]
    split_ifs <;> rfl
  · rw [serialize2, serialize, List.replicate_zero, List.nil_append]
    exact sketch.image_eq_iff malloc fun _ => 0

theorem serialize2_leaks :
    ¬ ∀ (sketch : CompactSketch) (malloc : ℕ → UInt8), sketch.serialize2 malloc = sketch.serialize 0 := by
  intro claim
  have same := claim ⟨true, true, 37836, maxTheta, []⟩ fun _ => 255
  exact absurd same (by decide)

theorem serializeStream_eq (sketch : CompactSketch) : sketch.serializeStream = sketch.serialize 0 := by
  simp only [serializeStream, serialize, image, List.replicate_zero, List.nil_append]
  rfl

end CompactSketch

/-! Blocks of serial version 4. -/

def memoryBlocks (width : ℕ) : ℕ → List ℕ → List UInt8
  | 0, _ => []
  | blocks + 1, deltas =>
    packedBlock width (deltas.take 8) ++ memoryBlocks width blocks (deltas.drop 8)

def streamBlocks (width : ℕ) : ℕ → List ℕ → List UInt8 → List UInt8
  | 0, _, _ => []
  | blocks + 1, deltas, buffer =>
    overBuffer width buffer (packedBlock width (deltas.take 8)) ++
      streamBlocks width blocks (deltas.drop 8)
        (overBuffer width buffer (packedBlock width (deltas.take 8)))

/-- Bits 7 to 14 of the fifth delta of every block. At width 19 they are all that is
written into the eleventh byte of the block. -/
def eleventhBytes : ℕ → List ℕ → List ℕ
  | 0, _ => []
  | blocks + 1, deltas =>
    (deltas.getD 4 0 >>> 7) % 256 :: eleventhBytes blocks (deltas.drop 8)

def Covers (numbers : List ℕ) : Prop := numbers.IsChain fun before next => before ||| next = next

instance (numbers : List ℕ) : Decidable (Covers numbers) :=
  inferInstanceAs (Decidable (numbers.IsChain _))

section Blocks

variable {width : ℕ}

theorem length_packedBlock (positive : 0 < width) (narrow : width < 64) (values : List ℕ) :
    (packedBlock width values).length = width :=
  (packedBlock_spec positive narrow values (List.length_replicate (n := width) (a := 0))).2.1

theorem length_overBuffer (width : ℕ) (buffer block : List UInt8) :
    (overBuffer width buffer block).length = block.length := by
  unfold overBuffer
  split_ifs <;> simp

theorem length_memoryBlocks (positive : 0 < width) (narrow : width < 64) (blocks : ℕ)
    (deltas : List ℕ) : (memoryBlocks width blocks deltas).length = blocks * width := by
  induction blocks generalizing deltas with
  | zero => simp [memoryBlocks]
  | succ blocks ih =>
    rw [memoryBlocks, List.length_append, length_packedBlock positive narrow, ih, Nat.succ_mul,
      Nat.add_comm]

theorem length_streamBlocks (positive : 0 < width) (narrow : width < 64) (blocks : ℕ)
    (deltas : List ℕ) (buffer : List UInt8) :
    (streamBlocks width blocks deltas buffer).length = blocks * width := by
  induction blocks generalizing deltas buffer with
  | zero => simp [streamBlocks]
  | succ blocks ih =>
    rw [streamBlocks, List.length_append, length_overBuffer, length_packedBlock positive narrow, ih,
      Nat.succ_mul, Nat.add_comm]

theorem packBlocks_eq (positive : 0 < width) (narrow : width < 64) (blocks : ℕ) (deltas : List ℕ)
    (front rest : List UInt8) :
    packBlocks width blocks deltas (front ++ List.replicate (blocks * width) 0 ++ rest) front.length =
      .ok (front ++ memoryBlocks width blocks deltas ++ rest, deltas.drop (8 * blocks),
        front.length + blocks * width) := by
  induction blocks generalizing deltas front with
  | zero => simp [packBlocks, memoryBlocks]
  | succ blocks ih =>
    have zeros : front ++ List.replicate ((blocks + 1) * width) 0 ++ rest =
        front ++ List.replicate width 0 ++ (List.replicate (blocks * width) 0 ++ rest) := by
      have split : List.replicate ((blocks + 1) * width) (0 : UInt8) =
          List.replicate width 0 ++ List.replicate (blocks * width) 0 := by
        rw [← List.replicate_add, Nat.succ_mul, Nat.add_comm]
      rw [split]
      simp only [List.append_assoc]
    have block := @packBitsBlock8_append width 0 (deltas.take 8) front _ _
      (List.replicate (blocks * width) 0 ++ rest) (packedBlock_run positive narrow (deltas.take 8))
    have more := ih (deltas.drop 8) (front ++ packedBlock width (deltas.take 8))
    rw [List.length_append, length_packedBlock positive narrow, List.drop_drop] at more
    have dropped : 8 + 8 * blocks = 8 * (blocks + 1) := by ring
    have place : front.length + width + blocks * width = front.length + (blocks + 1) * width := by ring
    rw [packBlocks, zeros, ← Nat.add_zero front.length, block, Run.ok_bind, Nat.add_zero,
      ← List.append_assoc, more, dropped, place, memoryBlocks]
    simp only [List.append_assoc]

theorem packBlocksStream_eq (positive : 0 < width) (narrow : width < 64) (blocks : ℕ)
    (deltas : List ℕ) {buffer : List UInt8} (fits : buffer.length = width) :
    ∃ final, final.length = width ∧ packBlocksStream width blocks deltas buffer =
      .ok (streamBlocks width blocks deltas buffer, deltas.drop (8 * blocks), final) := by
  induction blocks generalizing deltas buffer with
  | zero => exact ⟨buffer, fits, rfl⟩
  | succ blocks ih =>
    have run := (packedBlock_spec positive narrow (deltas.take 8) fits).1
    have length : (overBuffer width buffer (packedBlock width (deltas.take 8))).length = width := by
      rw [length_overBuffer, length_packedBlock positive narrow]
    obtain ⟨final, last, more⟩ := ih (deltas.drop 8) length
    have dropped : 8 + 8 * blocks = 8 * (blocks + 1) := by ring
    refine ⟨final, last, ?_⟩
    rw [packBlocksStream, run, Run.ok_bind, more, List.drop_drop, dropped]
    rfl

theorem eleventh_byte (narrow : width < 64) {values : List ℕ}
    (words : ∀ value ∈ values, value < 2 ^ 64) (nineteen : width = 19) :
    ((packedBlock width values).getD 10 0).toNat = (values.getD 4 0 >>> 7) % 256 := by
  have word : values.getD 4 0 < 2 ^ 64 := by
    rw [List.getD_eq_getElem?_getD]
    cases found : values[4]? with
    | none => exact Nat.two_pow_pos 64
    | some value => exact words value (List.mem_of_getElem? found)
  obtain ⟨_, _, eleventh⟩ := packedBlock_spec (by omega) narrow values
    (List.length_replicate (n := width) (a := 0))
  rw [eleventh nineteen, PackOp.term, Nat.shiftLeft_zero, Nat.mod_eq_of_lt word]

/-- A block comes out right unless byte 10 kept bits that it should not have. -/
theorem overBuffer_eq_iff (positive : 0 < width) (narrow : width < 64) {values : List ℕ}
    (words : ∀ value ∈ values, value < 2 ^ 64) (buffer : List UInt8) :
    overBuffer width buffer (packedBlock width values) = packedBlock width values ↔
      (width = 19 → (buffer.getD 10 0).toNat ||| (values.getD 4 0 >>> 7) % 256 =
        (values.getD 4 0 >>> 7) % 256) := by
  unfold overBuffer
  split_ifs with nineteen
  · have inside : 10 < (packedBlock width values).length := by
      rw [length_packedBlock positive narrow]
      omega
    have kept : ∀ byte, (packedBlock width values).set 10 byte = packedBlock width values ↔
        byte = (packedBlock width values).getD 10 0 := by
      intro byte
      rw [List.getD_eq_getElem _ 0 inside]
      refine ⟨fun same => ?_, fun same => same ▸ List.set_getElem_self inside⟩
      have placed := List.getElem?_set_self (a := byte) inside
      rw [same, List.getElem?_eq_getElem inside] at placed
      exact (Option.some.inj placed).symm
    rw [kept, ← UInt8.toNat_inj, UInt8.toNat_or, eleventh_byte narrow words nineteen]
    exact ⟨fun same _ => same, fun same => same nineteen⟩
  · exact ⟨fun _ impossible => absurd impossible nineteen, fun _ => rfl⟩

theorem streamBlocks_eq_iff (positive : 0 < width) (narrow : width < 64) (blocks : ℕ)
    {deltas : List ℕ} (words : ∀ delta ∈ deltas, delta < 2 ^ 64) (buffer : List UInt8) :
    streamBlocks width blocks deltas buffer = memoryBlocks width blocks deltas ↔
      (width = 19 → Covers ((buffer.getD 10 0).toNat :: eleventhBytes blocks deltas)) := by
  induction blocks generalizing deltas buffer with
  | zero => simp [streamBlocks, memoryBlocks, eleventhBytes, Covers]
  | succ blocks ih =>
    have first : ∀ value ∈ deltas.take 8, value < 2 ^ 64 :=
      fun value member => words value (List.mem_of_mem_take member)
    have fifth : (deltas.take 8).getD 4 0 = deltas.getD 4 0 := by
      simp [List.getD_eq_getElem?_getD]
    have here := overBuffer_eq_iff positive narrow first buffer
    have later := @ih (deltas.drop 8) (fun delta member => words delta (List.mem_of_mem_drop member))
      (packedBlock width (deltas.take 8))
    rw [fifth] at here
    rw [streamBlocks, memoryBlocks, eleventhBytes, Covers, List.isChain_cons_cons]
    -- A block covers what its predecessor left in the buffer, or the streams part there.
    constructor
    · intro same nineteen
      have byte := eleventh_byte narrow first nineteen
      obtain ⟨kept, more⟩ := List.append_inj same (length_overBuffer _ _ _)
      rw [kept] at more
      rw [fifth] at byte
      rw [byte] at later
      exact ⟨here.mp kept nineteen, later.mp more nineteen⟩
    · intro covered
      have kept := here.mpr fun nineteen => (covered nineteen).1
      rw [kept]
      refine congrArg _ (later.mpr fun nineteen => ?_)
      rw [eleventh_byte narrow first nineteen, fifth]
      exact (covered nineteen).2

theorem blocks_spec {blocks : ℕ} (usable : blocks = 0 ∨ 0 < width ∧ width < 64) {deltas : List ℕ}
    (words : ∀ delta ∈ deltas, delta < 2 ^ 64) (front rest : List UInt8) :
    ∃ written stored final, packBlocksStream width blocks deltas (List.replicate width 0) =
        .ok (written, deltas.drop (8 * blocks), final) ∧ final.length = width ∧
      packBlocks width blocks deltas (front ++ List.replicate (blocks * width) 0 ++ rest)
        front.length = .ok (front ++ stored ++ rest, deltas.drop (8 * blocks),
          front.length + blocks * width) ∧
      written.length = blocks * width ∧ stored.length = blocks * width ∧
      (written = stored ↔ (width = 19 → Covers (eleventhBytes blocks deltas))) := by
  rcases usable with rfl | ⟨positive, narrow⟩
  · refine ⟨[], [], List.replicate width 0, ?_, List.length_replicate, ?_, ?_⟩
    · rfl
    · simp [packBlocks]
    · simp [eleventhBytes, Covers]
  · obtain ⟨final, length, stream⟩ := packBlocksStream_eq positive narrow blocks deltas
      (List.length_replicate (n := width) (a := 0))
    refine ⟨_, _, final, stream, length, packBlocks_eq positive narrow blocks deltas front rest,
      length_streamBlocks positive narrow blocks deltas _,
      length_memoryBlocks positive narrow blocks deltas, ?_⟩
    rw [streamBlocks_eq_iff positive narrow blocks words]
    have zero : ((List.replicate width (0 : UInt8)).getD 10 0).toNat = 0 := by
      rw [List.getD_eq_getElem?_getD, List.getElem?_replicate]
      split_ifs <;> rfl
    rw [zero]
    cases eleventhBytes blocks deltas with
    | nil => simp [Covers]
    | cons byte others =>
      simp only [Covers, List.isChain_cons_cons, Nat.zero_or, true_and]

end Blocks

/-! Writers of serial version 4. -/

namespace CompactSketch

/-- When the stream writer of serial version 4 does what the writer into memory does:
the number of packed bits is a 32-bit word, the deltas after the last full block end
with a byte, and at width 19 every block covers what the one before left. Both writers
refuse blocks that are 0 or 64 bits wide. -/
def StreamAgrees (sketch : CompactSketch) : Prop :=
  8 ≤ sketch.entries.length ∧ sketch.entryBits % 64 = 0 ∨
    sketch.entryBits * sketch.entries.length < 2 ^ 32 ∧
      sketch.entries.length % 8 * sketch.entryBits % 8 = 0 ∧
      (sketch.entryBits = 19 →
        Covers (eleventhBytes (sketch.entries.length / 8) (deltas 0 sketch.entries)))

variable {sketch : CompactSketch}

theorem entryBits_le (sketch : CompactSketch) : sketch.entryBits ≤ 64 := Nat.sub_le _ _

theorem serializeVersion4Stream_spec (usable : sketch.entries.length / 8 = 0 ∨
      0 < sketch.entryBits ∧ sketch.entryBits < 64) :
    ∃ result, sketch.serializeVersion4Stream = .ok result ∧
      (sketch.entryBits * sketch.entries.length < 2 ^ 32 →
        (sketch.serializeVersion4 0 = .ok result ↔
          sketch.entries.length % 8 * sketch.entryBits % 8 = 0 ∧
          (sketch.entryBits = 19 →
            Covers (eleventhBytes (sketch.entries.length / 8) (deltas 0 sketch.entries))))) := by
  obtain ⟨count, isCount⟩ : ∃ count, count = sketch.entries.length := ⟨_, rfl⟩
  obtain ⟨width, isWidth⟩ : ∃ width, width = sketch.entryBits := ⟨_, rfl⟩
  obtain ⟨header, isHeader⟩ : ∃ header, header = sketch.compressedHeader := ⟨_, rfl⟩
  obtain ⟨tail, isTail⟩ : ∃ tail, tail =
      wholeBytesToHoldBits (width * count) - count / 8 * width := ⟨_, rfl⟩
  have enough := wholeBytesToHoldBits_spec (width * count)
  have split := bits_split width count
  -- The stream reuses one buffer for all blocks, so its tail starts on old bytes.
  obtain ⟨written, stored, final, stream, last, memory, lengthW, lengthS, same⟩ :=
    @blocks_spec width (count / 8) (isCount ▸ isWidth ▸ usable) (deltas 0 sketch.entries) deltas_lt
      header (List.replicate tail 0)
  obtain ⟨rest, isRest⟩ : ∃ rest, rest = (deltas 0 sketch.entries).drop (8 * (count / 8)) := ⟨_, rfl⟩
  have few : rest.length = count % 8 := by
    rw [isRest, List.length_drop, length_deltas, ← isCount]
    omega
  have below : count % 8 * width ≤ 8 * width :=
    Nat.mul_le_mul_right _ (Nat.mod_lt count (by decide)).le
  obtain ⟨a, b, valuesA, valuesB, lengthA, lengthB, alike⟩ := @packValues_alike final
    (List.replicate tail 0) 0 width rest 0 (by decide) (fun _ low => absurd low (Nat.not_lt_zero _))
    (by rw [few, last]; omega) (by rw [few, List.length_replicate]; omega)
  rw [few, Nat.mul_zero, Nat.zero_add] at valuesA valuesB alike
  have runA := packTail_eq_ok.mpr ⟨_, valuesA⟩
  rw [List.length_replicate] at lengthB
  have streamed : sketch.serializeVersion4Stream =
      .ok (header ++ written ++ a.take (count % 8 * width / 8)) := by
    rw [serializeVersion4Stream, ← isWidth, ← isCount, ← isHeader]
    simp only [stream, Run.ok_bind, ← isRest, runA, Run.pure_eq]
  refine ⟨_, streamed, fun bits => ?_⟩
  -- The memory writer starts every block and its tail on zeros.
  have kept : sketch.serializeVersion4 0 = .ok (header ++ stored ++ b) := by
    have zeros : header ++ List.replicate (wholeBytesToHoldBits (width * count)) (0 : UInt8) =
        header ++ List.replicate (count / 8 * width) 0 ++ List.replicate tail 0 := by
      rw [List.append_assoc, ← List.replicate_add]
      congr 2
      omega
    have packed := @packValues_append (header ++ stored) _ b [] width rest 0 0 _ _ valuesB
    rw [List.append_nil, List.append_nil, List.length_append, lengthS, Nat.add_zero] at packed
    rw [serializeVersion4, ← isWidth, ← isCount, wrap32, Nat.mod_eq_of_lt (isWidth ▸ isCount ▸ bits),
      List.replicate_zero, List.nil_append, ← isHeader]
    simp only [zeros, memory, Run.ok_bind, ← isRest, packRest_eq, packed]
    rfl
  rw [kept, ← isWidth, ← isCount]
  have lengths : (header ++ written).length = (header ++ stored).length := by
    rw [List.length_append, List.length_append, lengthW, lengthS]
  -- The stream cuts a last partial byte off.
  constructor
  · intro equal
    obtain ⟨fronts, tails⟩ := List.append_inj (Except.ok.inj equal).symm lengths
    have sizes := congrArg List.length tails
    rw [List.length_take, lengthA, lengthB, last] at sizes
    exact ⟨by omega, same.mp (List.append_cancel_left fronts)⟩
  · rintro ⟨byte, covered⟩
    rw [same.mpr covered]
    refine congrArg Except.ok (congrArg _ (List.ext_getElem? fun index => ?_))
    rw [List.getElem?_take]
    split_ifs with inside
    · exact (alike index (by omega)).symm
    · exact List.getElem?_eq_none (by omega)

theorem serializeVersion4_overflow (usable : sketch.entries.length / 8 = 0 ∨
      0 < sketch.entryBits ∧ sketch.entryBits < 64)
    (bits : 2 ^ 32 ≤ sketch.entryBits * sketch.entries.length) (result : List UInt8) :
    sketch.serializeVersion4 0 ≠ .ok result := by
  intro run
  obtain ⟨count, isCount⟩ : ∃ count, count = sketch.entries.length := ⟨_, rfl⟩
  obtain ⟨width, isWidth⟩ : ∃ width, width = sketch.entryBits := ⟨_, rfl⟩
  rw [← isCount, ← isWidth] at usable bits
  have atMost : width ≤ 64 := isWidth ▸ sketch.entryBits_le
  obtain ⟨positive, narrow⟩ : 0 < width ∧ width < 64 := usable.resolve_left fun few => by
    have : width * count ≤ 64 * 7 := Nat.mul_le_mul atMost (by omega)
    omega
  rw [serializeVersion4, ← isWidth, ← isCount] at run
  obtain ⟨⟨middle, rest, next⟩, blocks, more⟩ := Run.bind_eq_ok.mp run
  obtain ⟨length, left, place, fits⟩ := packBlocks_inside positive narrow _ blocks
  have size := wholeBytesToHoldBits_spec (wrap32 (width * count))
  -- The size in bits wraps around, but blocks and tail advance by their true size.
  have wrapped : wrap32 (width * count) + 2 ^ 32 ≤ width * count := by
    rw [wrap32]
    omega
  have split := bits_split width count
  rw [List.length_append, List.length_replicate] at length fits
  have some : 0 < count / 8 := by
    by_contra few
    have : width * count ≤ 64 * 7 := Nat.mul_le_mul atMost (by omega)
    omega
  have blocksFit := fits some
  by_cases last : rest = []
  · have none : count % 8 = 0 := by
      have := congrArg List.length (left.symm.trans last)
      rw [List.length_drop, length_deltas, List.length_nil, ← isCount] at this
      omega
    rw [none, Nat.zero_mul] at split
    omega
  · change packRest width rest middle next 0 = .ok result at more
    rw [packRest_eq] at more
    cases tail : packValues width rest middle next 0 with
    | error exit => rw [tail] at more; cases more
    | ok packed =>
      have inside := packValues_inside positive rest (by decide) last tail
      rw [left, List.length_drop, length_deltas, ← isCount, length] at inside
      have left : count - 8 * (count / 8) = count % 8 := by omega
      rw [left] at inside
      omega

/-- The uncompressed writers always agree. -/
theorem streams_agree_iff (sketch : CompactSketch) :
    sketch.serializeStream = sketch.serialize 0 ∧
    (sketch.serializeCompressedStream = sketch.serializeCompressed 0 ↔
      (sketch.isSuitableForCompression = true → sketch.StreamAgrees)) := by
  refine ⟨sketch.serializeStream_eq, ?_⟩
  unfold serializeCompressedStream serializeCompressed
  split_ifs with suitable
  · unfold StreamAgrees
    have atMost := sketch.entryBits_le
    -- Both writers call a block routine first, or none is called.
    by_cases refused : 8 ≤ sketch.entries.length ∧ sketch.entryBits % 64 = 0
    · refine ⟨fun _ _ => .inl refused, fun _ => ?_⟩
      obtain ⟨blocks, many⟩ : ∃ blocks, sketch.entries.length / 8 = blocks + 1 :=
        ⟨sketch.entries.length / 8 - 1, by omega⟩
      have none : packBlockOps sketch.entryBits = none := by
        obtain zero | full : sketch.entryBits = 0 ∨ sketch.entryBits = 64 := by omega
        · rw [zero]; rfl
        · rw [full]; rfl
      simp only [serializeVersion4Stream, serializeVersion4, many, packBlocksStream, packBlocks,
        packBitsBlock8, none, Run.error_bind]
    · have usable : sketch.entries.length / 8 = 0 ∨ 0 < sketch.entryBits ∧ sketch.entryBits < 64 := by
        omega
      obtain ⟨result, stream, agree⟩ := serializeVersion4Stream_spec usable
      rw [stream, eq_comm]
      by_cases bits : sketch.entryBits * sketch.entries.length < 2 ^ 32
      · rw [agree bits]
        exact ⟨fun same _ => .inr ⟨bits, same⟩, fun same => ((same suitable).resolve_left refused).2⟩
      · refine ⟨fun same => ?_, fun same => absurd ((same suitable).resolve_left refused).1 bits⟩
        exact absurd same (serializeVersion4_overflow usable (Nat.le_of_not_lt bits) result)
  · exact ⟨fun _ impossible => absurd impossible suitable,
      fun _ => congrArg Except.ok sketch.serializeStream_eq⟩

theorem serializeCompressedStream_truncates :
    ¬ ∀ sketch : CompactSketch, (sketch.isOrdered = true → sketch.entries.Pairwise (· < ·)) →
      sketch.serializeCompressedStream = sketch.serializeCompressed 0 ∧
      sketch.serializeStream = sketch.serialize 0 := by
  intro claim
  have same := (claim ⟨false, true, 37836, maxTheta, [1, 5]⟩ (by decide)).1
  exact absurd same (by decide +kernel)

end CompactSketch

end ThetaSketch
