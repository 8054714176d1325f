import ThetaSketch.Format.CompressedRoundTrip
import ThetaSketch.Format.StreamReaders
import ThetaSketch.Format.Writers

/-! Sketches written to a stream one after the other.

Nothing in the stream says where a sketch ends. The reader takes exactly the bytes
that the writer made, and leaves the stream at the next sketch.
-/

set_option autoImplicit false

namespace ThetaSketch

open LittleEndian BitStream CompactThetaSketchParser StreamRun

/-- The bytes of a sketch in a stream: they are read as the sketch, and what comes after
them is left. -/
def Framed (seed : UInt64) (bytes : List UInt8) (sketch : CompactSketch) : Prop :=
  ∀ tail unset, CompactSketch.deserializeStream seed ⟨bytes ++ tail, true, unset⟩ =
    .ok (sketch, past (bytes ++ tail) unset bytes.length)

section Fields

variable {bytes : List UInt8}

theorem word_of_readAt {offset width value : ℕ} (read : readAt bytes offset width = .ok value) :
    word bytes offset width = value := (readAt_eq_ok_iff.mp read).2

theorem storedWords_encode {entries : List ℕ} (front tail : List UInt8) {start : ℕ}
    (words : ∀ entry ∈ entries, entry < 2 ^ 64) (here : front.length = start) :
    storedWords (front ++ (entries.flatMap (encode 8) ++ tail)) entries.length start = entries := by
  induction entries generalizing front start with
  | nil => rfl
  | cons entry rest ih =>
    have first := word_of_readAt (readAt_encode front 8 entry (rest.flatMap (encode 8) ++ tail) here
      (words entry List.mem_cons_self))
    have later := @ih (front ++ encode 8 entry) (start + 8)
      (fun word member => words word (List.mem_cons_of_mem _ member))
      (by rw [List.length_append, length_encode, here])
    rw [List.append_assoc] at later
    rw [List.flatMap_cons, List.append_assoc, List.length_cons, storedWords, first, later]

theorem deserializeStream_version {seed : UInt64} {unset : ℕ → UInt8} (long : 3 ≤ bytes.length)
    (type : word bytes 2 1 = sketchType) :
    CompactSketch.deserializeStream seed ⟨bytes, true, unset⟩ =
      (if word bytes 1 1 = 4 then CompactSketch.deserializeV4 (word bytes 0 1) seed
      else if word bytes 1 1 = 3 then CompactSketch.deserializeV3 (word bytes 0 1) seed
      else if word bytes 1 1 = 1 then CompactSketch.deserializeV1 seed
      else if word bytes 1 1 = 2 then CompactSketch.deserializeV2 (word bytes 0 1) seed
      else fail (.exit (.invalidArg ("unexpected sketch serialization version " ++
        toString (word bytes 1 1))))) (past bytes unset 3) := by
  change CompactSketch.deserializeStream seed (past bytes unset 0) = _
  unfold CompactSketch.deserializeStream
  rw [bind_of_ok (readInt_past (by omega)), bind_of_ok (readInt_past (by omega)),
    bind_of_ok (readInt_past (by omega))]
  have passed : lift (checkSketchType (word bytes (0 + 1 + 1) 1) sketchType)
      (past bytes unset (0 + 1 + 1 + 1)) = .ok ((), past bytes unset 3) := by
    rw [checkSketchType, checkValue, if_pos type]
    rfl
  rw [bind_of_ok passed]

end Fields

/-! Words. -/

section Version3

variable {preamble : Preamble} {seed : UInt64} {unset : ℕ → UInt8}

def version3End (preamble : Preamble) (seed : UInt64) : StreamRun CompactSketch := do
  let isEmpty := preamble.flags.testBit CompactSketch.isEmptyFlag
  CompactSketch.checkSeedHashStream isEmpty preamble.hash seed
  let (numEntries, theta) ← CompactSketch.readPreambleV3 isEmpty preamble.preLongs
  newVector numEntries
  let entries ← CompactSketch.readEntriesStream isEmpty numEntries
  checkGood
  return CompactSketch.new isEmpty (preamble.flags.testBit CompactSketch.isOrderedFlag) preamble.hash
    theta entries

theorem deserializeStream_preamble (fits : preamble.Fits) (three : preamble.version = 3)
    (rest : List UInt8) :
    CompactSketch.deserializeStream seed ⟨preamble.bytes ++ rest, true, unset⟩ =
      version3End preamble seed (past (preamble.bytes ++ rest) unset 8) := by
  have long : 8 ≤ (preamble.bytes ++ rest).length := by
    rw [List.length_append, Preamble.length_bytes]
    exact Nat.le_add_right _ _
  have version : word (preamble.bytes ++ rest) 1 1 = 3 :=
    (word_of_readAt (Preamble.readByte_version rest fits)).trans three
  have preLongs : word (preamble.bytes ++ rest) 0 1 = preamble.preLongs :=
    word_of_readAt (Preamble.readByte_preLongs rest fits)
  have flags : word (preamble.bytes ++ rest) 5 1 = preamble.flags :=
    word_of_readAt (Preamble.readByte_flags rest fits)
  have hash : word (preamble.bytes ++ rest) 6 2 = preamble.hash :=
    word_of_readAt (Preamble.readU16_hash rest fits)
  rw [deserializeStream_version (by omega) (word_of_readAt (Preamble.readByte_type rest)), version,
    if_neg (by decide), if_pos rfl, preLongs, CompactSketch.deserializeV3,
    bind_of_ok (readInt_past (by omega)), bind_of_ok (readInt_past (by omega)),
    bind_of_ok (readInt_past (by omega))]
  simp only [Nat.reduceAdd, flags, hash]
  rfl

theorem version3End_words (full : preamble.flags.testBit CompactSketch.isEmptyFlag = false)
    (seedHash : preamble.hash = computeSeedHash seed) {entries : List ℕ} {front tail : List UInt8}
    {theta : ℕ} (words : ∀ entry ∈ entries, entry < 2 ^ 64) (few : entries.length < 2 ^ 29)
    (header : CompactSketch.readPreambleV3 false preamble.preLongs
        (past (front ++ (entries.flatMap (encode 8) ++ tail)) unset 8) =
      .ok ((entries.length, theta), past (front ++ (entries.flatMap (encode 8) ++ tail)) unset
        front.length)) :
    version3End preamble seed (past (front ++ (entries.flatMap (encode 8) ++ tail)) unset 8) =
      .ok (CompactSketch.new false (preamble.flags.testBit CompactSketch.isOrderedFlag) preamble.hash
        theta entries, past (front ++ (entries.flatMap (encode 8) ++ tail)) unset
          (front ++ entries.flatMap (encode 8)).length) := by
  have size : (entries.flatMap (encode 8)).length = 8 * entries.length := by
    simp [List.length_flatMap, Nat.mul_comm]
  have passed : ∀ stream, CompactSketch.checkSeedHashStream false preamble.hash seed stream =
      .ok ((), stream) := by
    intro stream
    rw [CompactSketch.checkSeedHashStream, if_neg Bool.false_ne_true, checkSeedHash_eq seedHash]
    rfl
  unfold version3End
  simp only [full]
  rw [bind_of_ok (passed _), bind_of_ok header]
  refine words_end_iff.mpr ⟨few, ?_⟩
  rw [if_neg Bool.false_ne_true, storedWords_encode front tail words rfl]
  refine ⟨fun _ => ?_, rfl, by rw [List.length_append, size]⟩
  rw [List.length_append, List.length_append, size]
  omega

theorem readPreambleV3_count {preLongs count theta : ℕ} {unused stored rest : List UInt8}
    (several : preLongs ≠ 1) (small : count < 2 ^ 32) (four : unused.length = 4)
    (word : theta < 2 ^ 64)
    (layout : 2 < preLongs ∧ stored = encode 8 theta ∨ preLongs ≤ 2 ∧ stored = [] ∧ theta = maxTheta) :
    CompactSketch.readPreambleV3 false preLongs
        (past (preamble.bytes ++ (encode 4 count ++ (unused ++ (stored ++ rest)))) unset 8) =
      .ok ((count, theta), past (preamble.bytes ++ (encode 4 count ++ (unused ++ (stored ++ rest)))) unset
        (preamble.bytes ++ (encode 4 count ++ (unused ++ stored))).length) := by
  obtain ⟨bytes, isBytes⟩ : ∃ bytes, bytes =
      preamble.bytes ++ (encode 4 count ++ (unused ++ (stored ++ rest))) := ⟨_, rfl⟩
  have length : bytes.length = 16 + (stored.length + rest.length) := by
    rw [isBytes]
    simp only [List.length_append, Preamble.length_bytes, length_encode, four]
    omega
  have counted : LittleEndian.word bytes 8 4 = count :=
    isBytes ▸ word_of_readAt (readAt_encode preamble.bytes 4 count _ Preamble.length_bytes small)
  rw [← isBytes, CompactSketch.readPreambleV3, if_neg Bool.false_ne_true, if_neg several,
    bind_of_ok (readInt_past (by omega)), bind_of_ok (readInt_past (by omega)), counted]
  simp only [Nat.reduceAdd, List.length_append, Preamble.length_bytes, length_encode, four]
  rcases layout with ⟨three, isStored⟩ | ⟨two, isStored, isTheta⟩
  · have eight : stored.length = 8 := by rw [isStored, length_encode]
    have thetaRead : LittleEndian.word bytes 16 8 = theta := by
      have read := @readAt_encode (preamble.bytes ++ (encode 4 count ++ unused)) 8 theta rest 16
        (by simp [four]) word
      rw [List.append_assoc, List.append_assoc, ← isStored, ← isBytes] at read
      exact word_of_readAt read
    rw [CompactSketch.readTheta, decide_eq_true three, if_pos rfl, bind_of_ok (readInt_past (by omega)),
      thetaRead, eight]
    rfl
  · rw [CompactSketch.readTheta, decide_eq_false (Nat.not_lt.mpr two), isStored, isTheta]
    rfl

end Version3

namespace CompactSketch

variable {sketch : CompactSketch} {seed : UInt64}

theorem Restorable.framed (fits : sketch.Restorable seed) (buffer : ℕ → UInt8) :
    Framed seed (sketch.image buffer) sketch := by
  intro tail unset
  obtain ⟨_, emptyFlag, orderedFlag⟩ := sketch.flagsByte_spec
  have preambleFits := preamble_fits fits.toWritable buffer
  have whole := fits.new_eq
  have theta := fits.theta_eq
  have few : sketch.entries.length < 2 ^ 29 := by
    have := fits.count
    omega
  -- The preamble has one, two or three longs: the cases follow `preambleLongs`.
  cases flagged : sketch.isEmpty with
  | true =>
    have none := fits.empty flagged
    have exact : sketch.isEstimationMode = false := by simp [isEstimationMode, flagged]
    have one : sketch.preambleLongs = 1 := by simp [preambleLongs, exact, flagged]
    have split : sketch.image buffer = (sketch.preamble buffer).bytes := by
      simp [image, CompactSketch.preamble, Preamble.bytes, one, exact, none]
    have empty : (sketch.preamble buffer).flags.testBit CompactSketch.isEmptyFlag = true :=
      emptyFlag.trans flagged
    rw [split, deserializeStream_preamble preambleFits rfl, Preamble.length_bytes]
    unfold version3End
    simp only [empty, checkSeedHashStream, readPreambleV3, if_true, pure_bind]
    refine words_end_iff.mpr ⟨Nat.two_pow_pos 29, ?_⟩
    rw [if_pos rfl]
    refine ⟨?_, rfl⟩
    change sketch = CompactSketch.new true (sketch.flagsByte.testBit CompactThetaSketchParser.isOrderedFlag)
      sketch.seedHash maxTheta []
    rw [orderedFlag, ← flagged, ← none, ← fits.exact flagged, whole]
  | false =>
    have seedHash : (sketch.preamble buffer).hash = computeSeedHash seed := fits.seed flagged
    have full : (sketch.preamble buffer).flags.testBit CompactSketch.isEmptyFlag = false :=
      emptyFlag.trans flagged
    have ordered : (sketch.preamble buffer).flags.testBit CompactSketch.isOrderedFlag =
        sketch.isOrdered := orderedFlag
    -- It is left to find the count and `theta` in front of the entries.
    have finish : ∀ front, sketch.image buffer = front ++ sketch.entries.flatMap (encode 8) →
        (∃ rest, front = (sketch.preamble buffer).bytes ++ rest) →
        readPreambleV3 false (sketch.preamble buffer).preLongs
            (past (front ++ (sketch.entries.flatMap (encode 8) ++ tail)) unset 8) =
          .ok ((sketch.entries.length, sketch.theta),
            past (front ++ (sketch.entries.flatMap (encode 8) ++ tail)) unset front.length) →
        deserializeStream seed ⟨sketch.image buffer ++ tail, true, unset⟩ =
          .ok (sketch, past (sketch.image buffer ++ tail) unset (sketch.image buffer).length) := by
      rintro front split ⟨rest, isFront⟩ header
      have read := version3End_words full seedHash fits.words few header
      rw [ordered, ← flagged] at read
      change _ = Except.ok (CompactSketch.new sketch.isEmpty sketch.isOrdered sketch.seedHash sketch.theta
        sketch.entries, _) at read
      rw [whole] at read
      rw [split, List.append_assoc, ← read, isFront, List.append_assoc]
      exact deserializeStream_preamble preambleFits rfl _
    cases estimation : sketch.isEstimationMode with
    | true =>
      have three : sketch.preambleLongs = 3 := by simp [preambleLongs, estimation]
      refine finish ((sketch.preamble buffer).bytes ++ (encode 4 sketch.entries.length ++
        ([buffer 12, buffer 13, buffer 14, buffer 15] ++ encode 8 sketch.theta))) ?_ ⟨_, rfl⟩ ?_
      · simp [image, CompactSketch.preamble, Preamble.bytes, three, estimation]
      · have header := @readPreambleV3_count (sketch.preamble buffer) unset 3 sketch.entries.length sketch.theta
          [buffer 12, buffer 13, buffer 14, buffer 15] (encode 8 sketch.theta)
          (sketch.entries.flatMap (encode 8) ++ tail) (by decide) (by omega) rfl fits.theta
          (.inl ⟨by decide, rfl⟩)
        change readPreambleV3 false sketch.preambleLongs _ = _
        rw [three]
        simpa only [List.append_assoc] using header
    | false =>
      rw [estimation, if_neg Bool.false_ne_true] at theta
      by_cases one : sketch.entries.length = 1
      · have single : sketch.preambleLongs = 1 := by simp [preambleLongs, estimation, one]
        refine finish (sketch.preamble buffer).bytes ?_ ⟨[], (List.append_nil _).symm⟩ ?_
        · simp [image, CompactSketch.preamble, Preamble.bytes, single, estimation]
        · change readPreambleV3 false sketch.preambleLongs _ = _
          rw [single, one, ← theta, Preamble.length_bytes]
          rfl
      · have two : sketch.preambleLongs = 2 := by simp [preambleLongs, estimation, flagged, one]
        refine finish ((sketch.preamble buffer).bytes ++ (encode 4 sketch.entries.length ++
          [buffer 12, buffer 13, buffer 14, buffer 15])) ?_ ⟨_, rfl⟩ ?_
        · simp [image, CompactSketch.preamble, Preamble.bytes, two, estimation]
        · have header := @readPreambleV3_count (sketch.preamble buffer) unset 2 sketch.entries.length sketch.theta
            [buffer 12, buffer 13, buffer 14, buffer 15] []
            (sketch.entries.flatMap (encode 8) ++ tail) (by decide) (by omega) rfl fits.theta
            (.inr ⟨le_rfl, rfl, theta.symm⟩)
          change readPreambleV3 false sketch.preambleLongs _ = _
          rw [two]
          simpa only [List.append_assoc, List.nil_append, List.append_nil] using header

/-! Packed entries. -/

theorem copiedFields_of_stored {bytes : List UInt8} {start width : ℕ} {numbers : List ℕ}
    (positive : 0 < width) (narrow : width < 64)
    (inside : start + wholeBytesToHoldBits (width * numbers.length) ≤ bytes.length)
    (stored : Stored bytes width (8 * start) (packedBlocks width (numbers.length / 8) numbers ++
      numbers.drop (8 * (numbers.length / 8)))) :
    copiedFields bytes start width numbers.length =
      readBlocks width (numbers.length / 8) numbers ++ numbers.drop (8 * (numbers.length / 8)) := by
  have enough := (wholeBytesToHoldBits_spec (width * numbers.length)).1
  have split := bits_split width numbers.length
  obtain ⟨inBlocks, inRest⟩ := stored_append_iff.mp stored
  have blocks := unpackBlocks_spec positive narrow (numbers.length / 8) (by omega) inBlocks
  rw [unpackBlocks_fields positive narrow _ (by omega), Except.ok.injEq, Prod.mk.injEq] at blocks
  have next : 8 * start + (packedBlocks width (numbers.length / 8) numbers).length * width =
      8 * (start + numbers.length / 8 * width) := by
    rw [length_packedBlocks]
    ring
  have left : (numbers.drop (8 * (numbers.length / 8))).length = numbers.length % 8 := by
    rw [List.length_drop]
    omega
  rw [next] at inRest
  have rest := fields_of_stored inRest
  rw [left] at rest
  rw [copiedFields, rest, blocks.1]

end CompactSketch

section Version4

variable {preamble : Preamble} {seed : UInt64} {unset : ℕ → UInt8}

def version4End (preamble : Preamble) (seed : UInt64) : StreamRun CompactSketch := do
  let isEmpty := preamble.flags.testBit CompactSketch.isEmptyFlag
  CompactSketch.checkSeedHashStream isEmpty preamble.hash seed
  let theta ← CompactSketch.readTheta (decide (1 < preamble.preLongs))
  let numEntries ← StreamRun.countLoop preamble.fourth.toNat 0 0
  newVector numEntries
  let entries ← CompactSketch.readPackedEntries preamble.third.toNat numEntries
  return CompactSketch.new isEmpty (preamble.flags.testBit CompactSketch.isOrderedFlag) preamble.hash
    theta entries

theorem deserializeStream_preamble4 (fits : preamble.Fits) (four : preamble.version = 4)
    (rest : List UInt8) :
    CompactSketch.deserializeStream seed ⟨preamble.bytes ++ rest, true, unset⟩ =
      version4End preamble seed (past (preamble.bytes ++ rest) unset 8) := by
  have long : 8 ≤ (preamble.bytes ++ rest).length := by
    rw [List.length_append, Preamble.length_bytes]
    exact Nat.le_add_right _ _
  have version : word (preamble.bytes ++ rest) 1 1 = 4 :=
    (word_of_readAt (Preamble.readByte_version rest fits)).trans four
  have preLongs : word (preamble.bytes ++ rest) 0 1 = preamble.preLongs :=
    word_of_readAt (Preamble.readByte_preLongs rest fits)
  have width : word (preamble.bytes ++ rest) 3 1 = preamble.third.toNat :=
    word_of_readAt (Preamble.readByte_eq rest (by decide))
  have bytes : word (preamble.bytes ++ rest) 4 1 = preamble.fourth.toNat :=
    word_of_readAt (Preamble.readByte_eq rest (by decide))
  have flags : word (preamble.bytes ++ rest) 5 1 = preamble.flags :=
    word_of_readAt (Preamble.readByte_flags rest fits)
  have hash : word (preamble.bytes ++ rest) 6 2 = preamble.hash :=
    word_of_readAt (Preamble.readU16_hash rest fits)
  rw [deserializeStream_version (by omega) (word_of_readAt (Preamble.readByte_type rest)), version,
    if_pos rfl, preLongs, CompactSketch.deserializeV4, bind_of_ok (readInt_past (by omega)),
    bind_of_ok (readInt_past (by omega)), bind_of_ok (readInt_past (by omega)),
    bind_of_ok (readInt_past (by omega))]
  simp only [Nat.reduceAdd, width, bytes, flags, hash]
  rfl

theorem version4End_packed (full : preamble.flags.testBit CompactSketch.isEmptyFlag = false)
    (seedHash : preamble.hash = computeSeedHash seed) {theta count : ℕ} {packed : List UInt8}
    (small : theta < 2 ^ 64) (few : preamble.fourth.toNat ≤ 4) (fits : count < 256 ^ preamble.fourth.toNat)
    (room : count < 2 ^ 29) (positive : 0 < preamble.third.toNat) (narrow : preamble.third.toNat < 64)
    (enough : wholeBytesToHoldBits (preamble.third.toNat * count) ≤ packed.length) :
    version4End preamble seed
        (past (version4Header preamble theta preamble.fourth.toNat count ++ packed) unset 8) =
      .ok (CompactSketch.new false (preamble.flags.testBit CompactSketch.isOrderedFlag) preamble.hash
        (if 1 < preamble.preLongs then theta else maxTheta)
        (undoDeltas 0 (copiedFields (version4Header preamble theta preamble.fourth.toNat count ++ packed)
          (version4Header preamble theta preamble.fourth.toNat count).length preamble.third.toNat count)),
        past (version4Header preamble theta preamble.fourth.toNat count ++ packed) unset
          ((version4Header preamble theta preamble.fourth.toNat count).length +
            wholeBytesToHoldBits (preamble.third.toNat * count))) := by
  obtain ⟨stored, isStored⟩ : ∃ stored, stored =
      (if 1 < preamble.preLongs then encode 8 theta else []) := ⟨_, rfl⟩
  obtain ⟨bytes, isBytes⟩ : ∃ bytes, bytes =
      version4Header preamble theta preamble.fourth.toNat count ++ packed := ⟨_, rfl⟩
  have layout : bytes = preamble.bytes ++ (stored ++ (encode preamble.fourth.toNat count ++ packed)) := by
    rw [isBytes, version4Header, ← isStored, List.append_assoc, List.append_assoc]
  have header : (version4Header preamble theta preamble.fourth.toNat count).length =
      8 + stored.length + preamble.fourth.toNat := by
    rw [version4Header, ← isStored]
    simp only [List.length_append, Preamble.length_bytes, length_encode]
    omega
  have length : bytes.length = 8 + stored.length + preamble.fourth.toNat + packed.length := by
    rw [isBytes, List.length_append, header]
  have thetaRead : CompactSketch.readTheta (decide (1 < preamble.preLongs)) (past bytes unset 8) =
      .ok (if 1 < preamble.preLongs then theta else maxTheta, past bytes unset (8 + stored.length)) := by
    by_cases two : 1 < preamble.preLongs
    · rw [if_pos two] at isStored
      have read := word_of_readAt (readAt_encode preamble.bytes 8 theta
        (encode preamble.fourth.toNat count ++ packed) Preamble.length_bytes small)
      rw [← isStored, ← layout] at read
      have eight : stored.length = 8 := by rw [isStored, length_encode]
      rw [CompactSketch.readTheta, decide_eq_true two, if_pos rfl, if_pos two,
        readInt_past (by omega), read, eight]
    · rw [if_neg two] at isStored
      rw [CompactSketch.readTheta, decide_eq_false two, if_neg two, isStored]
      rfl
  have counted : word bytes (8 + stored.length) preamble.fourth.toNat = count := by
    have read := readAt_encode (preamble.bytes ++ stored) preamble.fourth.toNat count packed
      (by rw [List.length_append, Preamble.length_bytes]) fits
    rw [List.append_assoc, ← layout] at read
    exact word_of_readAt read
  have passed : ∀ stream, CompactSketch.checkSeedHashStream false preamble.hash seed stream =
      .ok ((), stream) := by
    intro stream
    rw [CompactSketch.checkSeedHashStream, if_neg Bool.false_ne_true, checkSeedHash_eq seedHash]
    rfl
  rw [← isBytes, header]
  unfold version4End
  simp only [full]
  rw [bind_of_ok (passed _), bind_of_ok thetaRead]
  have start : past bytes unset (8 + stored.length) = past bytes unset (8 + stored.length + 0) := rfl
  rw [start, countLoop_bind_iff]
  refine ⟨count, (countLoop_eq_ok_iff (by omega)).mpr ⟨few, by omega, counted⟩, ?_⟩
  rw [newVector_bind_eq_ok, readPackedEntries_bind_iff positive narrow _ (by omega)]
  exact ⟨room, by omega, rfl⟩

end Version4

namespace CompactSketch

variable {sketch : CompactSketch}

/-- The compressed bytes are read to their end, and the deltas come out of them as they come
out of memory. -/
theorem version4_framed (packable : sketch.Packable) (some : sketch.entries ≠ [])
    (narrow : sketch.entryBits < 64) : ∃ bytes, sketch.serializeVersion4 0 = .ok bytes ∧
      Framed defaultSeed bytes (CompactSketch.new false true sketch.seedHash
        (if sketch.isEstimationMode then sketch.theta else maxTheta) sketch.readEntries) := by
  obtain ⟨positive, _, _⟩ := packable.entryBits_spec some
  obtain ⟨packed, written, size, stored⟩ := serializeVersion4_spec packable some (.inl narrow)
  refine ⟨_, written, fun tail unset => ?_⟩
  have count := packable.count
  rw [maxLgK] at count
  obtain ⟨few, room⟩ := @numEntriesBytes_spec sketch (by omega)
  have third : sketch.preamble4.third.toNat = sketch.entryBits := by
    change (UInt8.ofNat sketch.entryBits).toNat = _
    rw [UInt8.toNat_ofNat', Nat.mod_eq_of_lt (by omega)]
  have fourth : sketch.preamble4.fourth.toNat = sketch.numEntriesBytes := by
    change (UInt8.ofNat sketch.numEntriesBytes).toNat = _
    rw [UInt8.toNat_ofNat', Nat.mod_eq_of_lt (by omega)]
  have mode : (1 < sketch.preamble4.preLongs) ↔ sketch.isEstimationMode = true := by
    change 1 < (if sketch.isEstimationMode = true then 2 else 1) ↔ _
    cases sketch.isEstimationMode <;> decide
  have empty : sketch.preamble4.flags.testBit CompactSketch.isEmptyFlag = false :=
    show (1 <<< isCompactFlag ||| 1 <<< isReadOnlyFlag ||| 1 <<< isOrderedFlag).testBit _ = false by decide
  have ordered : sketch.preamble4.flags.testBit CompactSketch.isOrderedFlag = true :=
    show (1 <<< isCompactFlag ||| 1 <<< isReadOnlyFlag ||| 1 <<< isOrderedFlag).testBit _ = true by decide
  have read := @version4End_packed sketch.preamble4 defaultSeed unset empty packable.seed sketch.theta
    sketch.entries.length (packed ++ tail) packable.theta (by omega) (by rwa [fourth]) (by omega)
    (by rwa [third]) (by rwa [third]) (by rw [third, List.length_append, size]; omega)
  rw [third, fourth, ← compressedHeader_eq, ordered] at read
  simp only [mode] at read
  -- The packed bits stand where they stood, whatever follows them.
  have enough := wholeBytesToHoldBits_spec (sketch.entryBits * sketch.entries.length)
  have kept : Stored (sketch.compressedHeader ++ (packed ++ tail)) sketch.entryBits
      (8 * sketch.compressedHeader.length) sketch.packedEntries := by
    refine stored.congr fun place low => ?_
    have all : sketch.packedEntries.length = sketch.entries.length := by
      rw [packedEntries, List.length_append, length_packedBlocks, List.length_drop, length_deltas]
      omega
    rw [← List.append_assoc, bit_append_left]
    rw [List.length_append, size]
    rw [all, Nat.mul_comm sketch.entries.length] at low
    omega
  have fieldsRead := @copiedFields_of_stored (sketch.compressedHeader ++ (packed ++ tail))
    sketch.compressedHeader.length _ (deltas 0 sketch.entries) positive narrow
    (by rw [length_deltas, List.length_append, List.length_append, size]; omega)
    (by rw [length_deltas]; exact kept)
  rw [length_deltas] at fieldsRead
  rw [fieldsRead, ← readEntries] at read
  rw [List.append_assoc, List.length_append, size, ← show sketch.preamble4.hash = sketch.seedHash from rfl,
    ← read, compressedHeader_eq, version4Header, List.append_assoc]
  exact deserializeStream_preamble4 (preamble4_fits packable) rfl _

/-- What the compressed writer of a stream keeps: a sketch that survives compression, where the
stream writer does not slip either. -/
structure SurvivesStream (sketch : CompactSketch) : Prop where
  packable : sketch.Packable
  survives : sketch.SurvivesCompression
  agrees : sketch.isSuitableForCompression = true → sketch.StreamAgrees

theorem SurvivesStream.restorable (kept : sketch.SurvivesStream) :
    sketch.Restorable defaultSeed where
  toWritable := kept.packable.writable
  bound := kept.survives.1
  ordered := kept.survives.2.1
  exact := fun flagged => (kept.packable.empty flagged).2

theorem serializeStream_framed {seed : UInt64} (fits : sketch.Restorable seed) :
    Framed seed sketch.serializeStream sketch := by
  have bytes : sketch.serializeStream = sketch.image fun _ => 0 :=
    sketch.serializeStream_eq.trans (List.nil_append _)
  rw [bytes]
  exact fits.framed _

theorem serializeCompressedStream_framed (kept : sketch.SurvivesStream) :
    ∃ bytes, sketch.serializeCompressedStream = .ok bytes ∧ Framed defaultSeed bytes sketch := by
  rw [(streams_agree_iff sketch).2.mpr kept.agrees, serializeCompressed]
  cases suitable : sketch.isSuitableForCompression with
  | false =>
    refine ⟨_, rfl, ?_⟩
    rw [← serializeStream_eq]
    exact serializeStream_framed kept.restorable
  | true =>
    have shape : sketch.isOrdered = true ∧ sketch.entries ≠ [] := by
      unfold isSuitableForCompression at suitable
      simp only [Bool.not_eq_true', Bool.or_eq_false_iff, Bool.not_eq_false', beq_eq_false_iff_ne] at suitable
      exact ⟨suitable.1.1, fun none => suitable.1.2 (by rw [none]; rfl)⟩
    obtain ⟨ordered, some⟩ := shape
    have full : sketch.isEmpty = false := by
      cases flagged : sketch.isEmpty with
      | false => rfl
      | true => exact absurd (kept.packable.empty flagged).1 some
    have narrow := (kept.packable.entryBits_spec some).2.2.2 kept.survives.1
    obtain ⟨bytes, written, framed⟩ := version4_framed kept.packable some narrow
    have back : CompactSketch.new false true sketch.seedHash
        (if sketch.isEstimationMode then sketch.theta else maxTheta) sketch.readEntries = sketch := by
      rw [kept.restorable.theta_eq, (readEntries_eq_iff kept.packable some narrow).mpr
        (kept.survives.2.2 suitable), ← full, ← ordered]
      exact kept.restorable.new_eq
    rw [back] at framed
    exact ⟨bytes, written, framed⟩

end CompactSketch

/-! Streams of sketches. -/

def writeSketch (compressed : Bool) (sketch : CompactSketch) : Run (List UInt8) :=
  if compressed then sketch.serializeCompressedStream else return sketch.serializeStream

def writeSketches : List (Bool × CompactSketch) → Run (List UInt8)
  | [] => return []
  | (compressed, sketch) :: rest => do
    let bytes ← writeSketch compressed sketch
    let others ← writeSketches rest
    return bytes ++ others

def readSketches (seed : UInt64) : ℕ → StreamRun (List CompactSketch)
  | 0 => return []
  | count + 1 => do
    let sketch ← CompactSketch.deserializeStream seed
    let rest ← readSketches seed count
    return sketch :: rest

theorem past_past (front bytes tail : List UInt8) (unset : ℕ → UInt8) :
    past (bytes ++ tail) (fun index => unset (index + front.length)) bytes.length =
      past (front ++ (bytes ++ tail)) unset (front ++ bytes).length := by
  have rest : (front ++ (bytes ++ tail)).drop (front ++ bytes).length = (bytes ++ tail).drop bytes.length := by
    rw [← List.append_assoc, List.drop_left, List.drop_left]
  have line : ∀ index, index + bytes.length + front.length = index + (front ++ bytes).length := by
    intro index
    rw [List.length_append]
    omega
  simp only [past, rest, line]

/-- Sketches come back from a stream one by one as they were written to it, and the stream is
left behind the last of them. -/
theorem readSketches_writeSketches (sketches : List (Bool × CompactSketch))
    (kept : ∀ written ∈ sketches, if written.1 then written.2.SurvivesStream
      else written.2.Restorable defaultSeed) (tail : List UInt8) (unset : ℕ → UInt8) :
    ∃ bytes, writeSketches sketches = .ok bytes ∧
      readSketches defaultSeed sketches.length ⟨bytes ++ tail, true, unset⟩ =
        .ok (sketches.map Prod.snd, past (bytes ++ tail) unset bytes.length) := by
  induction sketches generalizing unset with
  | nil => exact ⟨[], rfl, rfl⟩
  | cons written rest ih =>
    obtain ⟨compressed, sketch⟩ := written
    obtain ⟨bytes, ran, framed⟩ : ∃ bytes, writeSketch compressed sketch = .ok bytes ∧
        Framed defaultSeed bytes sketch := by
      have first := kept _ List.mem_cons_self
      cases compressed with
      | false => exact ⟨_, rfl, CompactSketch.serializeStream_framed first⟩
      | true => exact CompactSketch.serializeCompressedStream_framed first
    obtain ⟨others, later, back⟩ := ih (fun written member => kept written (List.mem_cons_of_mem _ member))
      fun index => unset (index + bytes.length)
    refine ⟨bytes ++ others, ?_, ?_⟩
    · rw [writeSketches, ran, Run.ok_bind, later]
      rfl
    · rw [past_past] at back
      rw [List.append_assoc, List.length_cons, readSketches, bind_of_ok (framed _ _), past_append,
        bind_of_ok back]
      rfl

theorem readSketches_pair :
    ∃ bytes, writeSketches [(false, ⟨true, true, 37836, maxTheta, []⟩),
        (true, ⟨false, true, 37836, maxTheta, [1, 2, 3, 4, 5, 6, 7, 8]⟩)] = .ok bytes ∧
      readSketches defaultSeed 2 ⟨bytes ++ [7], true, fun _ => 0⟩ =
        .ok ([⟨true, true, 37836, maxTheta, []⟩,
          ⟨false, true, 37836, maxTheta, [1, 2, 3, 4, 5, 6, 7, 8]⟩],
          past (bytes ++ [7]) (fun _ => 0) bytes.length) := by
  refine readSketches_writeSketches [(false, ⟨true, true, 37836, maxTheta, []⟩),
    (true, ⟨false, true, 37836, maxTheta, [1, 2, 3, 4, 5, 6, 7, 8]⟩)] ?_ [7] fun _ => 0
  intro written member
  simp only [List.mem_cons, List.not_mem_nil, or_false] at member
  rcases member with rfl | rfl
  · exact ⟨⟨by decide, by decide, by decide, by decide +kernel, by decide, by decide⟩, by decide,
      by decide, by decide⟩
  · refine ⟨⟨by decide +kernel, by decide, by decide, by decide, by decide, by decide⟩,
      ⟨by decide, fun _ => rfl, by decide +kernel⟩, fun _ => .inr ⟨?_, ?_, ?_⟩⟩
    all_goals decide +kernel

end ThetaSketch
