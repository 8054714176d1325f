import ThetaSketch.Format.Serializer
import ThetaSketch.Format.Deserializer

/-! Reading back what serial version 3 wrote.

The writer leaves out `theta`, the count and the order flag when they can be
told from the other fields. This is sound for sketches that are `Restorable`.
-/

set_option autoImplicit false

namespace ThetaSketch

open LittleEndian CompactThetaSketchParser

structure CompactSketch.Writable (sketch : CompactSketch) (seed : UInt64) : Prop where
  words : ∀ entry ∈ sketch.entries, entry < 2 ^ 64
  theta : sketch.theta < 2 ^ 64
  hash : sketch.seedHash < 2 ^ 16
  seed : sketch.isEmpty = false → sketch.seedHash = computeSeedHash seed
  count : sketch.entries.length + 3 < 2 ^ 29
  empty : sketch.isEmpty = true → sketch.entries = []

/-- What the writer relies on when it leaves fields out. -/
structure CompactSketch.Restorable (sketch : CompactSketch) (seed : UInt64) : Prop extends
    sketch.Writable seed where
  bound : sketch.theta ≤ maxTheta
  ordered : sketch.entries.length ≤ 1 → sketch.isOrdered = true
  exact : sketch.isEmpty = true → sketch.theta = maxTheta

/-- Of the two readers only one skips zeros. -/
structure CompactSketch.Serializable (sketch : CompactSketch) (seed : UInt64) : Prop extends
    sketch.Restorable seed where
  proper : ∀ entry ∈ sketch.entries, 0 < entry

/-! The preamble. -/

structure Preamble where
  preLongs : ℕ
  version : ℕ
  third : UInt8
  fourth : UInt8
  flags : ℕ
  hash : ℕ

def Preamble.bytes (preamble : Preamble) : List UInt8 :=
  [UInt8.ofNat preamble.preLongs, UInt8.ofNat preamble.version, UInt8.ofNat compactSketchType,
    preamble.third, preamble.fourth, UInt8.ofNat preamble.flags] ++ encode 2 preamble.hash

structure Preamble.Fits (preamble : Preamble) : Prop where
  preLongs : preamble.preLongs < 256
  version : preamble.version < 256
  flags : preamble.flags < 256
  hash : preamble.hash < 2 ^ 16

namespace Preamble

variable {preamble : Preamble} (rest : List UInt8)

@[simp] theorem length_bytes : preamble.bytes.length = 8 := by
  simp [Preamble.bytes]

theorem readByte_eq {index : ℕ} (inside : index < 8) :
    readByte (preamble.bytes ++ rest) index = .ok (preamble.bytes[index]?.getD 0).toNat := by
  have early : index < preamble.bytes.length := by rwa [length_bytes]
  rw [ThetaSketch.readByte_eq (by rw [List.length_append]; omega), List.getElem?_append_left early]

theorem readByte_preLongs (fits : preamble.Fits) :
    readByte (preamble.bytes ++ rest) preLongsByte = .ok preamble.preLongs := by
  rw [readByte_eq _ (by decide)]
  simp [Preamble.bytes, preLongsByte, Nat.mod_eq_of_lt fits.preLongs]

theorem readByte_version (fits : preamble.Fits) :
    readByte (preamble.bytes ++ rest) serialVersionByte = .ok preamble.version := by
  rw [readByte_eq _ (by decide)]
  simp [Preamble.bytes, serialVersionByte, Nat.mod_eq_of_lt fits.version]

theorem readByte_type : readByte (preamble.bytes ++ rest) typeByte = .ok sketchType := by
  rw [readByte_eq _ (by decide)]
  rfl

theorem readByte_flags (fits : preamble.Fits) :
    readByte (preamble.bytes ++ rest) flagsByte = .ok preamble.flags := by
  rw [readByte_eq _ (by decide)]
  simp [Preamble.bytes, flagsByte, Nat.mod_eq_of_lt fits.flags]

theorem readU16_hash (fits : preamble.Fits) :
    readU16 (preamble.bytes ++ rest) seedHashU16 = .ok preamble.hash := by
  rw [Preamble.bytes, List.append_assoc]
  exact readAt_encode _ 2 _ _ rfl fits.hash

end Preamble

theorem checkMemorySize_eq {bytes : List UInt8} {expected : ℕ} {dumpOnError : Bool}
    (enough : expected ≤ bytes.length) : checkMemorySize bytes expected dumpOnError = .ok () := by
  rw [checkMemorySize, if_neg (Nat.not_lt.mpr enough)]
  rfl

theorem parse_preamble {preamble : Preamble} (fits : preamble.Fits) (rest : List UInt8)
    (seed : UInt64) (dumpOnError : Bool) :
    parse (preamble.bytes ++ rest) seed dumpOnError =
      if preamble.version = 4 then parseV4 (preamble.bytes ++ rest) seed dumpOnError
      else if preamble.version = 3 then parseV3 (preamble.bytes ++ rest) seed dumpOnError
      else if preamble.version = 1 then parseV1 (preamble.bytes ++ rest) seed dumpOnError
      else if preamble.version = 2 then parseV2 (preamble.bytes ++ rest) seed dumpOnError
      else throw (.invalidArg ("unsupported serial version " ++ toString preamble.version)) := by
  rw [parse, checkMemorySize_eq (by simp), Run.ok_bind, Preamble.readByte_type, Run.ok_bind,
    checkSketchType, checkValue, if_pos rfl, Run.pure_eq, Run.ok_bind,
    Preamble.readByte_version _ fits, Run.ok_bind]

/-! Version 3, by the length of the preamble. -/

section Version3

variable {preamble : Preamble} {seed : UInt64} {dumpOnError : Bool}

theorem checkSeedHash_eq {hash expected : ℕ} (same : hash = expected) :
    checkSeedHash hash expected = .ok () := by
  rw [checkSeedHash, checkValue, if_pos same]
  rfl

theorem readU32_count {count : ℕ} (small : count < 2 ^ 32) (rest : List UInt8) :
    readU32 (preamble.bytes ++ (encode 4 count ++ rest)) numEntriesU32 = .ok count :=
  readAt_encode _ 4 _ _ (by simp [numEntriesU32]) small

theorem parseV3_single (fits : preamble.Fits) (full : preamble.flags.testBit isEmptyFlag = false)
    (seedHash : preamble.hash = computeSeedHash seed) (one : preamble.preLongs = 1)
    {rest : List UInt8} (enough : 8 ≤ rest.length) :
    parseV3 (preamble.bytes ++ rest) seed dumpOnError =
      .ok ⟨false, true, preamble.hash, 1, maxTheta, some 8, 64⟩ := by
  have sized : checkMemorySize (preamble.bytes ++ rest) 16 dumpOnError = .ok () :=
    checkMemorySize_eq (by rw [List.length_append, Preamble.length_bytes]; omega)
  simp [parseV3, Preamble.readU16_hash _ fits, Preamble.readByte_flags _ fits, full,
    checkSeedHash_eq seedHash, Preamble.readByte_preLongs _ fits, one, sized, singleEntryU64]

theorem parseV3_exact (fits : preamble.Fits) (full : preamble.flags.testBit isEmptyFlag = false)
    (seedHash : preamble.hash = computeSeedHash seed) (two : preamble.preLongs = 2)
    {count : ℕ} {unused entries : List UInt8} (small : count + 3 < 2 ^ 29)
    (four : unused.length = 4) (enough : 8 * count ≤ entries.length) :
    parseV3 (preamble.bytes ++ (encode 4 count ++ (unused ++ entries))) seed dumpOnError =
      .ok ⟨false, preamble.flags.testBit isOrderedFlag, preamble.hash, count, maxTheta, some 16, 64⟩ := by
  have sized : checkMemorySize (preamble.bytes ++ (encode 4 count ++ (unused ++ entries)))
      (wrap32 ((entriesExactU64 + count) * 8)) dumpOnError = .ok () := by
    refine checkMemorySize_eq ?_
    simp only [wrap32, entriesExactU64, List.length_append, Preamble.length_bytes, length_encode, four]
    omega
  simp [parseV3, Preamble.readU16_hash _ fits, Preamble.readByte_flags _ fits, full,
    checkSeedHash_eq seedHash, Preamble.readByte_preLongs _ fits, two,
    readU32_count (show count < 2 ^ 32 by omega), sized, -List.append_assoc]
  rfl

theorem parseV3_estimation (fits : preamble.Fits) (full : preamble.flags.testBit isEmptyFlag = false)
    (seedHash : preamble.hash = computeSeedHash seed) (three : preamble.preLongs = 3)
    {count theta : ℕ} {unused entries : List UInt8} (small : count + 3 < 2 ^ 29)
    (word : theta < 2 ^ 64) (four : unused.length = 4) (enough : 8 * count ≤ entries.length) :
    parseV3 (preamble.bytes ++ (encode 4 count ++ (unused ++ (encode 8 theta ++ entries)))) seed
        dumpOnError =
      .ok ⟨false, preamble.flags.testBit isOrderedFlag, preamble.hash, count, theta, some 24, 64⟩ := by
  have length : (preamble.bytes ++ (encode 4 count ++ (unused ++ (encode 8 theta ++ entries)))).length =
      24 + entries.length := by
    simp only [List.length_append, Preamble.length_bytes, length_encode, four]
    omega
  have thetaSized : checkMemorySize (preamble.bytes ++ (encode 4 count ++ (unused ++ (encode 8 theta ++ entries))))
      ((thetaU64 + 1) * 8) dumpOnError = .ok () :=
    checkMemorySize_eq (by rw [length]; exact Nat.le_add_right _ _)
  have thetaRead : readU64 (preamble.bytes ++ (encode 4 count ++ (unused ++ (encode 8 theta ++ entries))))
      thetaU64 = .ok theta := by
    have read := @readAt_encode (preamble.bytes ++ (encode 4 count ++ unused)) 8 theta entries
      16 (by simp [four]) word
    rwa [List.append_assoc, List.append_assoc] at read
  have sized : checkMemorySize (preamble.bytes ++ (encode 4 count ++ (unused ++ (encode 8 theta ++ entries))))
      (wrap32 ((entriesEstimationU64 + count) * 8)) dumpOnError = .ok () := by
    refine checkMemorySize_eq ?_
    simp only [wrap32, entriesEstimationU64, length]
    omega
  simp [parseV3, Preamble.readU16_hash _ fits, Preamble.readByte_flags _ fits, full,
    checkSeedHash_eq seedHash, Preamble.readByte_preLongs _ fits, three, thetaSized, thetaRead,
    readU32_count (show count < 2 ^ 32 by omega), sized, -List.append_assoc]
  rfl

end Version3

/-! Words. -/

theorem readWords_encode {entries : List ℕ} (front : List UInt8) {start : ℕ}
    (words : ∀ entry ∈ entries, entry < 2 ^ 64) (here : entries ≠ [] → front.length = start) :
    readWords (front ++ entries.flatMap (encode 8)) entries.length start = .ok entries := by
  induction entries generalizing front start with
  | nil => rfl
  | cons entry rest ih =>
    have line := here (List.cons_ne_nil _ _)
    have tail := @ih (front ++ encode 8 entry) (start + 8)
      (fun word member => words word (List.mem_cons_of_mem _ member))
      (fun _ => by rw [List.length_append, length_encode, line])
    rw [List.append_assoc] at tail
    rw [List.flatMap_cons, List.length_cons, readWords,
      readAt_encode front 8 entry _ line (words entry List.mem_cons_self), Run.ok_bind, tail]
    rfl

theorem iterate_words {entries : List ℕ} (front : List UInt8) {start : ℕ}
    (words : ∀ entry ∈ entries, entry < 2 ^ 64) (here : entries ≠ [] → front.length = start)
    (numEntries : ℕ) {it : WrappedIterator} (ptr : it.ptr = start) :
    WrappedIterator.iterate (front ++ entries.flatMap (encode 8)) 64 numEntries entries.length
      (.ok it) = entries.map .ok := by
  induction entries generalizing front start it with
  | nil => rfl
  | cons entry rest ih =>
    have line := here (List.cons_ne_nil _ _)
    have tail := @ih (front ++ encode 8 entry) (start + 8)
      (fun word member => words word (List.mem_cons_of_mem _ member))
      (fun _ => by rw [List.length_append, length_encode, line])
      { it with ptr := it.ptr + 8 } (by rw [ptr])
    rw [List.append_assoc] at tail
    rw [List.flatMap_cons, List.length_cons, WrappedIterator.iterate, WrappedIterator.deref,
      if_pos rfl, ptr, readAt_encode front 8 entry _ line (words entry List.mem_cons_self),
      WrappedIterator.next, if_pos rfl, List.map_cons, ← tail]
    rfl

namespace CompactSketch

variable {sketch : CompactSketch} {seed : UInt64}

def preamble (sketch : CompactSketch) (buffer : ℕ → UInt8) : Preamble where
  preLongs := sketch.preambleLongs
  version := uncompressedSerialVersion
  third := buffer 3
  fourth := buffer 4
  flags := sketch.flagsByte
  hash := sketch.seedHash

theorem flagsByte_spec (sketch : CompactSketch) : sketch.flagsByte < 256 ∧
    sketch.flagsByte.testBit CompactThetaSketchParser.isEmptyFlag = sketch.isEmpty ∧
    sketch.flagsByte.testBit CompactThetaSketchParser.isOrderedFlag = sketch.isOrdered := by
  unfold CompactSketch.flagsByte
  cases sketch.isEmpty <;> cases sketch.isOrdered <;> decide

theorem preamble_fits (fits : sketch.Writable seed) (buffer : ℕ → UInt8) :
    (sketch.preamble buffer).Fits where
  preLongs := by
    change sketch.preambleLongs < 256
    unfold CompactSketch.preambleLongs
    split_ifs <;> decide
  version := show uncompressedSerialVersion < 256 by decide
  flags := sketch.flagsByte_spec.1
  hash := fits.hash

/-- The parser finds in the bytes of a sketch what the sketch holds, and the
entries at the end of them. Only `theta` and the order flag may be lost. -/
theorem parse_image (fits : sketch.Writable seed) (buffer : ℕ → UInt8) (dumpOnError : Bool) :
    ∃ front start, sketch.image buffer = front ++ sketch.entries.flatMap (encode 8) ∧
      (sketch.entries ≠ [] → front.length = start.getD 0) ∧
      parse (sketch.image buffer) seed dumpOnError = .ok {
        isEmpty := sketch.isEmpty
        isOrdered := sketch.isOrdered || sketch.preambleLongs == 1
        seedHash := sketch.seedHash
        numEntries := sketch.entries.length
        theta := if sketch.isEstimationMode then sketch.theta else maxTheta
        entriesStart := start, entryBits := 64 } := by
  obtain ⟨_, emptyFlag, orderedFlag⟩ := sketch.flagsByte_spec
  have preambleFits := preamble_fits fits buffer
  have common : ∀ rest, sketch.image buffer = (sketch.preamble buffer).bytes ++ rest →
      parse (sketch.image buffer) seed dumpOnError =
        parseV3 ((sketch.preamble buffer).bytes ++ rest) seed dumpOnError := by
    intro rest split
    rw [split, parse_preamble preambleFits]
    rfl
  -- The preamble has one, two or three longs: the cases follow `preambleLongs`.
  cases flagged : sketch.isEmpty with
  | true =>
    have none := fits.empty flagged
    have exact : sketch.isEstimationMode = false := by simp [isEstimationMode, flagged]
    have one : sketch.preambleLongs = 1 := by simp [preambleLongs, exact, flagged]
    have split : sketch.image buffer = (sketch.preamble buffer).bytes ++ [] := by
      simp [image, CompactSketch.preamble, Preamble.bytes, one, exact, none]
    refine ⟨_, Option.none, by rw [split, none]; rfl, fun some => absurd none some, ?_⟩
    rw [common [] split, parseV3, Preamble.readU16_hash _ preambleFits, Run.ok_bind,
      Preamble.readByte_flags _ preambleFits, Run.ok_bind]
    change (if sketch.flagsByte.testBit _ = true then _ else _) = _
    rw [emptyFlag, if_pos flagged, none, exact, one]
    cases sketch.isOrdered <;> rfl
  | false =>
    have seedHash : (sketch.preamble buffer).hash = computeSeedHash seed := fits.seed flagged
    have full : (sketch.preamble buffer).flags.testBit CompactThetaSketchParser.isEmptyFlag = false :=
      emptyFlag.trans flagged
    have ordered : (sketch.preamble buffer).flags.testBit CompactThetaSketchParser.isOrderedFlag =
        sketch.isOrdered := orderedFlag
    have words : (sketch.entries.flatMap (encode 8)).length = 8 * sketch.entries.length := by
      simp [List.length_flatMap, Nat.mul_comm]
    cases estimation : sketch.isEstimationMode with
    | true =>
      have three : sketch.preambleLongs = 3 := by simp [preambleLongs, estimation]
      have split : sketch.image buffer = (sketch.preamble buffer).bytes ++
          (encode 4 sketch.entries.length ++ ([buffer 12, buffer 13, buffer 14, buffer 15] ++
            (encode 8 sketch.theta ++ sketch.entries.flatMap (encode 8)))) := by
        simp [image, CompactSketch.preamble, Preamble.bytes, three, estimation]
      refine ⟨(sketch.preamble buffer).bytes ++ (encode 4 sketch.entries.length ++
        ([buffer 12, buffer 13, buffer 14, buffer 15] ++ encode 8 sketch.theta)), some 24,
        by rw [split]; simp, fun _ => by simp, ?_⟩
      rw [common _ split, parseV3_estimation preambleFits full seedHash three fits.count
        fits.theta rfl words.ge, ordered, three]
      cases sketch.isOrdered <;> rfl
    | false =>
      by_cases one : sketch.entries.length = 1
      · have single : sketch.preambleLongs = 1 := by simp [preambleLongs, estimation, one]
        have split : sketch.image buffer = (sketch.preamble buffer).bytes ++
            sketch.entries.flatMap (encode 8) := by
          simp [image, CompactSketch.preamble, Preamble.bytes, single, estimation]
        refine ⟨(sketch.preamble buffer).bytes, some 8, split, fun _ => by simp, ?_⟩
        rw [common _ split, parseV3_single preambleFits full seedHash single (by omega), one, single]
        cases sketch.isOrdered <;> rfl
      · have two : sketch.preambleLongs = 2 := by simp [preambleLongs, estimation, flagged, one]
        have split : sketch.image buffer = (sketch.preamble buffer).bytes ++
            (encode 4 sketch.entries.length ++ ([buffer 12, buffer 13, buffer 14, buffer 15] ++
              sketch.entries.flatMap (encode 8))) := by
          simp [image, CompactSketch.preamble, Preamble.bytes, two, estimation]
        refine ⟨(sketch.preamble buffer).bytes ++ (encode 4 sketch.entries.length ++
          [buffer 12, buffer 13, buffer 14, buffer 15]), some 16, by rw [split]; simp,
          fun _ => by simp, ?_⟩
        rw [common _ split, parseV3_exact preambleFits full seedHash two fits.count rfl words.ge,
          ordered, two]
        cases sketch.isOrdered <;> rfl

/-- Only an empty sketch and an exact one of a single entry have the short preamble. -/
theorem length_le_of_preambleLongs (fits : sketch.Writable seed) (one : sketch.preambleLongs = 1) :
    sketch.entries.length ≤ 1 := by
  cases flagged : sketch.isEmpty with
  | true =>
    rw [fits.empty flagged]
    exact Nat.zero_le _
  | false =>
    by_contra many
    have several : (sketch.entries.length == 1) = false := by
      simpa using (Nat.lt_of_not_le many).ne'
    unfold CompactSketch.preambleLongs at one
    rw [flagged, several] at one
    cases estimation : sketch.isEstimationMode <;> simp [estimation] at one

theorem Restorable.theta_eq (fits : sketch.Restorable seed) :
    (if sketch.isEstimationMode then sketch.theta else maxTheta) = sketch.theta := by
  split_ifs with estimation
  · rfl
  · refine le_antisymm ?_ fits.bound
    by_contra below
    cases flagged : sketch.isEmpty with
    | true => exact below (fits.exact flagged).ge
    | false => exact estimation (by simpa [isEstimationMode, flagged] using below)

theorem Restorable.ordered_eq (fits : sketch.Restorable seed) :
    (sketch.isOrdered || sketch.preambleLongs == 1) = sketch.isOrdered := by
  cases flagged : sketch.isOrdered with
  | true => rfl
  | false =>
    have other : sketch.preambleLongs ≠ 1 := fun one => by
      rw [fits.ordered (length_le_of_preambleLongs fits.toWritable one)] at flagged
      cases flagged
    simpa using other

theorem deserialize_image (fits : sketch.Writable seed) (buffer : ℕ → UInt8) :
    deserialize (sketch.image buffer) seed = .ok { sketch with
      isOrdered := sketch.isOrdered || decide (sketch.entries.length ≤ 1)
      theta := if sketch.isEstimationMode then sketch.theta else maxTheta } := by
  obtain ⟨front, start, split, here, parsed⟩ := parse_image fits buffer false
  have ordered : (sketch.isOrdered || sketch.preambleLongs == 1 || decide (sketch.entries.length ≤ 1)) =
      (sketch.isOrdered || decide (sketch.entries.length ≤ 1)) := by
    by_cases one : sketch.preambleLongs = 1
    · have few := length_le_of_preambleLongs fits one
      simp [few]
    · have other : (sketch.preambleLongs == 1) = false := by simpa using one
      rw [other, Bool.or_false]
  rw [deserialize, parsed, Run.ok_bind, split, if_pos rfl, readWords_encode front fits.words here]
  simp only [Run.ok_bind, Run.pure_eq, CompactSketch.new, ordered]

/-- The constructor changes nothing about a sketch whose order flag is right. -/
theorem Restorable.new_eq (fits : sketch.Restorable seed) :
    CompactSketch.new sketch.isEmpty sketch.isOrdered sketch.seedHash sketch.theta sketch.entries =
      sketch := by
  have ordered : (sketch.isOrdered || decide (sketch.entries.length ≤ 1)) = sketch.isOrdered := by
    cases flagged : sketch.isOrdered with
    | true => rfl
    | false =>
      have many : ¬ sketch.entries.length ≤ 1 := fun few => by
        rw [fits.ordered few] at flagged
        cases flagged
      simpa using many
  rw [CompactSketch.new, ordered]

theorem Restorable.deserialize_eq (fits : sketch.Restorable seed) (buffer : ℕ → UInt8) :
    deserialize (sketch.image buffer) seed = .ok sketch := by
  rw [deserialize_image fits.toWritable, fits.theta_eq]
  exact congrArg Except.ok fits.new_eq

/-- Wrapping the bytes of a sketch shows the sketch. -/
theorem Serializable.wrap_eq (fits : sketch.Serializable seed) (buffer : ℕ → UInt8)
    (dumpOnError : Bool) : wrap (sketch.image buffer) seed dumpOnError = .ok sketch.view := by
  obtain ⟨front, start, split, here, parsed⟩ := parse_image fits.toWritable buffer dumpOnError
  have reads := @iterate_words _ front _ fits.words here sketch.entries.length
    ⟨start.getD 0, 0, 0, decide (8 ≤ sketch.entries.length), 0, 0, List.replicate 8 0⟩ rfl
  rw [wrap, parsed, Run.ok_bind, split, fits.theta_eq, fits.ordered_eq]
  simp only [CompactThetaSketchData.view, WrappedIterator.begin, if_pos, Run.pure_eq, reads]
  rw [← sketch.view_entries fits.proper]
  rfl

end CompactSketch

/-! Sound sketches. -/

theorem CompactSketch.Sound.serializable {sketch : CompactSketch} (sound : sketch.Sound)
    (few : sketch.entries.length + 3 < 2 ^ 29) : sketch.Serializable defaultSeed where
  words := fun entry member =>
    ((sound.range entry member).2.trans_le sound.bound).trans (by decide)
  theta := sound.bound.trans_lt (by decide)
  hash := sound.seed ▸ computeSeedHash_lt _
  seed := fun _ => sound.seed
  count := few
  empty := fun flagged => (sound.empty flagged).1
  bound := sound.bound
  ordered := fun _ => sound.ordered
  exact := fun flagged => (sound.empty flagged).2
  proper := fun entry member => (sound.range entry member).1

/-- The bytes decode to the sketch, in both readers. -/
structure Decodes (bytes : List UInt8) (sketch : CompactSketch) : Prop where
  deserialize : CompactSketch.deserialize bytes defaultSeed = .ok sketch
  wrap : wrap bytes defaultSeed false = .ok sketch.view

theorem CompactSketch.Serializable.decodes {sketch : CompactSketch}
    (fits : sketch.Serializable defaultSeed) (malloc : ℕ → UInt8) :
    Decodes (sketch.serialize2 malloc) sketch :=
  ⟨fits.deserialize_eq malloc, fits.wrap_eq malloc false⟩

end ThetaSketch
