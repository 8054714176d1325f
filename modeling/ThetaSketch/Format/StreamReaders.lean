import ThetaSketch.Format.Readers
import ThetaSketch.Format.StreamDeserializer

/-! The readers of memory and of streams.

A failed read of a stream is found out late. So that it matters, no code between it
and the next `is.good()` may return; what is said here of reads is said for such code.
-/

set_option autoImplicit false

namespace ThetaSketch

open LittleEndian BitStream CompactThetaSketchParser

namespace StreamRun

section Bind

variable {A B : Type}

theorem bind_eq_ok {run : StreamRun A} {next : A → StreamRun B} {stream : InputStream}
    {result : B × InputStream} : (run >>= next) stream = .ok result ↔
      ∃ value middle, run stream = .ok (value, middle) ∧ next value middle = .ok result := by
  change (run stream >>= fun pair => next pair.1 pair.2) = _ ↔ _
  cases run stream with
  | error exit => simp [bind, Except.bind]
  | ok pair =>
    obtain ⟨value, middle⟩ := pair
    simp [bind, Except.bind]

theorem bind_of_ok {run : StreamRun A} {next : A → StreamRun B} {stream middle : InputStream}
    {value : A} (ran : run stream = .ok (value, middle)) :
    (run >>= next) stream = next value middle := by
  change (run stream >>= fun pair => next pair.1 pair.2) = _
  rw [ran]
  rfl

/-- Code that returns from a failed stream leaves it failed. -/
class KeepsFailure (run : StreamRun A) : Prop where
  keeps : ∀ stream value after, stream.good = false → run stream = .ok (value, after) →
    after.good = false

/-- Code that never returns from a failed stream. -/
class Strict (run : StreamRun A) : Prop where
  stops : ∀ stream result, stream.good = false → run stream ≠ .ok result

instance KeepsFailure.bind {run : StreamRun A} {next : A → StreamRun B} [first : KeepsFailure run]
    [later : ∀ value, KeepsFailure (next value)] : KeepsFailure (run >>= next) where
  keeps := by
    intro stream value after failed ran
    obtain ⟨middle, between, here, there⟩ := bind_eq_ok.mp ran
    exact (later _).keeps _ _ _ (first.keeps _ _ _ failed here) there

instance Strict.after {run : StreamRun A} {next : A → StreamRun B} [first : KeepsFailure run]
    [later : ∀ value, Strict (next value)] : Strict (run >>= next) where
  stops := by
    intro stream result failed ran
    obtain ⟨value, middle, here, there⟩ := bind_eq_ok.mp ran
    exact (later _).stops _ _ (first.keeps _ _ _ failed here) there

instance Strict.bind {run : StreamRun A} {next : A → StreamRun B} [first : Strict run] :
    Strict (run >>= next) where
  stops := by
    intro stream result failed ran
    obtain ⟨value, middle, here, _⟩ := bind_eq_ok.mp ran
    exact first.stops _ _ failed here

instance (value : A) : KeepsFailure (pure value : StreamRun A) where
  keeps := by
    intro stream other after failed ran
    cases ran
    exact failed

instance (run : Run A) : KeepsFailure (lift run) where
  keeps := by
    intro stream value after failed ran
    unfold lift at ran
    cases run with
    | error exit => cases ran
    | ok known =>
      cases ran
      exact failed

instance (exit : StreamExit) : KeepsFailure (fail exit : StreamRun A) where
  keeps := by rintro stream value after _ ⟨⟩

instance {chosen : Prop} [Decidable chosen] (first second : StreamRun A) [KeepsFailure first]
    [KeepsFailure second] : KeepsFailure (if chosen then first else second) := by
  split_ifs <;> infer_instance

end Bind

/-! The parts of the reader on a failed stream. -/

instance (old : List UInt8) : KeepsFailure (fill old) where
  keeps := by
    intro stream value after failed ran
    unfold fill at ran
    rw [failed] at ran
    cases ran
    rfl

theorem readInt_eq (width : ℕ) (stream : InputStream) : readInt width stream =
    (fill ((List.range width).map stream.unset) >>= fun bytes => pure (decode bytes)) stream := rfl

instance (width : ℕ) : KeepsFailure (readInt width) where
  keeps := by
    intro stream value after failed ran
    rw [readInt_eq] at ran
    exact KeepsFailure.keeps _ _ _ failed ran

instance (buffer : List UInt8) (size : ℕ) : KeepsFailure (readBuffer buffer size) := by
  unfold readBuffer
  infer_instance

instance (count : ℕ) : KeepsFailure (newVector count) := by
  unfold newVector
  infer_instance

instance (count : ℕ) : KeepsFailure (fillWords count) := by
  induction count with
  | zero => exact inferInstanceAs (KeepsFailure (pure []))
  | succ count ih =>
    unfold fillWords
    infer_instance

instance : Strict checkGood where
  stops := by
    intro stream result failed ran
    have ended : checkGood stream = .error (.runtimeErr "error reading from std::istream") := by
      change (if stream.good = true then _ else _ : StreamRun Unit) stream = _
      rw [failed]
      rfl
    rw [ended] at ran
    cases ran

instance : KeepsFailure checkGood where
  keeps := fun _ _ _ failed ran => absurd ran (Strict.stops _ _ failed)

instance (entryBits blocks : ℕ) (buffer : List UInt8) :
    KeepsFailure (unpackBlocks entryBits blocks buffer) := by
  induction blocks generalizing buffer with
  | zero => exact inferInstanceAs (KeepsFailure (pure ([], buffer)))
  | succ blocks ih =>
    unfold unpackBlocks
    infer_instance

instance (width count : ℕ) (buffer : List UInt8) :
    KeepsFailure (CompactSketch.readTail width count buffer) := by
  unfold CompactSketch.readTail
  infer_instance

instance (isEmpty : Bool) (count : ℕ) : KeepsFailure (CompactSketch.readEntriesStream isEmpty count) := by
  unfold CompactSketch.readEntriesStream
  infer_instance

/-! The parts of the reader on a good stream. -/

def past (bytes : List UInt8) (unset : ℕ → UInt8) (position : ℕ) : InputStream :=
  ⟨bytes.drop position, true, fun index => unset (index + position)⟩

theorem past_append (bytes tail : List UInt8) (unset : ℕ → UInt8) :
    past (bytes ++ tail) unset bytes.length =
      ⟨tail, true, fun index => unset (index + bytes.length)⟩ := by
  rw [past, List.drop_left]

section Past

variable {A : Type} {bytes : List UInt8} {unset : ℕ → UInt8} {position : ℕ}
  {result : A × InputStream}

theorem fill_past {old : List UInt8} (inside : position + old.length ≤ bytes.length) :
    fill old (past bytes unset position) =
      .ok ((bytes.drop position).take old.length, past bytes unset (position + old.length)) := by
  have room : old.length ≤ (bytes.drop position).length := by
    rw [List.length_drop]
    omega
  have line : ∀ index, index + old.length + position = index + (position + old.length) :=
    fun index => by omega
  simp only [fill, past, if_true, List.drop_eq_nil_of_le room, List.append_nil, List.drop_drop, room,
    decide_true, line]

theorem fill_short {old : List UInt8} (some : 0 < old.length)
    (short : bytes.length < position + old.length) :
    ∃ value after, fill old (past bytes unset position) = .ok (value, after) ∧ after.good = false := by
  refine ⟨_, _, rfl, decide_eq_false ?_⟩
  change ¬ old.length ≤ (bytes.drop position).length
  rw [List.length_drop]
  omega

theorem fill_bind_iff {old : List UInt8} {next : List UInt8 → StreamRun A} (some : 0 < old.length)
    [strict : ∀ value, Strict (next value)] :
    (fill old >>= next) (past bytes unset position) = .ok result ↔
      position + old.length ≤ bytes.length ∧ next ((bytes.drop position).take old.length)
        (past bytes unset (position + old.length)) = .ok result := by
  by_cases inside : position + old.length ≤ bytes.length
  · rw [bind_of_ok (fill_past inside), and_iff_right inside]
  · obtain ⟨value, after, ran, failed⟩ := @fill_short bytes unset position old some (by omega)
    rw [bind_of_ok ran]
    exact ⟨fun returned => absurd returned ((strict _).stops _ _ failed), fun known => absurd known.1 inside⟩

theorem readInt_past {width : ℕ} (inside : position + width ≤ bytes.length) :
    readInt width (past bytes unset position) =
      .ok (word bytes position width, past bytes unset (position + width)) := by
  have length : ((List.range width).map (past bytes unset position).unset).length = width := by simp
  have filled := @fill_past bytes unset position _ (length.symm ▸ inside)
  rw [length] at filled
  rw [readInt_eq, bind_of_ok filled]
  rfl

theorem readInt_bind_iff {width : ℕ} {next : ℕ → StreamRun A} (some : 0 < width)
    [∀ value, Strict (next value)] :
    (readInt width >>= next) (past bytes unset position) = .ok result ↔
      position + width ≤ bytes.length ∧
        next (word bytes position width) (past bytes unset (position + width)) = .ok result := by
  have length : ((List.range width).map (past bytes unset position).unset).length = width := by simp
  have filled := @fill_bind_iff A bytes unset position result _
    (fun bytes => next (decode bytes)) (length.symm ▸ some) _
  rw [length] at filled
  exact filled

theorem readBuffer_bind_iff {buffer : List UInt8} {size : ℕ} {next : List UInt8 → StreamRun A}
    (some : 0 < size) (fits : size ≤ buffer.length) [∀ value, Strict (next value)] :
    (readBuffer buffer size >>= next) (past bytes unset position) = .ok result ↔
      position + size ≤ bytes.length ∧ next ((bytes.drop position).take size ++ buffer.drop size)
        (past bytes unset (position + size)) = .ok result := by
  have length : (buffer.take size).length = size := by
    rw [List.length_take, min_eq_left fits]
  have filled := @fill_bind_iff A bytes unset position result (buffer.take size)
    (fun bytes => next (bytes ++ buffer.drop size)) (length.symm ▸ some) _
  rw [length] at filled
  rw [readBuffer, if_neg (Nat.not_lt.mpr fits), bind_assoc]
  exact filled

theorem checkGood_bind (next : Unit → StreamRun A) :
    (checkGood >>= next) (past bytes unset position) = next () (past bytes unset position) := rfl

theorem lift_bind_eq_ok {B : Type} {run : Run B} {next : B → StreamRun A} {stream : InputStream} :
    (lift run >>= next) stream = .ok result ↔ ∃ value, run = .ok value ∧ next value stream = .ok result := by
  cases run with
  | error exit =>
    constructor
    · rintro ⟨⟩
    · rintro ⟨value, ⟨⟩, _⟩
  | ok value => exact ⟨fun ran => ⟨value, rfl, ran⟩, fun ⟨_, same, ran⟩ => by cases same; exact ran⟩

theorem newVector_bind_eq_ok {count : ℕ} {next : Unit → StreamRun A} {stream : InputStream} :
    (newVector count >>= next) stream = .ok result ↔ count < 2 ^ 29 ∧ next () stream = .ok result := by
  rw [newVector, lift_bind_eq_ok]
  constructor
  · rintro ⟨_, made, ran⟩
    exact ⟨Run.newVector_eq_ok.mp made, ran⟩
  · rintro ⟨fits, ran⟩
    exact ⟨(), Run.newVector_eq fits, ran⟩

end Past

theorem fillWords_bind_iff {A : Type} {bytes : List UInt8} {unset : ℕ → UInt8}
    {result : A × InputStream} (count : ℕ) {position : ℕ} {next : List ℕ → StreamRun A}
    [∀ value, Strict (next value)] :
    (fillWords count >>= next) (past bytes unset position) = .ok result ↔
      (0 < count → position + 8 * count ≤ bytes.length) ∧
        next (storedWords bytes count position) (past bytes unset (position + 8 * count)) =
          .ok result := by
  induction count generalizing position next with
  | zero => exact ⟨fun ran => ⟨fun none => absurd none (lt_irrefl 0), ran⟩, And.right⟩
  | succ count ih =>
    have place : position + 8 + 8 * count = position + 8 * (count + 1) := by omega
    rw [fillWords, bind_assoc]
    simp only [bind_assoc, pure_bind]
    rw [fill_bind_iff (by simp), List.length_replicate, ih, place]
    have line : (decode ((bytes.drop position).take 8) :: storedWords bytes count (position + 8)) =
        storedWords bytes (count + 1) position := rfl
    rw [line, ← and_assoc]
    refine and_congr_left fun _ => ?_
    omega

/-! Packed entries. -/

/-- What is in the buffer after some blocks. -/
def lastBlock (bytes : List UInt8) (entryBits : ℕ) : ℕ → ℕ → List UInt8 → List UInt8
  | 0, _, buffer => buffer
  | blocks + 1, position, _ =>
    lastBlock bytes entryBits blocks (position + entryBits) ((bytes.drop position).take entryBits)

theorem length_lastBlock {bytes : List UInt8} {width : ℕ} (blocks : ℕ) {position : ℕ}
    {buffer : List UInt8} (size : buffer.length = width)
    (inside : position + blocks * width ≤ bytes.length) :
    (lastBlock bytes width blocks position buffer).length = width := by
  induction blocks generalizing position buffer with
  | zero => exact size
  | succ blocks ih =>
    have expand : (blocks + 1) * width = width + blocks * width := by ring
    refine ih ?_ (by omega)
    rw [List.length_take, List.length_drop]
    omega

theorem blockFields_slice (bytes : List UInt8) (position width : ℕ) :
    blockFields ((bytes.drop position).take width) 0 width = blockFields bytes position width := by
  unfold blockFields
  refine List.map_congr_left fun index member => ?_
  have low : index < 8 := List.mem_range.mp member
  have lanes : index * width + width ≤ 8 * width := by
    rw [← Nat.succ_mul]
    exact Nat.mul_le_mul_right width low
  have same : value ((bytes.drop position).take width) (8 * 0 + index * width) width =
      value bytes (8 * position + index * width) width := by
    refine value_congr fun step small => ?_
    rw [bit_slice bytes position (by omega)]
    congr 1
    omega
  rw [same]

theorem fields_slice (bytes rest : List UInt8) {position size width count : ℕ}
    (inside : position + size ≤ bytes.length) (enough : count * width ≤ 8 * size) :
    fields ((bytes.drop position).take size ++ rest) width 0 count =
      fields bytes width (8 * position) count := by
  have length : ((bytes.drop position).take size).length = size := by
    rw [List.length_take, List.length_drop]
    omega
  unfold fields
  refine List.map_congr_left fun index member => value_congr fun step small => ?_
  have low : (index + 1) * width ≤ count * width :=
    Nat.mul_le_mul_right width (List.mem_range.mp member)
  rw [Nat.succ_mul] at low
  rw [bit_append_left _ (by rw [length]; omega), bit_slice bytes position (by omega)]
  congr 1
  omega

section Packed

variable {A : Type} {bytes : List UInt8} {unset : ℕ → UInt8} {result : A × InputStream} {width : ℕ}

theorem unpackBlocks_bind_iff (positive : 0 < width) (narrow : width < 64) (blocks : ℕ)
    {position : ℕ} {buffer : List UInt8} {next : List ℕ × List UInt8 → StreamRun A}
    (size : buffer.length = width) (here : position ≤ bytes.length)
    [∀ value, Strict (next value)] :
    (unpackBlocks width blocks buffer >>= next) (past bytes unset position) = .ok result ↔
      position + blocks * width ≤ bytes.length ∧
        next (blocksFields bytes width blocks position, lastBlock bytes width blocks position buffer)
          (past bytes unset (position + blocks * width)) = .ok result := by
  induction blocks generalizing position buffer next with
  | zero =>
    rw [Nat.zero_mul, Nat.add_zero, and_iff_right here]
    rfl
  | succ blocks ih =>
    have place : position + width + blocks * width = position + (blocks + 1) * width := by ring
    rw [unpackBlocks]
    simp only [bind_assoc, pure_bind]
    rw [readBuffer_bind_iff (size.symm ▸ positive) le_rfl, size, List.drop_of_length_le size.le,
      List.append_nil]
    by_cases inside : position + width ≤ bytes.length
    · have length : ((bytes.drop position).take width).length = width := by
        rw [List.length_take, List.length_drop]
        omega
      have block := @unpackBitsBlock8_spec ((bytes.drop position).take width) 0 width
        (List.replicate 8 0) positive narrow (by omega) (by rfl) (zeros_small 8)
      change _ = Except.ok (blockFields ((bytes.drop position).take width) 0 width) at block
      rw [blockFields_slice] at block
      have more := @ih (position + width) _
        (fun found => next (blockFields bytes position width ++ found.1, found.2)) length inside _
      rw [and_iff_right inside, lift_bind_eq_ok, block, ← place]
      constructor
      · rintro ⟨_, ⟨⟩, ran⟩
        exact more.mp ran
      · intro ran
        exact ⟨_, rfl, more.mpr ran⟩
    · refine ⟨fun known => absurd known.1 inside, fun known => ?_⟩
      rw [← place] at known
      omega

theorem readTail_bind_iff (positive : 0 < width) {count position : ℕ} (few : count < 8)
    {buffer : List UInt8} {next : List UInt8 → StreamRun A} (length : buffer.length = width)
    (here : position ≤ bytes.length) [∀ value, Strict (next value)] :
    (CompactSketch.readTail width count buffer >>= next) (past bytes unset position) = .ok result ↔
      position + wholeBytesToHoldBits (count * width) ≤ bytes.length ∧
        next ((bytes.drop position).take (wholeBytesToHoldBits (count * width)) ++
          buffer.drop (wholeBytesToHoldBits (count * width)))
          (past bytes unset (position + wholeBytesToHoldBits (count * width))) = .ok result := by
  have size := wholeBytesToHoldBits_spec (count * width)
  unfold CompactSketch.readTail
  split_ifs with some
  · have lanes : count * width ≤ 7 * width := Nat.mul_le_mul_right width (by omega)
    have low : 1 * width ≤ count * width := Nat.mul_le_mul_right width some
    rw [readBuffer_bind_iff (by omega) (by omega)]
  · have none : count = 0 := by omega
    have zero : wholeBytesToHoldBits (count * width) = 0 := by
      rw [none, Nat.zero_mul]
      rfl
    rw [zero, Nat.add_zero, and_iff_right here, List.take_zero, List.nil_append, List.drop_zero,
      pure_bind]

/-- Packed entries are found in the stream when all their bytes are there. -/
theorem readPackedEntries_bind_iff (positive : 0 < width) (narrow : width < 64) (count : ℕ)
    {position : ℕ} (here : position ≤ bytes.length) {next : List ℕ → StreamRun A} :
    (CompactSketch.readPackedEntries width count >>= next) (past bytes unset position) = .ok result ↔
      position + wholeBytesToHoldBits (width * count) ≤ bytes.length ∧
        next (undoDeltas 0 (copiedFields bytes position width count))
          (past bytes unset (position + wholeBytesToHoldBits (width * count))) = .ok result := by
  have split := bits_split width count
  have whole := wholeBytesToHoldBits_spec (width * count)
  have tail := wholeBytesToHoldBits_spec (count % 8 * width)
  have size : count / 8 * width + wholeBytesToHoldBits (count % 8 * width) =
      wholeBytesToHoldBits (width * count) := by omega
  unfold CompactSketch.readPackedEntries
  simp only [bind_assoc, pure_bind]
  rw [unpackBlocks_bind_iff positive narrow _ (by simp) here]
  by_cases inside : position + count / 8 * width ≤ bytes.length
  · obtain ⟨buffer, isBuffer⟩ : ∃ buffer, buffer = lastBlock bytes width (count / 8) position
        (List.replicate width 0) := ⟨_, rfl⟩
    have length : buffer.length = width := isBuffer ▸ length_lastBlock _ (by simp) inside
    rw [and_iff_right inside, ← isBuffer, readTail_bind_iff positive (Nat.mod_lt _ (by decide)) length
      inside, Nat.add_assoc, size]
    refine and_congr_right fun all => ?_
    have rest : unpackRest ((bytes.drop (position + count / 8 * width)).take
        (wholeBytesToHoldBits (count % 8 * width)) ++ buffer.drop
          (wholeBytesToHoldBits (count % 8 * width))) width (count % 8) 0 0 =
        .ok (fields bytes width (8 * (position + count / 8 * width)) (count % 8)) := by
      rw [unpackRest_fields positive narrow.le _ ?_, Nat.mul_zero, fields_slice _ _ (by omega) (by omega)]
      rw [List.length_append, List.length_take, List.length_drop, List.length_drop]
      omega
    rw [checkGood_bind, rest, lift_bind_eq_ok]
    exact ⟨fun ⟨_, same, ran⟩ => by cases same; exact ran, fun ran => ⟨_, rfl, ran⟩⟩
  · exact ⟨fun known => absurd known.1 inside, fun known => absurd known.1 (by omega)⟩

end Packed

/-! The two readers, version by version. -/

section Versions

variable {bytes : List UInt8} {seed : UInt64} {unset : ℕ → UInt8} {sketch : CompactSketch}

/-! Reading into memory, as far as both readers share it. -/

theorem readWords_eq_ok (count : ℕ) {start : ℕ} {entries : List ℕ} :
    readWords bytes count start = .ok entries ↔
      (0 < count → start + 8 * count ≤ bytes.length) ∧ storedWords bytes count start = entries := by
  induction count generalizing start entries with
  | zero => simp [readWords, storedWords]
  | succ count ih =>
    simp only [readWords, Run.bind_eq_ok, readAt_eq_ok_iff, ih, Run.pure_eq, Except.ok.injEq]
    constructor
    · rintro ⟨_, ⟨here, rfl⟩, _, ⟨there, rfl⟩, rfl⟩
      exact ⟨fun _ => by omega, rfl⟩
    · rintro ⟨inside, rfl⟩
      have all := inside (Nat.succ_pos count)
      exact ⟨_, ⟨by omega, rfl⟩, _, ⟨fun _ => by omega, rfl⟩, rfl⟩

theorem copyEntries_eq_ok {start width count : ℕ} {entries : List ℕ} (positive : 0 < width)
    (narrow : width < 64) (here : start ≤ bytes.length) :
    copyEntries bytes start width count = .ok entries ↔
      count < 2 ^ 29 ∧ start + wholeBytesToHoldBits (width * count) ≤ bytes.length ∧
        undoDeltas 0 (copiedFields bytes start width count) = entries := by
  have split := bits_split width count
  have whole := wholeBytesToHoldBits_spec (width * count)
  constructor
  · intro ran
    have fits : count < 2 ^ 29 := by
      rw [copyEntries, if_neg narrow.ne] at ran
      obtain ⟨_, made, _⟩ := Run.bind_eq_ok.mp ran
      exact Run.newVector_eq_ok.mp made
    have settled := copyEntries_settled (.inr here) (by omega) (.inr fits) (ran ▸ defined_ok entries)
    rw [storedEntries, if_neg narrow.ne, if_neg narrow.ne] at settled
    exact ⟨fits, settled.1, Except.ok.inj (settled.2.symm.trans ran)⟩
  · rintro ⟨fits, inside, rfl⟩
    rw [copyEntries, if_neg narrow.ne, Run.newVector_eq fits, Run.ok_bind,
      unpackBlocks_fields positive narrow _ (by omega), Run.ok_bind]
    dsimp only
    rw [unpackRest_fields positive narrow.le _ (by omega)]
    rfl

def copied (bytes : List UInt8) (data : CompactThetaSketchData) : Run CompactSketch := do
  let entries ← copyEntries bytes (data.entriesStart.getD 0) data.entryBits data.numEntries
  return CompactSketch.new data.isEmpty data.isOrdered data.seedHash data.theta entries

theorem deserialize_eq_bind : CompactSketch.deserialize bytes seed =
    parse bytes seed false >>= copied bytes := by
  cases parsed : parse bytes seed false with
  | error exit =>
    rw [CompactSketch.deserialize, parsed]
    rfl
  | ok data => rw [deserialize_eq parsed, Run.ok_bind, copied]

theorem copied_words {isEmpty isOrdered : Bool} {hash count theta start : ℕ} :
    copied bytes ⟨isEmpty, isOrdered, hash, count, theta, some start, 64⟩ = .ok sketch ↔
      (0 < count → start + 8 * count ≤ bytes.length) ∧
        CompactSketch.new isEmpty isOrdered hash theta (storedWords bytes count start) = sketch := by
  simp only [copied, copyEntries, if_true, Option.getD_some, Run.bind_eq_ok, readWords_eq_ok,
    Run.pure_eq, Except.ok.injEq]
  constructor
  · rintro ⟨_, ⟨inside, rfl⟩, made⟩
    exact ⟨inside, made⟩
  · rintro ⟨inside, made⟩
    exact ⟨_, ⟨inside, rfl⟩, made⟩

/-! Words in a stream. -/

theorem readEntriesStream_bind_iff {A : Type} {result : A × InputStream} {isEmpty : Bool} {count position : ℕ}
    {next : List ℕ → StreamRun A} [∀ value, Strict (next value)] :
    (CompactSketch.readEntriesStream isEmpty count >>= next) (past bytes unset position) = .ok result ↔
      if isEmpty then next [] (past bytes unset position) = .ok result
      else (0 < count → position + 8 * count ≤ bytes.length) ∧
        next (storedWords bytes count position) (past bytes unset (position + 8 * count)) =
          .ok result := by
  unfold CompactSketch.readEntriesStream
  split_ifs
  · rw [pure_bind]
  · exact fillWords_bind_iff count

theorem words_end_iff {isEmpty isOrdered : Bool} {hash count theta position : ℕ}
    {after : InputStream} : (do
      newVector count
      let entries ← CompactSketch.readEntriesStream isEmpty count
      checkGood
      return CompactSketch.new isEmpty isOrdered hash theta entries : StreamRun CompactSketch)
        (past bytes unset position) = .ok (sketch, after) ↔
      count < 2 ^ 29 ∧ if isEmpty then
        sketch = CompactSketch.new true isOrdered hash theta [] ∧ after = past bytes unset position
      else (0 < count → position + 8 * count ≤ bytes.length) ∧
        sketch = CompactSketch.new false isOrdered hash theta (storedWords bytes count position) ∧
        after = past bytes unset (position + 8 * count) := by
  rw [newVector_bind_eq_ok, readEntriesStream_bind_iff]
  have returned : ∀ made stream, (pure made : StreamRun CompactSketch) stream = .ok (sketch, after) ↔
      sketch = made ∧ after = stream := fun made stream => by
    change Except.ok (made, stream) = _ ↔ _
    rw [Except.ok.injEq, Prod.mk.injEq, eq_comm, @eq_comm _ stream]
  cases isEmpty <;> simp [checkGood_bind, returned]

theorem readAt_bind_eq_ok {A : Type} {offset width : ℕ} {next : ℕ → Run A} {result : A} :
    (readAt bytes offset width >>= next) = .ok result ↔
      offset + width ≤ bytes.length ∧ next (word bytes offset width) = .ok result := by
  simp only [Run.bind_eq_ok, readAt_eq_ok_iff]
  exact ⟨fun ⟨_, ⟨inside, same⟩, ran⟩ => ⟨inside, same ▸ ran⟩,
    fun ⟨inside, ran⟩ => ⟨_, ⟨inside, rfl⟩, ran⟩⟩

theorem parseEstimation_end_iff {hash count theta : ℕ} :
    (parseEstimation bytes hash count theta false >>= copied bytes) = .ok sketch ↔
      if count = 0 ∧ theta = maxTheta then sketch = CompactSketch.new true true hash theta []
      else wrap32 ((entriesEstimationU64 + count) * 8) ≤ bytes.length ∧
        (0 < count → 24 + 8 * count ≤ bytes.length) ∧
        sketch = CompactSketch.new false true hash theta (storedWords bytes count 24) := by
  unfold parseEstimation
  split_ifs with none
  · exact ⟨fun made => (Except.ok.inj made).symm, fun made => made ▸ rfl⟩
  · rw [bind_assoc, (checkMemorySize_guards _ _ _).bind_eq_ok, pure_bind, copied_words, eq_comm]
    rfl

theorem exists_pure_iff {A : Type} {value result : A} {stream : InputStream} :
    (∃ after, (pure value : StreamRun A) stream = .ok (result, after)) ↔ value = result :=
  ⟨fun ⟨_, made⟩ => congrArg Prod.fst (Except.ok.inj made), fun same => ⟨stream, same ▸ rfl⟩⟩

theorem estimation_end_iff (short : bytes.length < 2 ^ 32) (long : 24 ≤ bytes.length)
    {hash count theta : ℕ} : (∃ after, (do
      newVector count
      let entries ← CompactSketch.readEntriesStream (decide (count = 0 ∧ theta = maxTheta)) count
      checkGood
      return CompactSketch.new (decide (count = 0 ∧ theta = maxTheta)) true hash theta entries :
        StreamRun CompactSketch) (past bytes unset 24) = .ok (sketch, after)) ↔
      (parseEstimation bytes hash count theta false >>= copied bytes) = .ok sketch := by
  simp only [words_end_iff, parseEstimation_end_iff, decide_eq_true_eq, exists_and_left]
  rw [wrap32, entriesEstimationU64]
  split_ifs with none
  · simp only [exists_and_left, exists_eq, and_true, none.1]
    exact and_iff_right (Nat.two_pow_pos 29)
  · simp only [exists_and_left, exists_eq, and_true]
    constructor
    · rintro ⟨-, inside, made⟩
      exact ⟨by omega, inside, made⟩
    · rintro ⟨-, inside, made⟩
      exact ⟨by omega, inside, made⟩

theorem deserializeV1_iff (short : bytes.length < 2 ^ 32) :
    (∃ after, CompactSketch.deserializeV1 seed (past bytes unset 3) = .ok (sketch, after)) ↔
      (parseV1 bytes seed false >>= copied bytes) = .ok sketch := by
  unfold CompactSketch.deserializeV1 parseV1 readU32 readU64
  simp only [readInt_bind_iff Nat.one_pos, readInt_bind_iff (show 0 < 4 by decide),
    readInt_bind_iff (show 0 < 8 by decide), Nat.reduceAdd, bind_assoc, readAt_bind_eq_ok,
    numEntriesU32, thetaU64, Nat.reduceMul, exists_and_left]
  constructor
  · rintro ⟨_, _, _, _, long, ran⟩
    exact ⟨by omega, long, (estimation_end_iff short long).mp ran⟩
  · rintro ⟨_, long, ran⟩
    exact ⟨by omega, by omega, by omega, by omega, long, (estimation_end_iff short long).mpr ran⟩

theorem checkValue_bind_eq_ok {A : Type} {actual expected : ℕ} {description : String}
    {next : Unit → Run A} {result : A} : (checkValue actual expected description >>= next) = .ok result ↔
      actual = expected ∧ next () = .ok result :=
  (checkValue_guards _ _ _).bind_eq_ok

theorem lift_checkValue_bind_eq_ok {A : Type} {actual expected : ℕ} {description : String}
    {next : Unit → StreamRun A} {stream : InputStream} {result : A × InputStream} :
    (lift (checkValue actual expected description) >>= next) stream = .ok result ↔
      actual = expected ∧ next () stream = .ok result := by
  rw [lift_bind_eq_ok]
  constructor
  · rintro ⟨_, passed, ran⟩
    refine ⟨?_, ran⟩
    by_contra other
    obtain ⟨exit, fails, _⟩ := (checkValue_guards actual expected description).2 other
    cases fails.symm.trans passed
  · rintro ⟨same, ran⟩
    exact ⟨(), (checkValue_guards actual expected description).1 same, ran⟩

theorem readInt_returns (width : ℕ) (stream : InputStream) :
    ∃ value after, readInt width stream = .ok (value, after) := by
  obtain ⟨bytes, after, filled⟩ : ∃ bytes after,
      fill ((List.range width).map stream.unset) stream = .ok (bytes, after) := by
    unfold fill
    split_ifs <;> exact ⟨_, _, rfl⟩
  rw [readInt_eq, bind_of_ok filled]
  exact ⟨_, _, rfl⟩

theorem fail_eq_ok_iff {A : Type} {exit : StreamExit} {stream : InputStream}
    {result : A × InputStream} : fail exit stream = .ok result ↔ False :=
  ⟨by rintro ⟨⟩, False.elim⟩

/-- Version 2 with a preamble of two longs may return from a stream that ended in the
count. -/
theorem deserializeV2_iff (short : bytes.length < 2 ^ 32) (long : 8 ≤ bytes.length)
    (two : word bytes 0 1 = 2 → 12 ≤ bytes.length) :
    (∃ after, CompactSketch.deserializeV2 (word bytes 0 1) seed (past bytes unset 3) =
        .ok (sketch, after)) ↔ (parseV2 bytes seed false >>= copied bytes) = .ok sketch := by
  unfold CompactSketch.deserializeV2 parseV2 readU32 readU64 readU16 readByte
  rw [bind_of_ok (readInt_past (by omega)), bind_of_ok (readInt_past (by omega)),
    bind_of_ok (readInt_past (by omega))]
  simp only [bind_assoc, readAt_bind_eq_ok, checkSeedHash, lift_checkValue_bind_eq_ok, checkValue_bind_eq_ok,
    exists_and_left, preLongsByte, seedHashU16, numEntriesU32, thetaU64, Nat.reduceMul, Nat.reduceAdd,
    long, show 1 ≤ bytes.length by omega, true_and]
  refine and_congr_right fun _ => ?_
  by_cases one : word bytes 0 1 = 1
  · simp only [one, if_true, checkGood_bind, exists_pure_iff]
    exact ⟨fun made => made ▸ rfl, fun made => Except.ok.inj made⟩
  by_cases isTwo : word bytes 0 1 = 2
  · have inside := two isTwo
    simp only [isTwo, if_true, if_neg (show ¬ 2 = 1 by decide)]
    rw [bind_of_ok (readInt_past inside)]
    simp only [bind_assoc, readAt_bind_eq_ok, Nat.reduceAdd, inside, true_and]
    by_cases none : word bytes 8 4 = 0
    · obtain ⟨value, after, ran⟩ := readInt_returns 4 (past bytes unset 12)
      rw [bind_of_ok ran]
      simp only [none, newVector_bind_eq_ok, exists_and_left, if_true, exists_pure_iff]
      exact ⟨fun made => made.2 ▸ rfl, fun made => ⟨Nat.two_pow_pos 29, Except.ok.inj made⟩⟩
    · simp only [none, if_false, readInt_bind_iff (show 0 < 4 by decide), newVector_bind_eq_ok,
        fillWords_bind_iff, checkGood_bind, bind_assoc, (checkMemorySize_guards _ _ _).bind_eq_ok, pure_bind,
        copied_words, Nat.reduceAdd, Nat.reduceMul, entriesExactU64, exists_and_left, exists_pure_iff, wrap32]
      constructor
      · rintro ⟨_, _, inside, made⟩
        exact ⟨by omega, inside, made⟩
      · rintro ⟨-, inside, made⟩
        exact ⟨by omega, by omega, inside, made⟩
  by_cases three : word bytes 0 1 = 3
  · simp only [three, if_true, if_neg (show ¬ 3 = 1 by decide), if_neg (show ¬ 3 = 2 by decide),
      readInt_bind_iff (show 0 < 4 by decide), readInt_bind_iff (show 0 < 8 by decide), Nat.reduceAdd,
      bind_assoc, readAt_bind_eq_ok, exists_and_left]
    constructor
    · rintro ⟨_, _, long, ran⟩
      exact ⟨by omega, long, (estimation_end_iff short long).mp ran⟩
    · rintro ⟨_, long, ran⟩
      exact ⟨by omega, by omega, long, (estimation_end_iff short long).mpr ran⟩
  · simp only [one, isTwo, three, if_false, fail_eq_ok_iff, exists_false]
    exact ⟨False.elim, by rintro ⟨⟩⟩

theorem new_single {isEmpty isOrdered : Bool} {hash theta : ℕ} {entries : List ℕ}
    (few : entries.length ≤ 1) : CompactSketch.new isEmpty isOrdered hash theta entries =
      CompactSketch.new isEmpty true hash theta entries := by
  simp [CompactSketch.new, few]

theorem deserializeV3_iff (short : bytes.length < 2 ^ 32) (long : 8 ≤ bytes.length) :
    (∃ after, CompactSketch.deserializeV3 (word bytes 0 1) seed (past bytes unset 3) =
        .ok (sketch, after)) ↔ (parseV3 bytes seed false >>= copied bytes) = .ok sketch := by
  unfold CompactSketch.deserializeV3 parseV3 readU32 readU64 readU16 readByte
  rw [bind_of_ok (readInt_past (by omega)), bind_of_ok (readInt_past (by omega)),
    bind_of_ok (readInt_past (by omega))]
  simp only [bind_assoc, readAt_bind_eq_ok, preLongsByte, seedHashU16, numEntriesU32, thetaU64, flagsByte,
    Nat.reduceMul, Nat.reduceAdd, long, show 6 ≤ bytes.length by omega, true_and,
    CompactSketch.isEmptyFlag, CompactThetaSketchParser.isEmptyFlag, CompactSketch.isOrderedFlag,
    CompactThetaSketchParser.isOrderedFlag]
  by_cases flag : (word bytes 5 1).testBit 2 = true
  · simp only [flag, CompactSketch.checkSeedHashStream, CompactSketch.readPreambleV3, if_true, pure_bind,
      words_end_iff, exists_and_left, exists_eq, and_true]
    rw [new_single (show ([] : List ℕ).length ≤ 1 by decide)]
    exact ⟨fun made => made.2 ▸ rfl, fun made => ⟨Nat.two_pow_pos 29, (Except.ok.inj made).symm⟩⟩
  · simp only [flag, CompactSketch.checkSeedHashStream, CompactSketch.readPreambleV3, Bool.false_eq_true, if_false,
      checkSeedHash, lift_checkValue_bind_eq_ok, checkValue_bind_eq_ok, exists_and_left,
      readAt_bind_eq_ok, bind_assoc, show 1 ≤ bytes.length by omega, true_and, Nat.reduceAdd]
    refine and_congr_right fun _ => ?_
    by_cases one : word bytes 0 1 = 1
    · simp only [one, if_true, pure_bind, words_end_iff, exists_and_left, exists_eq, and_true,
        show ¬ 2 < 1 by decide, decide_false, Bool.false_eq_true, if_false, bind_assoc,
        (checkMemorySize_guards _ _ _).bind_eq_ok, copied_words, singleEntryU64]
      rw [new_single (le_refl 1)]
      constructor
      · rintro ⟨-, inside, made⟩
        exact ⟨inside Nat.one_pos, inside, made.symm⟩
      · rintro ⟨-, inside, made⟩
        exact ⟨by decide, inside, made.symm⟩
    · by_cases three : 2 < word bytes 0 1
      · simp only [one, three, decide_true, if_true, if_false, bind_assoc, CompactSketch.readTheta,
          readAt_bind_eq_ok, readInt_bind_iff (show 0 < 4 by decide), readInt_bind_iff (show 0 < 8 by decide),
          (checkMemorySize_guards _ _ _).bind_eq_ok, copied_words, pure_bind, words_end_iff, exists_and_left,
          exists_eq, and_true, Nat.reduceAdd, Bool.false_eq_true, entriesEstimationU64, Nat.reduceMul, wrap32]
        constructor
        · rintro ⟨_, _, long, _, inside, made⟩
          exact ⟨long, long, by omega, by omega, inside, made.symm⟩
        · rintro ⟨long, _, _, _, inside, made⟩
          exact ⟨by omega, by omega, long, by omega, inside, made.symm⟩
      · simp only [one, three, decide_false, if_false, bind_assoc, CompactSketch.readTheta,
          readAt_bind_eq_ok, readInt_bind_iff (show 0 < 4 by decide),
          (checkMemorySize_guards _ _ _).bind_eq_ok, copied_words, pure_bind, words_end_iff, exists_and_left,
          exists_eq, and_true, Nat.reduceAdd, Bool.false_eq_true, entriesExactU64, Nat.reduceMul, wrap32]
        constructor
        · rintro ⟨_, _, _, inside, made⟩
          exact ⟨by omega, by omega, inside, made.symm⟩
        · rintro ⟨_, _, inside, made⟩
          exact ⟨by omega, by omega, by omega, inside, made.symm⟩

instance (remaining i known : ℕ) : KeepsFailure (StreamRun.countLoop remaining i known) := by
  induction remaining generalizing i known with
  | zero => exact inferInstanceAs (KeepsFailure (pure known))
  | succ remaining ih =>
    unfold StreamRun.countLoop
    infer_instance

theorem fail_bind_eq_ok_iff {A B : Type} {exit : StreamExit} {next : A → StreamRun B}
    {stream : InputStream} {result : B × InputStream} :
    (fail exit >>= next) stream = .ok result ↔ False :=
  ⟨by rintro ⟨⟩, False.elim⟩

theorem countLoop_bind_iff {A : Type} {result : A × InputStream} (remaining : ℕ) {start i known : ℕ}
    {next : ℕ → StreamRun A} [∀ value, Strict (next value)] :
    (StreamRun.countLoop remaining i known >>= next) (past bytes unset (start + i)) = .ok result ↔
      ∃ count, CompactThetaSketchParser.countLoop bytes start remaining i known = .ok count ∧
        next count (past bytes unset (start + i + remaining)) = .ok result := by
  induction remaining generalizing i known with
  | zero =>
    constructor
    · exact fun ran => ⟨_, rfl, ran⟩
    · rintro ⟨_, ⟨⟩, ran⟩
      exact ran
  | succ remaining ih =>
    have place : start + i + (remaining + 1) = start + (i + 1) + remaining := by omega
    simp only [StreamRun.countLoop, CompactThetaSketchParser.countLoop, bind_assoc, readByte,
      readInt_bind_iff Nat.one_pos, readAt_bind_eq_ok]
    by_cases wide : 32 ≤ i * 8
    · simp only [wide, if_true, fail_bind_eq_ok_iff, and_false, Run.throw_eq, Run.error_bind]
      exact ⟨False.elim, by rintro ⟨_, ⟨_, ⟨⟩⟩, _⟩⟩
    · simp only [wide, if_false]
      rw [place, Nat.add_assoc start i 1, ih]
      constructor
      · rintro ⟨inside, count, counted, ran⟩
        exact ⟨count, ⟨inside, counted⟩, ran⟩
      · rintro ⟨count, ⟨inside, counted⟩, ran⟩
        exact ⟨inside, count, counted, ran⟩

theorem countLoop_eq_ok_iff {start size count : ℕ} (here : start ≤ bytes.length) :
    CompactThetaSketchParser.countLoop bytes start size 0 0 = .ok count ↔
      size ≤ 4 ∧ start + size ≤ bytes.length ∧ word bytes start size = count := by
  have inside : ∀ remaining i known count, start + i ≤ bytes.length →
      CompactThetaSketchParser.countLoop bytes start remaining i known = .ok count →
      start + i + remaining ≤ bytes.length := by
    intro remaining
    induction remaining with
    | zero => exact fun i known count low _ => low
    | succ remaining ih =>
      intro i known count low counted
      rw [CompactThetaSketchParser.countLoop, readByte, readAt_bind_eq_ok] at counted
      obtain ⟨room, counted⟩ := counted
      split_ifs at counted with wide
      · cases counted
      · have := ih _ _ _ room counted
        omega
  constructor
  · intro counted
    have fits := inside size 0 0 count here counted
    have few := (countLoop_defined_iff (by omega)).mp (counted ▸ defined_ok count)
    have known := @countLoop_eq bytes start size (by omega) fits
    exact ⟨by omega, fits, Except.ok.inj (known.symm.trans counted)⟩
  · rintro ⟨few, fits, rfl⟩
    exact countLoop_eq few fits

/-- A header of version 4 on which the readers agree: packed entries of a width that blocks
have, with the flags that the reader of memory takes for granted. -/
def PlainVersion4 (bytes : List UInt8) : Prop :=
  0 < word bytes 3 1 ∧ word bytes 3 1 < 64 ∧ packedCount bytes < 2 ^ 29 ∧
    (word bytes 5 1).testBit CompactThetaSketchParser.isEmptyFlag = false ∧
    (word bytes 5 1).testBit CompactThetaSketchParser.isOrderedFlag = true

theorem wrap32_le (value : ℕ) : wrap32 value ≤ value := Nat.mod_le _ _

instance (width count : ℕ) : Strict (CompactSketch.readPackedEntries width count) := by
  unfold CompactSketch.readPackedEntries
  infer_instance

/-- Version 4 behind `theta`. -/
theorem packed_end_iff (plain : PlainVersion4 bytes) {offset theta : ℕ} (start : countStart bytes = offset)
    (long : 8 ≤ bytes.length) (here : offset ≤ bytes.length) :
    (∃ after, (do
      let numEntries ← StreamRun.countLoop (word bytes 4 1) 0 0
      newVector numEntries
      let entries ← CompactSketch.readPackedEntries (word bytes 3 1) numEntries
      return CompactSketch.new false true (word bytes 6 2) theta entries :
        StreamRun CompactSketch) (past bytes unset offset) = .ok (sketch, after)) ↔
      (do
        let numEntriesBytes ← readAt bytes 4 1
        checkMemorySize bytes (wrap32 (offset + numEntriesBytes)) false
        let numEntries ← CompactThetaSketchParser.countLoop bytes offset numEntriesBytes 0 0
        let entryBits ← readAt bytes 3 1
        checkMemorySize bytes (wrap32 (offset + numEntriesBytes +
          wholeBytesToHoldBits (wrap32 (entryBits * numEntries)))) false
        copied bytes ⟨false, true, word bytes 6 2, numEntries, theta,
          some (offset + numEntriesBytes), entryBits⟩) = .ok sketch := by
  obtain ⟨positive, narrow, few, _⟩ := plain
  rw [packedCount, start] at few
  have streamed := fun after => @countLoop_bind_iff bytes unset _ (sketch, after) (word bytes 4 1) offset 0 0
    (fun numEntries => do
      newVector numEntries
      let entries ← CompactSketch.readPackedEntries (word bytes 3 1) numEntries
      return CompactSketch.new false true (word bytes 6 2) theta entries) _
  rw [Nat.add_zero] at streamed
  simp only [streamed, countLoop_eq_ok_iff here, Run.bind_eq_ok, checkMemorySize_eq_ok, readAt_eq_ok_iff,
    exists_and_left, exists_eq_left', and_assoc, exists_const, copied, Option.getD_some]
  obtain ⟨count, isCount⟩ : ∃ count, count = word bytes offset (word bytes 4 1) := ⟨_, rfl⟩
  rw [← isCount] at few ⊢
  have low := wrap32_le (offset + word bytes 4 1)
  -- Wrapping makes what the parser of memory asks for only smaller.
  have sized : wrap32 (offset + word bytes 4 1 + wholeBytesToHoldBits (wrap32 (word bytes 3 1 * count))) ≤
      offset + word bytes 4 1 + wholeBytesToHoldBits (word bytes 3 1 * count) := by
    have bits := wrap32_le (word bytes 3 1 * count)
    have less := wholeBytesToHoldBits_spec (wrap32 (word bytes 3 1 * count))
    have more := wholeBytesToHoldBits_spec (word bytes 3 1 * count)
    exact (wrap32_le _).trans (by omega)
  constructor
  · rintro ⟨bytesFew, inside, after, ran⟩
    rw [newVector_bind_eq_ok, readPackedEntries_bind_iff positive narrow _ inside] at ran
    obtain ⟨fits, all, made⟩ := ran
    have same := exists_pure_iff.mp ⟨after, made⟩
    exact ⟨by omega, by omega, bytesFew, inside, by omega, by omega, _,
      (copyEntries_eq_ok positive narrow inside).mpr ⟨fits, all, rfl⟩, congrArg Except.ok same⟩
  · rintro ⟨_, _, bytesFew, inside, _, _, entries, ran, made⟩
    obtain ⟨_, all, rfl⟩ := (copyEntries_eq_ok positive narrow inside).mp ran
    obtain ⟨after, pureRan⟩ := exists_pure_iff.mpr (Except.ok.inj made)
    refine ⟨bytesFew, inside, after, ?_⟩
    rw [newVector_bind_eq_ok, readPackedEntries_bind_iff positive narrow _ inside]
    exact ⟨few, all, pureRan⟩

theorem deserializeV4_iff (long : 8 ≤ bytes.length) (plain : PlainVersion4 bytes) :
    (∃ after, CompactSketch.deserializeV4 (word bytes 0 1) seed (past bytes unset 3) =
        .ok (sketch, after)) ↔ (parseV4 bytes seed false >>= copied bytes) = .ok sketch := by
  have full : (word bytes 5 1).testBit CompactSketch.isEmptyFlag = false := plain.2.2.2.1
  have ordered : (word bytes 5 1).testBit CompactSketch.isOrderedFlag = true := plain.2.2.2.2
  unfold CompactSketch.deserializeV4 parseV4 readU64 readU16 readByte
  rw [bind_of_ok (readInt_past (by omega)), bind_of_ok (readInt_past (by omega)),
    bind_of_ok (readInt_past (by omega)), bind_of_ok (readInt_past (by omega))]
  simp only [full, ordered, CompactSketch.checkSeedHashStream, Bool.false_eq_true, if_false, bind_assoc,
    readAt_bind_eq_ok, checkSeedHash, lift_checkValue_bind_eq_ok, checkValue_bind_eq_ok, preLongsByte, seedHashU16, v4ThetaU64,
    v4NumEntriesBytesByte, v4EntryBitsByte, v4PackedDataEstimationByte, v4PackedDataExactByte,
    Nat.reduceMul, Nat.reduceAdd, long, true_and, exists_and_left, show 1 ≤ bytes.length by omega]
  refine and_congr_right fun _ => ?_
  by_cases two : 1 < word bytes 0 1
  · have start : countStart bytes = 16 := if_pos two
    simp only [two, decide_true, if_true, CompactSketch.readTheta, readInt_bind_iff (show 0 < 8 by decide),
      bind_assoc, pure_bind, Nat.reduceAdd, exists_and_left]
    rw [(checkMemorySize_guards _ _ _).bind_eq_ok, readAt_bind_eq_ok]
    refine and_congr_right fun inside => ?_
    rw [and_iff_right inside]
    exact packed_end_iff plain start long inside
  · have start : countStart bytes = 8 := if_neg two
    simp only [two, decide_false, Bool.false_eq_true, if_false, CompactSketch.readTheta, bind_assoc, pure_bind]
    exact packed_end_iff plain start long long

end Versions

end StreamRun

/-- The bytes that both readers take for the same sketch: a whole preamble, a whole count where
the stream reader would not miss it, and a header of version 4 as the writer makes it. -/
structure ReadAlike (bytes : List UInt8) : Prop where
  long : 8 ≤ bytes.length
  counted : word bytes 1 1 = 2 → word bytes 0 1 = 2 → 12 ≤ bytes.length
  plain : word bytes 1 1 = 4 → StreamRun.PlainVersion4 bytes

open StreamRun in
/-- A stream yields a sketch exactly when its bytes in memory yield it. -/
theorem deserializeStream_iff_deserialize {bytes : List UInt8} (seed : UInt64) (unset : ℕ → UInt8)
    (sketch : CompactSketch) (short : bytes.length < 2 ^ 32) (alike : ReadAlike bytes) :
    (∃ after, CompactSketch.deserializeStream seed ⟨bytes, true, unset⟩ = .ok (sketch, after)) ↔
      CompactSketch.deserialize bytes seed = .ok sketch := by
  obtain ⟨long, counted, plain⟩ := alike
  change (∃ after, CompactSketch.deserializeStream seed (past bytes unset 0) = _) ↔ _
  unfold CompactSketch.deserializeStream
  rw [deserialize_eq_bind, parse, bind_of_ok (readInt_past (by omega)),
    bind_of_ok (readInt_past (by omega)), bind_of_ok (readInt_past (by omega))]
  simp only [bind_assoc, (checkMemorySize_guards _ _ _).bind_eq_ok, readByte, readAt_bind_eq_ok, long,
    true_and, typeByte, serialVersionByte, Nat.reduceAdd, Nat.zero_add, show 3 ≤ bytes.length by omega]
  rw [checkSketchType]
  simp only [lift_checkValue_bind_eq_ok, checkValue_bind_eq_ok, readAt_bind_eq_ok, Nat.reduceAdd,
    show 2 ≤ bytes.length by omega, true_and, exists_and_left]
  refine and_congr_right fun _ => ?_
  split_ifs with four three one two
  · exact deserializeV4_iff long (plain four)
  · exact deserializeV3_iff short long
  · exact deserializeV1_iff short
  · exact deserializeV2_iff short long (counted two)
  · simp only [fail_eq_ok_iff, exists_false]
    exact ⟨False.elim, by rintro ⟨⟩⟩

example :
    ((CompactSketch.deserializeStream defaultSeed ⟨[2, 2, 3, 0, 0, 0, 204, 147], true, fun _ => 0⟩).map
        fun read => read.1) = .ok ⟨true, true, 37836, maxTheta, []⟩ ∧
      ¬ Defined (CompactSketch.deserialize [2, 2, 3, 0, 0, 0, 204, 147] defaultSeed) ∧
      ((CompactSketch.deserializeStream defaultSeed
        ⟨[1, 4, 3, 8, 1, 10, 204, 147, 2, 5, 9], true, fun _ => 0⟩).map fun read => read.1) =
          .ok ⟨false, false, 37836, maxTheta, [5, 14]⟩ ∧
      CompactSketch.deserialize [1, 4, 3, 8, 1, 10, 204, 147, 2, 5, 9] defaultSeed =
        .ok ⟨false, true, 37836, maxTheta, [5, 14]⟩ := by
  refine ⟨by decide +kernel, fun defined => ?_, by decide +kernel, by decide +kernel⟩
  have outside : CompactSketch.deserialize [2, 2, 3, 0, 0, 0, 204, 147] defaultSeed =
      .error (.undefined (.outOfBounds 8 4)) := by decide +kernel
  exact defined _ outside

theorem packed_pair_read_alike :
    (∃ after, CompactSketch.deserializeStream defaultSeed
        ⟨[1, 4, 3, 8, 1, 26, 204, 147, 2, 5, 9], true, fun _ => 0⟩ =
          .ok (⟨false, true, 37836, maxTheta, [5, 14]⟩, after)) ↔
      CompactSketch.deserialize [1, 4, 3, 8, 1, 26, 204, 147, 2, 5, 9] defaultSeed =
        .ok ⟨false, true, 37836, maxTheta, [5, 14]⟩ :=
  deserializeStream_iff_deserialize defaultSeed (fun _ => 0) _ (by decide)
    ⟨by decide, by decide, fun _ => ⟨by decide, by decide, by decide +kernel, by decide, by decide⟩⟩

end ThetaSketch
