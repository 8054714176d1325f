import ThetaSketch.Format.StreamReaders

/-! What a sketch that was read from a stream depends on.

A read that fails leaves memory as it was, and the reader goes on with it. A stream
that is still good in the end had no such read, so the sketch is made of bytes that
stood at the front of the stream.
-/

set_option autoImplicit false

namespace ThetaSketch

open LittleEndian CompactThetaSketchParser

namespace StreamRun

/-- Code that takes bytes off the front of the stream and looks at nothing else, unless a
read fails. -/
class Local {A : Type} (run : StreamRun A) : Prop extends KeepsFailure run where
  takes : ∀ stream value after, stream.good = true → run stream = .ok (value, after) →
    after.good = true → ∃ used, stream.rest = used ++ after.rest ∧
      ∀ tail unset, ∃ later, run ⟨used ++ tail, true, unset⟩ = .ok (value, ⟨tail, true, later⟩)

/-- Code that does not read. -/
class Still {A : Type} (run : StreamRun A) : Prop where
  stays : ∀ stream value after, run stream = .ok (value, after) → after = stream

/-- Code that returns only when the stream is good. -/
class EndsGood {A : Type} (run : StreamRun A) : Prop where
  ends : ∀ stream value after, run stream = .ok (value, after) → after.good = true

section Bind

variable {A B : Type}

instance Local.bind {run : StreamRun A} {next : A → StreamRun B} [first : Local run]
    [later : ∀ value, Local (next value)] : Local (run >>= next) where
  takes := by
    intro stream value after good ran ended
    obtain ⟨middle, between, here, there⟩ := bind_eq_ok.mp ran
    have stillGood : between.good = true := by
      cases isGood : between.good with
      | true => rfl
      | false => exact absurd ((later middle).keeps _ _ _ isGood there) (by rw [ended]; decide)
    obtain ⟨used, split, again⟩ := first.takes _ _ _ good here stillGood
    obtain ⟨more, splitMore, againMore⟩ := (later middle).takes _ _ _ stillGood there ended
    refine ⟨used ++ more, by rw [split, splitMore, List.append_assoc], fun tail unset => ?_⟩
    obtain ⟨held, ranFirst⟩ := again (more ++ tail) unset
    obtain ⟨last, ranMore⟩ := againMore tail held
    exact ⟨last, by rw [List.append_assoc, bind_of_ok ranFirst, ranMore]⟩

instance (value : A) : Local (pure value : StreamRun A) where
  takes := by
    intro stream other after _ ran _
    cases ran
    exact ⟨[], rfl, fun tail unset => ⟨unset, rfl⟩⟩

instance (run : Run A) : Local (lift run) where
  takes := by
    intro stream value after _ ran _
    cases run with
    | error exit => cases ran
    | ok known =>
      cases ran
      exact ⟨[], rfl, fun tail unset => ⟨unset, rfl⟩⟩

instance (exit : StreamExit) : Local (fail exit : StreamRun A) where
  takes := by rintro stream value after _ ⟨⟩

instance {chosen : Prop} [Decidable chosen] (first second : StreamRun A) [Local first]
    [Local second] : Local (if chosen then first else second) := by
  split_ifs <;> infer_instance

instance EndsGood.bind {run : StreamRun A} {next : A → StreamRun B}
    [later : ∀ value, EndsGood (next value)] : EndsGood (run >>= next) where
  ends := by
    intro stream value after ran
    obtain ⟨middle, between, _, there⟩ := bind_eq_ok.mp ran
    exact (later middle).ends _ _ _ there

instance (value : A) : Still (pure value : StreamRun A) where
  stays := by
    intro stream other after ran
    cases ran
    rfl

instance (run : Run A) : Still (lift run) where
  stays := by
    intro stream value after ran
    cases run with
    | error exit => cases ran
    | ok known =>
      cases ran
      rfl

instance Still.bind {run : StreamRun A} {next : A → StreamRun B} [first : Still run]
    [later : ∀ value, Still (next value)] : Still (run >>= next) where
  stays := by
    intro stream value after ran
    obtain ⟨middle, between, here, there⟩ := bind_eq_ok.mp ran
    exact ((later middle).stays _ _ _ there).trans (first.stays _ _ _ here)

instance EndsGood.still {run : StreamRun A} {next : A → StreamRun B} [first : EndsGood run]
    [later : ∀ value, Still (next value)] : EndsGood (run >>= next) where
  ends := by
    intro stream value after ran
    obtain ⟨middle, between, here, there⟩ := bind_eq_ok.mp ran
    rw [(later middle).stays _ _ _ there]
    exact first.ends _ _ _ here

instance (exit : StreamExit) : EndsGood (fail exit : StreamRun A) where
  ends := by rintro stream value after ⟨⟩

instance {chosen : Prop} [Decidable chosen] (first second : StreamRun A) [EndsGood first]
    [EndsGood second] : EndsGood (if chosen then first else second) := by
  split_ifs <;> infer_instance

end Bind

/-! The parts of the reader. -/

theorem fill_takes {old : List UInt8} {stream after : InputStream} {value : List UInt8}
    (good : stream.good = true) (ran : fill old stream = .ok (value, after))
    (ended : after.good = true) : stream.rest = value ++ after.rest ∧ value.length = old.length := by
  unfold fill at ran
  rw [good] at ran
  cases ran
  have enough : old.length ≤ stream.rest.length := of_decide_eq_true ended
  rw [List.drop_of_length_le enough, List.append_nil]
  exact ⟨(List.take_append_drop _ _).symm, by rw [List.length_take, min_eq_left enough]⟩

theorem fill_again {old used : List UInt8} (size : used.length = old.length) (tail : List UInt8)
    (unset : ℕ → UInt8) : ∃ later, fill old ⟨used ++ tail, true, unset⟩ =
      .ok (used, ⟨tail, true, later⟩) := by
  have filled := @fill_past (used ++ tail) unset 0 old (by
    rw [List.length_append, size]
    omega)
  rw [List.drop_zero, Nat.zero_add, ← size, List.take_left, past_append] at filled
  exact ⟨_, filled⟩

instance (old : List UInt8) : Local (fill old) where
  takes := by
    intro stream value after good ran ended
    obtain ⟨split, size⟩ := fill_takes good ran ended
    exact ⟨value, split, fun tail unset => fill_again size tail unset⟩

instance (width : ℕ) : Local (readInt width) where
  takes := by
    intro stream value after good ran ended
    rw [readInt_eq] at ran
    obtain ⟨bytes, middle, filled, rest⟩ := bind_eq_ok.mp ran
    cases rest
    obtain ⟨split, size⟩ := fill_takes good filled ended
    refine ⟨bytes, split, fun tail unset => ?_⟩
    have width_eq : bytes.length = ((List.range width).map unset).length := by
      rw [size, List.length_map, List.length_map]
    obtain ⟨later, again⟩ := fill_again width_eq tail unset
    refine ⟨later, ?_⟩
    rw [readInt_eq, bind_of_ok again]
    rfl

instance (buffer : List UInt8) (size : ℕ) : Local (readBuffer buffer size) := by
  unfold readBuffer
  infer_instance

instance (count : ℕ) : Local (newVector count) := by
  unfold newVector
  infer_instance

instance (count : ℕ) : Local (fillWords count) := by
  induction count with
  | zero => exact inferInstanceAs (Local (pure []))
  | succ count ih =>
    unfold fillWords
    infer_instance

instance (remaining i known : ℕ) : Local (StreamRun.countLoop remaining i known) := by
  induction remaining generalizing i known with
  | zero => exact inferInstanceAs (Local (pure known))
  | succ remaining ih =>
    unfold StreamRun.countLoop
    infer_instance

instance (entryBits blocks : ℕ) (buffer : List UInt8) : Local (unpackBlocks entryBits blocks buffer) := by
  induction blocks generalizing buffer with
  | zero => exact inferInstanceAs (Local (pure ([], buffer)))
  | succ blocks ih =>
    unfold unpackBlocks
    infer_instance

theorem checkGood_good {stream : InputStream} (good : stream.good = true) :
    checkGood stream = .ok ((), stream) := by
  change (if stream.good = true then _ else _ : StreamRun Unit) stream = _
  rw [good]
  rfl

instance : Local checkGood where
  takes := by
    intro stream value after good ran _
    cases (checkGood_good good).symm.trans ran
    exact ⟨[], rfl, fun tail unset => ⟨unset, rfl⟩⟩

instance : EndsGood checkGood where
  ends := by
    intro stream value after ran
    cases isGood : stream.good with
    | true =>
      cases (checkGood_good isGood).symm.trans ran
      exact isGood
    | false => exact absurd ran (Strict.stops _ _ isGood)

end StreamRun

/-! Each version. -/

namespace CompactSketch

open StreamRun

-- An instance is made of one for every statement behind it.
set_option synthInstance.maxSize 4000

instance (isEmpty : Bool) (count : ℕ) : Local (readEntriesStream isEmpty count) := by
  unfold readEntriesStream
  infer_instance

instance (isEmpty : Bool) (hash : ℕ) (seed : UInt64) : Local (checkSeedHashStream isEmpty hash seed) := by
  unfold checkSeedHashStream
  infer_instance

instance (hasTheta : Bool) : Local (readTheta hasTheta) := by
  unfold readTheta
  infer_instance

instance (isEmpty : Bool) (preambleLongs : ℕ) : Local (readPreambleV3 isEmpty preambleLongs) := by
  unfold readPreambleV3
  infer_instance

instance (width count : ℕ) (buffer : List UInt8) : Local (readTail width count buffer) := by
  unfold readTail
  infer_instance

instance (width count : ℕ) : Local (readPackedEntries width count) := by
  unfold readPackedEntries
  infer_instance

instance (width count : ℕ) : EndsGood (readPackedEntries width count) := by
  unfold readPackedEntries
  infer_instance

instance (seed : UInt64) : Local (deserializeV1 seed) := by
  unfold deserializeV1
  infer_instance

instance (seed : UInt64) : EndsGood (deserializeV1 seed) := by
  unfold deserializeV1
  infer_instance

instance (preambleLongs : ℕ) (seed : UInt64) : Local (deserializeV2 preambleLongs seed) := by
  unfold deserializeV2
  infer_instance

instance (preambleLongs : ℕ) (seed : UInt64) : Local (deserializeV3 preambleLongs seed) := by
  unfold deserializeV3
  infer_instance

instance (preambleLongs : ℕ) (seed : UInt64) : EndsGood (deserializeV3 preambleLongs seed) := by
  unfold deserializeV3
  infer_instance

instance (preambleLongs : ℕ) (seed : UInt64) : Local (deserializeV4 preambleLongs seed) := by
  unfold deserializeV4
  infer_instance

instance (preambleLongs : ℕ) (seed : UInt64) : EndsGood (deserializeV4 preambleLongs seed) := by
  unfold deserializeV4
  infer_instance

/-- Version 2 with a preamble of two longs is the one that may return from a failed stream. -/
theorem deserializeV2_endsGood {preambleLongs : ℕ} (other : preambleLongs ≠ 2) (seed : UInt64) :
    EndsGood (deserializeV2 preambleLongs seed) := by
  unfold deserializeV2
  simp only [if_neg other]
  infer_instance

instance (seed : UInt64) : Local (deserializeStream seed) := by
  unfold deserializeStream
  infer_instance

theorem deserializeStream_endsGood {seed : UInt64} {bytes : List UInt8} {unset : ℕ → UInt8}
    {sketch : CompactSketch} {after : InputStream} (long : 3 ≤ bytes.length)
    (counted : ¬ (word bytes 1 1 = 2 ∧ word bytes 0 1 = 2))
    (read : deserializeStream seed ⟨bytes, true, unset⟩ = .ok (sketch, after)) : after.good = true := by
  change deserializeStream seed (past bytes unset 0) = _ at read
  unfold deserializeStream at read
  rw [bind_of_ok (readInt_past (by omega)), bind_of_ok (readInt_past (by omega)),
    bind_of_ok (readInt_past (by omega))] at read
  obtain ⟨_, middle, _, rest⟩ := bind_eq_ok.mp read
  simp only [Nat.zero_add] at rest
  split_ifs at rest with four three one two
  · exact EndsGood.ends _ _ _ rest
  · exact EndsGood.ends _ _ _ rest
  · exact EndsGood.ends _ _ _ rest
  · exact (deserializeV2_endsGood (fun isTwo => counted ⟨two, isTwo⟩) seed).ends _ _ _ rest
  · cases rest

end CompactSketch

/-- A sketch that was read is made of the bytes that were taken from the stream, and of nothing
that memory held before. -/
theorem deserializeStream_takes {seed : UInt64} {bytes : List UInt8} {unset : ℕ → UInt8}
    {sketch : CompactSketch} {after : InputStream} (long : 3 ≤ bytes.length)
    (counted : ¬ (word bytes 1 1 = 2 ∧ word bytes 0 1 = 2))
    (read : CompactSketch.deserializeStream seed ⟨bytes, true, unset⟩ = .ok (sketch, after)) :
    ∃ used, bytes = used ++ after.rest ∧ ∀ tail unset, ∃ later,
      CompactSketch.deserializeStream seed ⟨used ++ tail, true, unset⟩ =
        .ok (sketch, ⟨tail, true, later⟩) :=
  StreamRun.Local.takes _ _ _ rfl read (CompactSketch.deserializeStream_endsGood long counted read)

/-- A sampled sketch of two entries with two more bytes behind it. -/
theorem sampled_pair_takes : ∃ used,
    [3, 3, 3, 0, 0, 26, 204, 147, 2, 0, 0, 0, 0, 0, 0, 0, 0, 0, 0, 0, 0, 0, 0, 64,
      5, 0, 0, 0, 0, 0, 0, 0, 7, 0, 0, 0, 0, 0, 0, 0, 5, 6] = used ++ [5, 6] ∧
    ∀ tail unset, ∃ later, CompactSketch.deserializeStream defaultSeed ⟨used ++ tail, true, unset⟩ =
      .ok (⟨false, true, 37836, 2 ^ 62, [5, 7]⟩, ⟨tail, true, later⟩) := by
  obtain ⟨bytes, isBytes⟩ : ∃ bytes : List UInt8, bytes =
    [3, 3, 3, 0, 0, 26, 204, 147, 2, 0, 0, 0, 0, 0, 0, 0, 0, 0, 0, 0, 0, 0, 0, 64,
      5, 0, 0, 0, 0, 0, 0, 0, 7, 0, 0, 0, 0, 0, 0, 0, 5, 6] := ⟨_, rfl⟩
  have known : (CompactSketch.deserializeStream defaultSeed ⟨bytes, true, fun _ => 0⟩).map
      (fun read => (read.1, read.2.rest)) = .ok (⟨false, true, 37836, 2 ^ 62, [5, 7]⟩, [5, 6]) := by
    rw [isBytes]
    decide +kernel
  rw [← isBytes]
  cases read : CompactSketch.deserializeStream defaultSeed ⟨bytes, true, fun _ => 0⟩ with
  | error exit =>
    rw [read] at known
    cases known
  | ok result =>
    obtain ⟨sketch, after⟩ := result
    rw [read] at known
    obtain ⟨rfl, rest⟩ := Prod.mk.inj (Except.ok.inj known)
    rw [← rest]
    exact deserializeStream_takes (by rw [isBytes]; decide) (by rw [isBytes]; decide) read

end ThetaSketch
