import ThetaSketch.Format.Blocks
import ThetaSketch.Format.Scalar
import ThetaSketch.Format.ParserSafety
import ThetaSketch.Format.Deserializer

/-! Whether the readers stay inside the bytes that the parser accepted.

The size checks of the parser are right as long as no product wraps. A count that
makes one wrap announces entries beyond the end of the bytes.
-/

set_option autoImplicit false

namespace ThetaSketch

open LittleEndian CompactThetaSketchParser

variable {bytes : List UInt8}

/-! Reading into memory. -/

theorem readWords_defined (count : ℕ) {start : ℕ} (inside : start + 8 * count ≤ bytes.length) :
    Defined (readWords bytes count start) := by
  induction count generalizing start with
  | zero => exact defined_ok _
  | succ count ih =>
    rw [readWords, defined_readAt_bind, defined_bind_iff]
    exact ⟨by omega, ih (by omega), fun _ _ => defined_ok _⟩

theorem unpackBlockOps_none {width : ℕ} (other : width = 0 ∨ 63 < width) :
    unpackBlockOps width = none := by
  unfold unpackBlockOps
  split <;> first | rfl | omega

theorem unpackBitsBlock8_other {width base : ℕ} {values : List ℕ} (other : width = 0 ∨ 63 < width) :
    unpackBitsBlock8 values bytes base width =
      .error (.logicErr ("wrong number of bits " ++ toString width)) := by
  rw [unpackBitsBlock8, unpackBlockOps_none other]

theorem zeros_small (count : ℕ) : ∀ value ∈ List.replicate count 0, value < 2 ^ 64 := by
  intro value member
  rw [List.eq_of_mem_replicate member]
  decide

theorem unpackBlocks_defined {width : ℕ} (blocks : ℕ) {ptr : ℕ}
    (inside : ptr + blocks * width ≤ bytes.length) :
    Defined (unpackBlocks bytes width blocks ptr) ∧
      ∀ values after, unpackBlocks bytes width blocks ptr = .ok (values, after) →
        after = ptr + blocks * width := by
  induction blocks generalizing ptr with
  | zero =>
    refine ⟨defined_ok _, fun values after same => ?_⟩
    cases same
    omega
  | succ blocks ih =>
    have expand : (blocks + 1) * width = width + blocks * width := by ring
    rw [unpackBlocks]
    by_cases other : width = 0 ∨ 63 < width
    · rw [unpackBitsBlock8_other other]
      exact ⟨defined_error_iff.mpr (by rintro what ⟨⟩),
        by rintro values after ⟨⟩⟩
    · obtain ⟨rest, stop⟩ := @ih (ptr + width) (by omega)
      rw [unpackBitsBlock8_spec (by omega) (by omega) (by omega) (by rfl) (zeros_small 8), Run.ok_bind]
      refine ⟨defined_bind_iff.mpr ⟨rest, fun _ _ => defined_ok _⟩, fun values after same => ?_⟩
      obtain ⟨⟨tail, last⟩, run, same⟩ := Run.bind_eq_ok.mp same
      cases same
      rw [stop tail after run]
      omega

theorem unpackRest_defined {width : ℕ} (positive : 0 < width) (count : ℕ) {ptr offset : ℕ}
    (inner : offset < 8) (inside : 8 * ptr + offset + count * width ≤ 8 * bytes.length) :
    Defined (unpackRest bytes width count ptr offset) := by
  induction count generalizing ptr offset with
  | zero => exact defined_ok _
  | succ count ih =>
    have expand : (count + 1) * width = width + count * width := by ring
    have room : 8 * ptr + offset + max 1 width ≤ 8 * bytes.length := by
      rw [max_eq_right positive]
      omega
    obtain ⟨result, next, lane, run, laneInner, moved⟩ := unpackBits_moves inner room
    rw [unpackRest, run, Run.ok_bind, defined_bind_iff]
    exact ⟨ih laneInner (by omega), fun _ _ => defined_ok _⟩

theorem unpackRest_zero_defined_iff (count ptr : ℕ) :
    Defined (unpackRest bytes 0 count ptr 0) ↔ (0 < count → ptr < bytes.length) := by
  induction count with
  | zero => simp [unpackRest, defined_ok]
  | succ count ih =>
    rw [unpackRest, defined_bind_iff, unpackBits_defined_iff (by decide)]
    refine ⟨fun defined _ => by omega, fun inside => ⟨by omega, fun result run => ?_⟩⟩
    have here := inside (Nat.succ_pos count)
    have read := @unpackBits_spec bytes 0 ptr 0 (by decide) (by omega)
    have same := Except.ok.inj (read.symm.trans run)
    have ptr_eq : (8 * ptr + 0 + 0) / 8 = ptr := by omega
    have offset_eq : (8 * ptr + 0 + 0) % 8 = 0 := by omega
    rw [ptr_eq, offset_eq] at same
    subst same
    exact defined_bind_iff.mpr ⟨ih.mpr fun _ => here, fun _ _ => defined_ok _⟩

def CompactThetaSketchData.size (data : CompactThetaSketchData) : ℕ :=
  if data.entryBits = 64 then 8 * data.numEntries
  else wholeBytesToHoldBits (data.entryBits * data.numEntries)

def CompactThetaSketchData.Inside (data : CompactThetaSketchData) (bytes : List UInt8) : Prop :=
  data.entriesStart.getD 0 + data.size ≤ bytes.length

/-- A sketch of no bits whose bytes end before its entries. -/
def CompactThetaSketchData.Hollow (data : CompactThetaSketchData) (bytes : List UInt8) : Prop :=
  data.entryBits = 0 ∧ 0 < data.numEntries ∧ data.numEntries < 8 ∧
    bytes.length ≤ data.entriesStart.getD 0

instance (data : CompactThetaSketchData) (bytes : List UInt8) : Decidable (data.Inside bytes) :=
  inferInstanceAs (Decidable (_ ≤ _))

theorem deserialize_defined_iff {seed : UInt64} {data : CompactThetaSketchData}
    (parsed : parse bytes seed false = .ok data) (inside : data.Inside bytes) :
    Defined (CompactSketch.deserialize bytes seed) ↔ ¬ data.Hollow bytes := by
  obtain ⟨start, isStart⟩ : ∃ start, start = data.entriesStart.getD 0 := ⟨_, rfl⟩
  unfold CompactThetaSketchData.Inside CompactThetaSketchData.size at inside
  unfold CompactThetaSketchData.Hollow
  rw [CompactSketch.deserialize, parsed, Run.ok_bind, ← isStart]
  rw [← isStart] at inside
  dsimp only
  split_ifs at inside ⊢ with whole
  · refine ⟨fun _ hollow => by omega, fun _ => defined_bind_iff.mpr
      ⟨readWords_defined _ inside, fun _ _ => defined_ok _⟩⟩
  · have enough := (wholeBytesToHoldBits_spec (data.entryBits * data.numEntries)).1
    have split := bits_split data.entryBits data.numEntries
    obtain ⟨blocks, after⟩ := @unpackBlocks_defined bytes data.entryBits
      (data.numEntries / 8) start (by omega)
    by_cases positive : 0 < data.entryBits
    · refine ⟨fun _ hollow => by omega, fun _ => defined_newVector_bind.mpr fun _ =>
        defined_bind_iff.mpr ⟨blocks, ?_⟩⟩
      rintro ⟨values, ptr⟩ run
      cases after values ptr run
      exact defined_bind_iff.mpr ⟨unpackRest_defined positive _ (by decide) (by omega),
        fun _ _ => defined_ok _⟩
    · have zero : data.entryBits = 0 := by omega
      rw [zero]
      by_cases short : data.numEntries < 8
      · have none : unpackBlocks bytes 0 0 start = .ok ([], start) := rfl
        rw [Nat.div_eq_of_lt short, Nat.mod_eq_of_lt short, none, Run.newVector_eq (by omega), Run.ok_bind,
          Run.ok_bind, defined_bind_iff]
        dsimp only
        rw [unpackRest_zero_defined_iff]
        refine ⟨fun defined hollow => by have := defined.1 hollow.2.1; omega,
          fun solid => ⟨fun some => ?_, fun _ _ => defined_ok _⟩⟩
        by_contra past
        exact solid ⟨rfl, some, short, by omega⟩
      · -- Blocks of no bits are refused.
        obtain ⟨more, full⟩ : ∃ more, data.numEntries / 8 = more + 1 :=
          ⟨data.numEntries / 8 - 1, by omega⟩
        have refused : unpackBlocks bytes 0 (more + 1) start =
            .error (.logicErr ("wrong number of bits " ++ toString 0)) := by
          rw [unpackBlocks, unpackBitsBlock8_other (.inl rfl)]
          rfl
        rw [full, refused]
        exact ⟨fun _ hollow => by omega, fun _ => defined_newVector_bind.mpr fun _ =>
          defined_error_iff.mpr (by rintro what ⟨⟩)⟩

/-! Iterating over wrapped bytes. -/

namespace WrappedIterator

variable {start width count : ℕ}

theorem words_defined (turns : ℕ) {it : WrappedIterator}
    (inside : it.ptr + 8 * turns ≤ bytes.length) :
    ∀ read ∈ iterate bytes 64 count turns (.ok it), Defined read := by
  induction turns generalizing it with
  | zero => simp [iterate]
  | succ turns ih =>
    intro read member
    rcases List.mem_cons.mp member with rfl | member
    · rw [deref, if_pos rfl, readAt_defined_iff]
      omega
    · refine @ih { it with ptr := it.ptr + 8 } ?_ read member
      change it.ptr + 8 + 8 * turns ≤ bytes.length
      omega

structure AtValue (it : WrappedIterator) (start width index : ℕ) : Prop where
  place : it.index = index
  mode : it.isBlockMode = false
  inner : it.offset < 8
  position : 8 * it.ptr + it.offset = 8 * start + (index + 1) * width

theorem loadOne_spec {it : WrappedIterator} {index : ℕ} (mode : it.isBlockMode = false)
    (sameIndex : it.index = index) (inner : it.offset < 8)
    (position : 8 * it.ptr + it.offset = 8 * start + index * width)
    (room : 8 * start + (index + 1) * width ≤ 8 * bytes.length)
    (solid : width = 0 → start < bytes.length) :
    ∃ next, it.loadOne bytes width = .ok next ∧ AtValue next start width index := by
  have expand : (index + 1) * width = index * width + width := by ring
  have enough : 8 * it.ptr + it.offset + max 1 width ≤ 8 * bytes.length := by
    by_cases zero : width = 0
    · have := solid zero
      rw [zero] at position ⊢
      omega
    · rw [max_eq_right (by omega)]
      omega
  obtain ⟨value, ptr, offset, run, laneInner, moved⟩ := unpackBits_moves inner enough
  have loaded : it.loadOne bytes width = .ok { it with
      ptr := ptr
      offset := offset
      buffer := it.buffer.set 0 ((value + it.previous) % 2 ^ 64)
      previous := (value + it.previous) % 2 ^ 64 } := by
    rw [loadOne, run]
    rfl
  refine ⟨_, loaded, sameIndex, mode, laneInner, ?_⟩
  rw [moved, position, expand]
  omega

theorem values_defined (other : width ≠ 64) (turns : ℕ) {it : WrappedIterator} {index : ℕ}
    (here : AtValue it start width index) (left : index + turns = count)
    (room : 8 * start + count * width ≤ 8 * bytes.length) (solid : width = 0 → start < bytes.length) :
    ∀ read ∈ iterate bytes width count turns (.ok it), Defined read := by
  induction turns generalizing it index with
  | zero => simp [iterate]
  | succ turns ih =>
    intro read member
    rcases List.mem_cons.mp member with rfl | member
    · rw [deref, if_neg other]
      exact defined_ok _
    · by_cases more : index + 1 < count
      · have step : (index + 1 + 1) * width ≤ count * width := Nat.mul_le_mul_right _ more
        obtain ⟨next, run, there⟩ := @loadOne_spec bytes start width
          { it with index := it.index + 1 } (index + 1) here.mode (congrArg (· + 1) here.place)
          here.inner here.position
          (by omega) solid
        have advanced : it.next bytes width count = .ok next := by
          rw [WrappedIterator.next, if_neg other, ← run]
          simp [here.place, more, here.mode]
        rw [advanced] at member
        exact ih there (by omega) read member
      · have last : turns = 0 := by omega
        subst last
        cases member

structure InBlock (it : WrappedIterator) (start width index : ℕ) : Prop where
  place : it.index = index
  mode : it.isBlockMode = true
  bufI : it.bufI = index % 8
  offset : it.offset = 0
  ptr : it.ptr = start + (index / 8 + 1) * width
  eight : it.buffer.length = 8
  small : ∀ value ∈ it.buffer, value < 2 ^ 64

theorem undoDeltas_length (previous : ℕ) (deltas : List ℕ) :
    (undoDeltas previous deltas).length = deltas.length := by
  induction deltas generalizing previous with
  | nil => rfl
  | cons delta rest ih => simp [undoDeltas, ih]

theorem undoDeltas_lt (previous : ℕ) (deltas : List ℕ) :
    ∀ entry ∈ undoDeltas previous deltas, entry < 2 ^ 64 := by
  induction deltas generalizing previous with
  | nil => simp [undoDeltas]
  | cons delta rest ih =>
    intro entry member
    rcases List.mem_cons.mp member with rfl | member
    · exact Nat.mod_lt _ (by decide)
    · exact ih _ entry member

theorem loadBlock_spec {it : WrappedIterator} {block : ℕ} (positive : 0 < width)
    (narrow : width < 64) (mode : it.isBlockMode = true) (place : it.index = 8 * block)
    (bufI : it.bufI = 0) (offset : it.offset = 0) (ptr : it.ptr = start + block * width)
    (eight : it.buffer.length = 8) (small : ∀ value ∈ it.buffer, value < 2 ^ 64) :
    (Defined (it.loadBlock bytes width) ↔ start + (block + 1) * width ≤ bytes.length) ∧
      (start + (block + 1) * width ≤ bytes.length →
        ∃ next, it.loadBlock bytes width = .ok next ∧ InBlock next start width (8 * block)) := by
  have expand : (block + 1) * width = block * width + width := by ring
  have reads := @unpackBitsBlock8_defined_iff bytes it.ptr _ _ positive narrow eight small
  refine ⟨?_, fun inside => ?_⟩
  · rw [loadBlock, defined_bind_iff, reads]
    exact ⟨fun defined => by omega, fun inside => ⟨by omega, fun _ _ => defined_ok _⟩⟩
  · obtain ⟨values, unpacked, length⟩ : ∃ values,
        unpackBitsBlock8 it.buffer bytes it.ptr width = .ok values ∧ values.length = 8 :=
      ⟨_, unpackBitsBlock8_spec positive narrow (by omega) eight small, by simp⟩
    have loaded : it.loadBlock bytes width = .ok { it with
        ptr := it.ptr + width
        buffer := undoDeltas it.previous values
        previous := (undoDeltas it.previous values).getLastD it.previous } := by
      rw [loadBlock, unpacked]
      rfl
    refine ⟨_, loaded, place, mode, ?_, offset, ?_, ?_, undoDeltas_lt _ _⟩
    · change it.bufI = _
      omega
    · change it.ptr + width = _
      rw [Nat.mul_div_cancel_left _ (by decide), ptr, expand, Nat.add_assoc]
    · exact (undoDeltas_length _ _).trans length

/-- The sum of 32-bit words in `operator++` wraps for the last block of the largest
counts, and a whole block is read where fewer values are left. -/
def Overruns (bytes : List UInt8) (start width count : ℕ) : Prop :=
  2 ^ 32 - 8 < count ∧ bytes.length < start + 2 ^ 29 * width

theorem next_within {it : WrappedIterator} {index : ℕ} (other : width ≠ 64)
    (here : InBlock it start width index) (more : index + 1 < count) (within : (index + 1) % 8 ≠ 0) :
    ∃ next, it.next bytes width count = .ok next ∧ InBlock next start width (index + 1) := by
  have inner : it.bufI + 1 ≠ 8 := by
    rw [here.bufI]
    omega
  have advanced : it.next bytes width count =
      .ok { it with index := it.index + 1, bufI := it.bufI + 1 } := by
    have below : it.index + 1 < count := by rwa [here.place]
    simp only [WrappedIterator.next, other, below, here.mode, inner, if_true, if_false]
    rfl
  refine ⟨_, advanced, congrArg (· + 1) here.place, here.mode, ?_, here.offset, ?_, here.eight, here.small⟩
  · change it.bufI + 1 = _
    rw [here.bufI]
    omega
  · change it.ptr = _
    have same : (index + 1) / 8 = index / 8 := by omega
    rw [here.ptr, same]

theorem next_across {it : WrappedIterator} {index : ℕ} (other : width ≠ 64)
    (here : InBlock it start width index) (more : index + 1 < count) (across : (index + 1) % 8 = 0) :
    it.next bytes width count = if wrap32 (index + 1 + 8) < count then
        loadBlock bytes width { it with index := index + 1, bufI := 0 }
      else loadOne bytes width { it with index := index + 1, bufI := 0, isBlockMode := false } := by
  have full : it.bufI + 1 = 8 := by
    rw [here.bufI]
    omega
  simp only [WrappedIterator.next, other, here.place, more, here.mode, full, if_true, if_false]

theorem iterate_head {turns : ℕ} {run : Run WrappedIterator}
    (all : ∀ read ∈ iterate bytes width count (turns + 1) run, Defined read) : Defined run := by
  cases run with
  | error exit =>
    have first := all (.error exit) (by simp [iterate])
    exact defined_error_iff.mpr (defined_error_iff.mp first)
  | ok it => exact defined_ok _

theorem blocks_defined_iff (positive : 0 < width) (narrow : width < 64) (word : count < 2 ^ 32)
    (room : 8 * start + count * width ≤ 8 * bytes.length) (turns : ℕ) {it : WrappedIterator}
    {index : ℕ} (here : InBlock it start width index) (left : index + (turns + 1) = count) :
    (∀ read ∈ iterate bytes width count (turns + 1) (.ok it), Defined read) ↔
      (Overruns bytes start width count → 2 ^ 32 - 8 ≤ index) := by
  have other : width ≠ 64 := by omega
  have first : Defined (it.deref bytes width) := by
    rw [deref, if_neg other]
    exact defined_ok _
  have rest : (∀ read ∈ iterate bytes width count (turns + 1) (.ok it), Defined read) ↔
      ∀ read ∈ iterate bytes width count turns (it.next bytes width count), Defined read := by
    rw [iterate, List.forall_mem_cons]
    exact and_iff_right first
  rw [rest]
  clear rest first
  unfold Overruns
  induction turns generalizing it index with
  | zero =>
    refine ⟨fun _ overruns => by omega, fun _ read member => ?_⟩
    cases member
  | succ turns ih =>
    have more : index + 1 < count := by omega
    -- The turns after the next one.
    have later : ∀ next, InBlock next start width (index + 1) →
        ((∀ read ∈ iterate bytes width count (turns + 1) (.ok next), Defined read) ↔
          (2 ^ 32 - 8 < count ∧ bytes.length < start + 2 ^ 29 * width → 2 ^ 32 - 8 ≤ index + 1)) := by
      intro next there
      have tail := ih there (by omega)
      have first : Defined (next.deref bytes width) := by
        rw [deref, if_neg other]
        exact defined_ok _
      rw [iterate, List.forall_mem_cons, and_iff_right first]
      exact tail
    by_cases within : (index + 1) % 8 = 0
    · rw [next_across other here more within]
      have block : index + 1 = 8 * (index / 8 + 1) := by omega
      split_ifs with whole
      · obtain ⟨reads, loads⟩ := @loadBlock_spec bytes start width
          { it with index := index + 1, bufI := 0 } (index / 8 + 1) positive narrow here.mode block rfl
          here.offset here.ptr here.eight here.small
        by_cases inside : start + (index / 8 + 1 + 1) * width ≤ bytes.length
        · obtain ⟨next, run, there⟩ := loads inside
          rw [← block] at there
          rw [run, later next there]
          refine ⟨fun calm overruns => ?_, fun calm overruns => Nat.le_succ_of_le (calm overruns)⟩
          -- The last block was read, so it is inside.
          have late := calm overruns
          by_contra early
          have last : index / 8 + 1 + 1 = 2 ^ 29 := by omega
          rw [last] at inside
          omega
        · -- Only the wrapped sum asks for a block that is not there.
          have last : index + 1 = 2 ^ 32 - 8 ∧ 2 ^ 32 - 8 < count := by
            by_contra regular
            rw [wrap32] at whole
            have sum : (index + 1 + 8) % 2 ^ 32 = index + 1 + 8 := by omega
            have fits : (8 * (index / 8 + 1 + 1)) * width ≤ count * width :=
              Nat.mul_le_mul_right _ (by omega)
            have regroup : (8 * (index / 8 + 1 + 1)) * width = 8 * ((index / 8 + 1 + 1) * width) := by
              ring
            omega
          have blocks : index / 8 + 1 + 1 = 2 ^ 29 := by omega
          rw [blocks] at inside reads
          refine ⟨fun all => absurd (reads.mp (iterate_head all)) inside, fun calm => ?_⟩
          have late := calm ⟨last.2, by omega⟩
          omega
      · rw [wrap32] at whole
        have step : (index + 1 + 1) * width ≤ count * width := Nat.mul_le_mul_right _ more
        have start_eq : 8 * it.ptr + it.offset = 8 * start + (index + 1) * width := by
          rw [here.ptr, here.offset, block]
          ring
        obtain ⟨next, run, there⟩ := @loadOne_spec bytes start width
          { it with index := index + 1, bufI := 0, isBlockMode := false } (index + 1) rfl rfl
          (by rw [here.offset]; decide) start_eq (by omega) (fun zero => absurd zero (by omega))
        rw [run]
        refine ⟨fun _ overruns => by omega, fun _ => ?_⟩
        exact values_defined other (turns + 1) there (by omega) room fun zero => absurd zero (by omega)
    · obtain ⟨next, run, there⟩ := @next_within bytes _ _ _ _ _ other here more within
      rw [run, later next there]
      omega

end WrappedIterator

/-- Iterating over accepted bytes stays inside them, apart from the two exceptions. -/
theorem view_defined_iff {data : CompactThetaSketchData} (inside : data.Inside bytes)
    (word : data.numEntries < 2 ^ 32) :
    (∀ read ∈ (data.view bytes).entries, Defined read) ↔ ¬ data.Hollow bytes ∧
      ¬ (0 < data.entryBits ∧ data.entryBits < 64 ∧
        WrappedIterator.Overruns bytes (data.entriesStart.getD 0) data.entryBits data.numEntries) := by
  obtain ⟨start, isStart⟩ : ∃ start, start = data.entriesStart.getD 0 := ⟨_, rfl⟩
  unfold CompactThetaSketchData.Inside CompactThetaSketchData.size at inside
  unfold CompactThetaSketchData.Hollow WrappedIterator.Overruns
  simp only [CompactThetaSketchData.view, ← isStart] at inside ⊢
  generalize data.entryBits = width at inside ⊢
  generalize data.numEntries = count at inside word ⊢
  have begins : WrappedIterator.begin bytes start width count =
      if width = 64 then .ok ⟨start, 0, 0, decide (8 ≤ count), 0, 0, List.replicate 8 0⟩
      else if 0 < count then
        if decide (8 ≤ count) then
          WrappedIterator.loadBlock bytes width ⟨start, 0, 0, decide (8 ≤ count), 0, 0, List.replicate 8 0⟩
        else WrappedIterator.loadOne bytes width ⟨start, 0, 0, decide (8 ≤ count), 0, 0, List.replicate 8 0⟩
      else .ok ⟨start, 0, 0, decide (8 ≤ count), 0, 0, List.replicate 8 0⟩ := rfl
  rw [begins]
  clear begins
  by_cases words : width = 64
  · subst words
    rw [if_pos rfl]
    refine ⟨fun _ => by omega, fun _ => WrappedIterator.words_defined _ ?_⟩
    rwa [if_pos rfl] at inside
  rw [if_neg words] at inside ⊢
  have enough := (wholeBytesToHoldBits_spec (width * count)).1
  have room : 8 * start + count * width ≤ 8 * bytes.length := by
    rw [Nat.mul_comm count]
    omega
  cases count with
  | zero => simp [WrappedIterator.iterate]
  | succ turns =>
    rw [if_pos (Nat.succ_pos _)]
    by_cases short : turns + 1 < 8
    · have mode : decide (8 ≤ turns + 1) = false := decide_eq_false (by omega)
      rw [mode, if_neg (by decide)]
      by_cases hollow : width = 0 ∧ bytes.length ≤ start
      · -- The first value is looked for after the last byte.
        refine ⟨fun all => ?_, fun solid => absurd ⟨hollow.1, Nat.succ_pos _, short, hollow.2⟩ solid.1⟩
        have defined := WrappedIterator.iterate_head all
        rw [WrappedIterator.loadOne, defined_bind_iff,
          unpackBits_defined_iff (show 0 < 8 by decide)] at defined
        dsimp only at defined
        omega
      · have first : (0 + 1) * width ≤ (turns + 1) * width := Nat.mul_le_mul_right _ (by omega)
        obtain ⟨next, run, there⟩ := @WrappedIterator.loadOne_spec bytes start
          width ⟨start, 0, 0, false, 0, 0, List.replicate 8 0⟩ 0 rfl rfl
          (show 0 < 8 by decide) (by rw [Nat.zero_mul]) (by omega) (fun zero => by omega)
        rw [run]
        refine ⟨fun _ => by omega, fun _ => ?_⟩
        exact WrappedIterator.values_defined words (turns + 1) there (by omega) room fun zero => by omega
    · have mode : decide (8 ≤ turns + 1) = true := decide_eq_true (by omega)
      rw [mode, if_pos rfl]
      by_cases other : width = 0 ∨ 63 < width
      · have refused : WrappedIterator.loadBlock bytes width
            ⟨start, 0, 0, true, 0, 0, List.replicate 8 0⟩ =
              .error (.logicErr ("wrong number of bits " ++ toString width)) := by
          rw [WrappedIterator.loadBlock, unpackBitsBlock8_other other]
          rfl
        rw [refused]
        refine ⟨fun _ => by omega, fun _ read member => ?_⟩
        rw [WrappedIterator.iterate, List.mem_singleton] at member
        rw [member]
        exact defined_error_iff.mpr (by rintro what ⟨⟩)
      · have fits : 8 * width ≤ (turns + 1) * width := Nat.mul_le_mul_right _ (by omega)
        obtain ⟨_, loads⟩ := @WrappedIterator.loadBlock_spec bytes start
          width ⟨start, 0, 0, true, 0, 0, List.replicate 8 0⟩ 0 (by omega) (by omega) rfl rfl rfl rfl
          (by rw [Nat.zero_mul]; rfl) rfl (zeros_small 8)
        obtain ⟨next, run, there⟩ := loads (by omega)
        rw [run, WrappedIterator.blocks_defined_iff (by omega) (by omega) word room turns there
          (by omega)]
        unfold WrappedIterator.Overruns
        omega

/-! What the parser's checks amount to. -/

/-- No sum or product that measures the entries wraps, and version 4 has no entries
of no bits behind the last byte. -/
def CountFits (bytes : List UInt8) : Prop :=
  (word bytes 1 1 ≠ 4 → DeclaresWords bytes → (wordsStart bytes + word bytes 8 4) * 8 < 2 ^ 32) ∧
  (word bytes 1 1 = 4 →
    (word bytes 3 1 * packedCount bytes < 2 ^ 32 ∨
      packedStart bytes + wholeBytesToHoldBits (word bytes 3 1 * packedCount bytes) ≤ bytes.length) ∧
    ¬ (word bytes 3 1 = 0 ∧ 0 < packedCount bytes ∧ packedCount bytes < 8 ∧
      bytes.length ≤ packedStart bytes) ∧
    ¬ (0 < word bytes 3 1 ∧ word bytes 3 1 < 64 ∧
      WrappedIterator.Overruns bytes (packedStart bytes) (word bytes 3 1) (packedCount bytes)))

/-- All entries lie inside the bytes, and so do the reads of both readers. -/
structure EntriesInside (bytes : List UInt8) (seed : UInt64) (data : CompactThetaSketchData) : Prop where
  region : data.Inside bytes
  deserialize : Defined (CompactSketch.deserialize bytes seed)
  view : ∀ read ∈ (data.view bytes).entries, Defined read

theorem numEntries_lt {data : CompactThetaSketchData} (accepted : Accepted bytes data) :
    data.numEntries < 2 ^ 32 := by
  cases accepted with
  | empty => exact Nat.two_pow_pos 32
  | single => exact Nat.one_lt_two_pow (by decide)
  | words => exact word_lt bytes 8 4
  | packed _ _ _ few =>
    refine (word_lt bytes (countStart bytes) (word bytes 4 1)).trans_le ?_
    exact (Nat.pow_le_pow_right (by decide) few).trans (by decide)

theorem entriesInside_iff_data {seed : UInt64} {data : CompactThetaSketchData}
    (parsed : parse bytes seed false = .ok data) :
    EntriesInside bytes seed data ↔ data.Inside bytes ∧ ¬ data.Hollow bytes ∧
      ¬ (0 < data.entryBits ∧ data.entryBits < 64 ∧
        WrappedIterator.Overruns bytes (data.entriesStart.getD 0) data.entryBits data.numEntries) := by
  have word := numEntries_lt (parse_accepted parsed)
  constructor
  · intro entries
    exact ⟨entries.region, (view_defined_iff entries.region word).mp entries.view⟩
  · rintro ⟨region, solid, calm⟩
    exact ⟨region, (deserialize_defined_iff parsed region).mpr solid,
      (view_defined_iff region word).mpr ⟨solid, calm⟩⟩

/-- What was accepted lies inside exactly when its count fits. -/
theorem entriesInside_iff {seed : UInt64} {dumpOnError : Bool} {data : CompactThetaSketchData}
    (short : bytes.length < 2 ^ 32) (parsed : parse bytes seed dumpOnError = .ok data) :
    EntriesInside bytes seed data ↔ CountFits bytes := by
  rw [entriesInside_iff_data (parse_dump parsed)]
  unfold CountFits CompactThetaSketchData.Inside CompactThetaSketchData.Hollow CompactThetaSketchData.size
  -- One case for each way in which the parser accepts.
  cases parse_accepted parsed with
  | empty hash version small =>
    refine ⟨fun _ => ⟨fun _ declared => ?_, fun four => absurd four version⟩, fun _ => ?_⟩
    · obtain ⟨none, start⟩ := small declared
      omega
    · simp
  | single hash theta version other enough =>
    refine ⟨fun _ => ⟨fun _ declared => absurd declared other, fun four => absurd four version⟩,
      fun _ => ?_⟩
    simp [enough]
  | words hash theta ordered version declared low enough =>
    simp only [Option.getD_some, if_true]
    rw [wrap32] at enough
    constructor
    · rintro ⟨region, _⟩
      exact ⟨fun _ _ => by omega, fun four => absurd four version⟩
    · rintro ⟨fits, _⟩
      have small := fits version declared
      rw [Nat.mod_eq_of_lt small] at enough
      exact ⟨by omega, by omega, by omega⟩
  | packed hash theta version few inside enough =>
    simp only [Option.getD_some]
    -- At 64 bits the bytes of the packed entries are those of words.
    have size : (if word bytes 3 1 = 64 then 8 * packedCount bytes
        else wholeBytesToHoldBits (word bytes 3 1 * packedCount bytes)) =
        wholeBytesToHoldBits (word bytes 3 1 * packedCount bytes) := by
      split_ifs with whole
      · have exact_bits := wholeBytesToHoldBits_spec (word bytes 3 1 * packedCount bytes)
        rw [whole] at exact_bits ⊢
        omega
      · rfl
    have start : packedStart bytes ≤ 20 := by
      unfold packedStart countStart
      split_ifs <;> omega
    -- Unless the product wraps around, the parser checked this size itself.
    have region : word bytes 3 1 * packedCount bytes < 2 ^ 32 →
        packedStart bytes + wholeBytesToHoldBits (word bytes 3 1 * packedCount bytes) ≤ bytes.length := by
      intro fits
      have few_bytes := wholeBytesToHoldBits_spec (word bytes 3 1 * packedCount bytes)
      have sum : wrap32 (packedStart bytes +
          wholeBytesToHoldBits (wrap32 (word bytes 3 1 * packedCount bytes))) =
          packedStart bytes + wholeBytesToHoldBits (word bytes 3 1 * packedCount bytes) := by
        have product : wrap32 (word bytes 3 1 * packedCount bytes) =
            word bytes 3 1 * packedCount bytes := Nat.mod_eq_of_lt fits
        rw [product, wrap32]
        omega
      rwa [sum] at enough
    rw [size]
    constructor
    · rintro ⟨inside, solid, calm⟩
      exact ⟨fun other => absurd version other, fun _ => ⟨.inr inside, solid, calm⟩⟩
    · rintro ⟨_, fits⟩
      obtain ⟨bits, solid, calm⟩ := fits version
      exact ⟨bits.elim region id, solid, calm⟩

theorem packed_pair_inside : EntriesInside [1, 4, 3, 8, 1, 26, 204, 147, 2, 5, 9] defaultSeed
    ⟨false, true, 37836, 2, maxTheta, some 9, 8⟩ := by
  have parsed : parse [1, 4, 3, 8, 1, 26, 204, 147, 2, 5, 9] defaultSeed false =
      .ok ⟨false, true, 37836, 2, maxTheta, some 9, 8⟩ := by decide +kernel
  refine (entriesInside_iff (by decide) parsed).mpr ⟨fun other => absurd (by decide) other,
    fun _ => ⟨.inl (by decide +kernel), by decide +kernel, fun overruns => ?_⟩⟩
  have many := overruns.2.2.1
  revert many
  decide +kernel

/-- A version 4 blob of 12 bytes that announces 2^27 entries of 32 bits: their
number of bits wraps to zero. -/
theorem wrapped_count_outside : ∃ data,
    parse [1, 4, 3, 32, 4, 0, 204, 147, 0, 0, 0, 8] defaultSeed false = .ok data ∧
      ¬ EntriesInside [1, 4, 3, 32, 4, 0, 204, 147, 0, 0, 0, 8] defaultSeed data := by
  refine ⟨⟨false, true, 37836, 2 ^ 27, maxTheta, some 12, 32⟩, by decide +kernel, fun entries => ?_⟩
  have region := entries.region
  revert region
  decide +kernel

end ThetaSketch
