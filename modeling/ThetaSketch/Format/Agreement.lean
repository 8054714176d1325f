import ThetaSketch.Format.Readers

/-! What a caller sees of a sketch that is read in either way. -/

set_option autoImplicit false

namespace ThetaSketch

open LittleEndian BitStream CompactThetaSketchParser

structure Reading where
  isEmpty : Bool
  seedHash : ℕ
  theta : ℕ
  numEntries : ℕ
  entries : List ℕ
  deriving DecidableEq, Repr

def SketchView.read (view : SketchView) : Run Reading := do
  let entries ← readAll view.entries
  return ⟨view.isEmpty, view.seedHash, view.theta, view.numRetained, entries⟩

def readWrapped (bytes : List UInt8) (seed : UInt64) (dumpOnError : Bool) : Run Reading := do
  let view ← wrap bytes seed dumpOnError
  view.read

def readCopied (bytes : List UInt8) (seed : UInt64) : Run Reading := do
  let sketch ← CompactSketch.deserialize bytes seed
  sketch.view.read

def Exits {A : Type} (run : Run A) : Prop := ∃ exit, run = .error exit ∧ ∀ what, exit ≠ .undefined what

/-- Both readers take an exit, or both yield the same. -/
def ReadersAgree (bytes : List UInt8) (seed : UInt64) (dumpOnError : Bool) : Prop :=
  Exits (readWrapped bytes seed dumpOnError) ∧ Exits (readCopied bytes seed) ∨
    ∃ reading, readWrapped bytes seed dumpOnError = .ok reading ∧ readCopied bytes seed = .ok reading

section Exits

variable {A B : Type} {run : Run A}

theorem Exits.defined (exits : Exits run) : Defined run := by
  obtain ⟨exit, rfl, own⟩ := exits
  exact defined_error_iff.mpr own

theorem Exits.bind (exits : Exits run) (next : A → Run B) : Exits (run >>= next) := by
  obtain ⟨exit, rfl, own⟩ := exits
  exact ⟨exit, rfl, own⟩

theorem not_exits_ok (value : A) : ¬ Exits (.ok value : Run A) := by
  rintro ⟨exit, ⟨⟩, _⟩

theorem not_exits_bind {next : A → Run B} (first : ¬ Exits run) (later : ∀ value, ¬ Exits (next value)) :
    ¬ Exits (run >>= next) := by
  cases run with
  | ok value => exact later value
  | error exit =>
    rintro ⟨other, same, own⟩
    cases same
    exact first ⟨exit, rfl, own⟩

end Exits

/-! Where the routine of a block exists, reading entries takes no exit. -/

section Reads

variable {bytes : List UInt8} {width count : ℕ}

theorem not_exits_readAt (offset size : ℕ) : ¬ Exits (readAt bytes offset size) := by
  unfold readAt
  cases read bytes offset size with
  | some value => exact not_exits_ok value
  | none =>
    rintro ⟨exit, same, own⟩
    cases same
    exact own _ rfl

theorem not_exits_unpackWhole (offset whole bits value ptr : ℕ) :
    ¬ Exits (unpackWhole bytes offset whole bits value ptr) := by
  induction whole generalizing bits value ptr with
  | zero =>
    unfold unpackWhole
    split_ifs
    · exact not_exits_bind (not_exits_readAt _ _) fun _ => not_exits_ok _
    · exact not_exits_ok _
  | succ whole ih => exact not_exits_bind (not_exits_readAt _ _) fun _ => ih _ _ _

theorem not_exits_unpackBits (bits ptr offset : ℕ) : ¬ Exits (unpackBits bytes bits ptr offset) :=
  not_exits_bind (not_exits_readAt _ _) fun _ => not_exits_unpackWhole _ _ _ _ _

theorem not_exits_runUnpack (ops : List UnpackOp) (ptr : ℕ) (values : List ℕ) :
    ¬ Exits (runUnpack bytes ops ptr values) := by
  induction ops generalizing ptr values with
  | nil => exact not_exits_ok _
  | cons op rest ih => exact not_exits_bind (not_exits_readAt _ _) fun _ => ih _ _

theorem not_exits_unpackBitsBlock8 (positive : 0 < width) (narrow : width < 64) (values : List ℕ)
    (ptr : ℕ) : ¬ Exits (unpackBitsBlock8 values bytes ptr width) := by
  obtain ⟨ops, found, _⟩ := unpackBlockOps_trace width narrow positive
  rw [unpackBitsBlock8, found]
  exact not_exits_runUnpack _ _ _

namespace WrappedIterator

theorem not_exits_loadBlock (positive : 0 < width) (narrow : width < 64) (it : WrappedIterator) :
    ¬ Exits (it.loadBlock bytes width) :=
  not_exits_bind (not_exits_unpackBitsBlock8 positive narrow _ _) fun _ => not_exits_ok _

theorem not_exits_loadOne (it : WrappedIterator) : ¬ Exits (it.loadOne bytes width) :=
  not_exits_bind (not_exits_unpackBits _ _ _) fun _ => not_exits_ok _

theorem not_exits_begin (positive : 0 < width) (narrow : width < 64) (start : ℕ) :
    ¬ Exits (begin bytes start width count) := by
  unfold WrappedIterator.begin
  dsimp only
  split_ifs
  · exact not_exits_ok _
  · exact not_exits_loadBlock positive narrow _
  · exact not_exits_loadOne _
  · exact not_exits_ok _

theorem not_exits_next (positive : 0 < width) (narrow : width < 64) (it : WrappedIterator) :
    ¬ Exits (it.next bytes width count) := by
  unfold WrappedIterator.next
  dsimp only
  split_ifs
  · exact not_exits_ok _
  · exact not_exits_loadBlock positive narrow _
  · exact not_exits_loadOne _
  · exact not_exits_ok _
  · exact not_exits_loadOne _
  · exact not_exits_ok _

theorem not_exits_readAll (positive : 0 < width) (narrow : width < 64) (turns : ℕ)
    {it : Run WrappedIterator} (going : ¬ Exits it) :
    ¬ Exits (readAll (iterate bytes width count turns it)) := by
  induction turns generalizing it with
  | zero => exact not_exits_ok _
  | succ turns ih =>
    cases it with
    | error exit =>
      rintro ⟨other, same, own⟩
      cases same
      exact going ⟨exit, rfl, own⟩
    | ok it =>
      have entry : ¬ Exits (it.deref bytes width) := by
        unfold deref
        split_ifs
        · exact not_exits_readAt _ _
        · exact not_exits_ok _
      exact not_exits_bind entry fun _ =>
        not_exits_bind (ih (not_exits_next positive narrow it)) fun _ => not_exits_ok _

end WrappedIterator

end Reads

/-! What accepted bytes announce. -/

/-- The entry at a place: a word, or the sum of the deltas up to it. -/
def storedEntry (bytes : List UInt8) (start width count index : ℕ) : ℕ :=
  if width = 64 then word bytes (start + 8 * index) 8
  else ((copiedFields bytes start width count).take (index + 1)).sum % 2 ^ 64

namespace CompactThetaSketchData

/-- Blocks of the version 4 width have no routine, and both readers say so. -/
def Refused (data : CompactThetaSketchData) : Prop :=
  8 ≤ data.numEntries ∧ (data.entryBits = 0 ∨ 64 < data.entryBits)

def Roomy (data : CompactThetaSketchData) : Prop := data.entryBits = 64 ∨ data.numEntries < 2 ^ 29

def stored (data : CompactThetaSketchData) (bytes : List UInt8) : List ℕ :=
  storedEntries bytes (data.entriesStart.getD 0) data.entryBits data.numEntries

/-- The block routine makes no slip on a full block at the end. -/
def LastBlockFits (data : CompactThetaSketchData) (bytes : List UInt8) : Prop :=
  16 ≤ data.numEntries → data.numEntries % 8 = 0 →
    SlipsClear bytes (data.entriesStart.getD 0 + (data.numEntries / 8 - 1) * data.entryBits)
      data.entryBits

/-- No entry is zero, which only one of the iterators skips. -/
def NoZeros (data : CompactThetaSketchData) (bytes : List UInt8) : Prop :=
  ∀ index < data.numEntries,
    storedEntry bytes (data.entriesStart.getD 0) data.entryBits data.numEntries index ≠ 0

end CompactThetaSketchData

theorem undoDeltas_eq_sums (previous : ℕ) (deltas : List ℕ) : undoDeltas previous deltas =
    (List.range deltas.length).map fun index => (previous + (deltas.take (index + 1)).sum) % 2 ^ 64 := by
  induction deltas generalizing previous with
  | nil => rfl
  | cons delta rest ih =>
    have shift : ∀ sum, ((delta + previous) % 2 ^ 64 + sum) % 2 ^ 64 = (previous + (delta + sum)) % 2 ^ 64 := by
      intro sum
      rw [Nat.mod_add_mod, Nat.add_comm delta, Nat.add_assoc]
    have first : (delta + previous) % 2 ^ 64 = (previous + (delta + 0)) % 2 ^ 64 := by
      rw [Nat.add_zero, Nat.add_comm]
    simp only [undoDeltas, ih, List.length_cons, List.range_succ_eq_map, List.map_cons, List.map_map,
      Function.comp_def, Nat.succ_eq_add_one, List.take_succ_cons, List.take_zero, List.sum_cons,
      List.sum_nil, shift]
    rw [first]

theorem storedWords_eq_map (bytes : List UInt8) (count start : ℕ) : storedWords bytes count start =
    (List.range count).map fun index => word bytes (start + 8 * index) 8 := by
  induction count generalizing start with
  | zero => rfl
  | succ count ih =>
    have next : ∀ index, start + 8 * (index + 1) = start + 8 + 8 * index := fun index => by ring
    simp only [storedWords, ih, List.range_succ_eq_map, List.map_cons, List.map_map, Function.comp_def,
      Nat.mul_zero, Nat.add_zero, Nat.succ_eq_add_one, next]

theorem storedEntries_eq_map (bytes : List UInt8) (start width count : ℕ) :
    storedEntries bytes start width count =
      (List.range count).map (storedEntry bytes start width count) := by
  have length := length_storedEntries bytes start width count
  unfold storedEntry
  unfold storedEntries at length ⊢
  split_ifs at length ⊢
  · exact storedWords_eq_map _ _ _
  · rw [WrappedIterator.undoDeltas_length] at length
    rw [undoDeltas_eq_sums, length]
    simp only [Nat.zero_add]

theorem keyNotZero_eq_self_iff {entries : List ℕ} :
    keyNotZero entries = entries ↔ ∀ entry ∈ entries, entry ≠ 0 := by
  simp [keyNotZero, List.filter_eq_self]

theorem CompactThetaSketchData.noZeros_iff {data : CompactThetaSketchData} {bytes : List UInt8} :
    data.NoZeros bytes ↔ keyNotZero (data.stored bytes) = data.stored bytes := by
  rw [keyNotZero_eq_self_iff, stored, storedEntries_eq_map]
  simp only [List.forall_mem_map, List.mem_range]
  rfl

section Readers

variable {bytes : List UInt8} {seed : UInt64} {dumpOnError : Bool} {data : CompactThetaSketchData}

theorem readAll_map_ok (entries : List ℕ) : readAll (entries.map .ok) = .ok entries := by
  induction entries with
  | nil => rfl
  | cons entry rest ih =>
    rw [List.map_cons, readAll, Run.ok_bind, ih]
    rfl

theorem WrappedIterator.length_iterate {width count : ℕ} (turns : ℕ) {it : Run WrappedIterator} {entries : List ℕ}
    (reads : iterate bytes width count turns it = entries.map .ok) : entries.length = turns := by
  induction turns generalizing it entries with
  | zero => exact List.map_eq_nil_iff.mp reads.symm ▸ rfl
  | succ turns ih =>
    cases entries with
    | nil => cases it <;> cases reads
    | cons entry rest =>
      cases it with
      | error exit => cases reads
      | ok it => rw [List.length_cons, ih (List.cons.inj reads).2]

theorem readCopied_eq (parsed : parse bytes seed false = .ok data) : readCopied bytes seed =
    (do let entries ← copyEntries bytes (data.entriesStart.getD 0) data.entryBits data.numEntries
        return ⟨data.isEmpty, data.seedHash, data.theta, entries.length, keyNotZero entries⟩) := by
  rw [readCopied, deserialize_eq parsed, bind_assoc]
  refine bind_congr fun entries => ?_
  rw [pure_bind, SketchView.read, CompactSketch.view, readAll_map_ok]
  rfl

theorem readWrapped_eq (parsed : parse bytes seed false = .ok data) :
    readWrapped bytes seed dumpOnError = (do
      let entries ← readAll (data.view bytes).entries
      return ⟨data.isEmpty, data.seedHash, data.theta, data.numEntries, entries⟩) := by
  rw [readWrapped, wrap, parse_dump parsed]
  rfl

theorem refused_exits (refused : data.Refused) (parsed : parse bytes seed false = .ok data) :
    ReadersAgree bytes seed dumpOnError := by
  obtain ⟨many, width⟩ := refused
  have other : data.entryBits ≠ 64 := by omega
  obtain ⟨more, isMore⟩ : ∃ more, data.numEntries / 8 = more + 1 := ⟨data.numEntries / 8 - 1, by omega⟩
  obtain ⟨turns, isTurns⟩ : ∃ turns, data.numEntries = turns + 1 := ⟨data.numEntries - 1, by omega⟩
  -- There is no routine for such a width, and both readers call it first.
  have none : ∀ values base, Exits (unpackBitsBlock8 values bytes base data.entryBits) := by
    intro values base
    rw [unpackBitsBlock8_other (by omega)]
    exact ⟨_, rfl, by rintro what ⟨⟩⟩
  left
  constructor
  · rw [readWrapped_eq parsed]
    refine Exits.bind ?_ _
    have begins : WrappedIterator.begin bytes (data.entriesStart.getD 0) data.entryBits data.numEntries =
        WrappedIterator.loadBlock bytes data.entryBits
          ⟨data.entriesStart.getD 0, 0, 0, true, 0, 0, List.replicate 8 0⟩ := by
      have some : 0 < data.numEntries := by omega
      simp [WrappedIterator.begin, other, some, many]
    obtain ⟨exit, fails, own⟩ := none (List.replicate 8 0) (data.entriesStart.getD 0)
    refine ⟨exit, ?_, own⟩
    rw [CompactThetaSketchData.view]
    dsimp only
    rw [begins, isTurns, WrappedIterator.loadBlock]
    dsimp only
    rw [fails]
    rfl
  · rw [readCopied_eq parsed]
    refine Exits.bind ?_ _
    rw [copyEntries, if_neg other, isMore, unpackBlocks]
    by_cases room : data.numEntries < 2 ^ 29
    · rw [Run.newVector_eq room, Run.ok_bind]
      exact ((none _ _).bind _).bind _
    · rw [Run.newVector_long room]
      exact ⟨_, rfl, by rintro what ⟨⟩⟩

/-! What accepted bytes yield. -/

theorem copyEntries_eq (parsed : parse bytes seed false = .ok data) (regular : ¬ data.Refused)
    (roomy : data.Roomy) (defined : Defined (CompactSketch.deserialize bytes seed)) : data.Inside bytes ∧
      copyEntries bytes (data.entriesStart.getD 0) data.entryBits data.numEntries =
        .ok (data.stored bytes) := by
  rw [deserialize_eq parsed] at defined
  obtain ⟨region, run⟩ := copyEntries_settled (entriesStart_le (parse_accepted parsed)) regular roomy
    (defined_bind_iff.mp defined).1
  refine ⟨?_, run⟩
  unfold CompactThetaSketchData.Inside CompactThetaSketchData.size
  split_ifs at region ⊢ <;> exact region

theorem readAll_view (parsed : parse bytes seed false = .ok data) (short : bytes.length < 2 ^ 32)
    (entries : EntriesInside bytes seed data) (regular : ¬ data.Refused) (roomy : data.Roomy) :
    ∃ iterated, readAll (data.view bytes).entries = .ok iterated ∧
      (iterated = data.stored bytes ↔ data.LastBlockFits bytes) := by
  have word := numEntries_lt (parse_accepted parsed)
  have calm := ((view_defined_iff entries.region word).mp entries.view).2
  have inside := entries.region
  obtain ⟨_, run⟩ := copyEntries_eq parsed regular roomy entries.deserialize
  unfold CompactThetaSketchData.Inside CompactThetaSketchData.size at inside
  unfold CompactThetaSketchData.LastBlockFits CompactThetaSketchData.view
  unfold CompactThetaSketchData.stored at run ⊢
  unfold CompactThetaSketchData.Refused at regular
  unfold CompactThetaSketchData.Roomy at roomy
  dsimp only
  generalize data.entriesStart.getD 0 = start at *
  generalize data.entryBits = width at *
  generalize data.numEntries = count at *
  -- Words, few packed values and full blocks are read in different ways.
  by_cases words : width = 64
  · subst words
    refine ⟨_, ?_, fun _ _ _ => slipsClear_of_ne (by decide), fun _ => rfl⟩
    rw [copyEntries, if_pos rfl] at run
    rw [WrappedIterator.begin, if_pos rfl, Run.pure_eq, WrappedIterator.readAll_words]
    exact run
  rw [if_neg words] at inside
  by_cases few : count < 8
  · refine ⟨_, ?_, fun _ many => absurd many (by omega), fun _ => rfl⟩
    have blocks : unpackBlocks bytes width (count / 8) start = .ok ([], start) := by
      rw [Nat.div_eq_of_lt few]
      rfl
    rw [copyEntries, if_neg words, Run.newVector_eq (roomy.resolve_left words), Run.ok_bind, blocks,
      Run.ok_bind, Nat.mod_eq_of_lt few] at run
    dsimp only at run
    rw [← run]
    cases count with
    | zero => rfl
    | succ turns =>
      have mode : ¬ 7 ≤ turns := by omega
      have scalar := @WrappedIterator.readAll_loadOne bytes width (turns + 1) words turns
        ⟨start, 0, 0, false, 0, 0, List.replicate 8 0⟩ rfl rfl (by simp) (Nat.zero_add _)
      have begins : WrappedIterator.begin bytes start width (turns + 1) =
          WrappedIterator.loadOne bytes width ⟨start, 0, 0, false, 0, 0, List.replicate 8 0⟩ := by
        simp [WrappedIterator.begin, words, mode]
      rw [begins, scalar]
      cases unpackRest bytes width (turns + 1) start 0 <;> rfl
  · have positive : 0 < width := by omega
    have narrow : width < 64 := by omega
    have whole := wholeBytesToHoldBits_spec (width * count)
    have bits := Nat.mul_comm width count
    replace calm : ¬ WrappedIterator.Overruns bytes start width count :=
      fun overruns => calm ⟨positive, narrow, overruns⟩
    have iterated := readAll_begin positive narrow (by omega) word (by omega) calm
    refine ⟨_, iterated, ?_⟩
    rw [storedEntries, if_neg words, ← iteratedFields_eq_iff (by omega) word short calm]
    refine ⟨fun same => ?_, congrArg _⟩
    exact undoDeltas_injective (iteratedFields_lt narrow) (copiedFields_lt narrow) same

/-- A count that no vector holds stops only one of the readers. -/
theorem not_agree_of_long (parsed : parse bytes seed false = .ok data) (regular : ¬ data.Refused)
    (long : ¬ data.Roomy) : ¬ ReadersAgree bytes seed dumpOnError := by
  unfold CompactThetaSketchData.Refused at regular
  obtain ⟨other, many⟩ := not_or.mp long
  have positive : 0 < data.entryBits := by omega
  have narrow : data.entryBits < 64 := by omega
  have copied : readCopied bytes seed = .error (.lengthErr data.numEntries) := by
    rw [readCopied_eq parsed, copyEntries, if_neg other, Run.newVector_long many]
    rfl
  rintro (⟨wrapped, _⟩ | ⟨reading, _, impossible⟩)
  · rw [readWrapped_eq parsed] at wrapped
    exact not_exits_bind (WrappedIterator.not_exits_readAll positive narrow _
      (WrappedIterator.not_exits_begin positive narrow _)) (fun _ => not_exits_ok _) wrapped
  · cases copied.symm.trans impossible

theorem readersAgree_iff_data (parsed : parse bytes seed false = .ok data)
    (short : bytes.length < 2 ^ 32) : ReadersAgree bytes seed dumpOnError ↔ data.Refused ∨
      EntriesInside bytes seed data ∧ data.LastBlockFits bytes ∧ data.Roomy ∧ data.NoZeros bytes := by
  by_cases refused : data.Refused
  · exact ⟨fun _ => .inl refused, fun _ => refused_exits refused parsed⟩
  rw [or_iff_right refused]
  by_cases roomy : data.Roomy
  · rw [CompactThetaSketchData.noZeros_iff]
    unfold ReadersAgree
    rw [readWrapped_eq parsed, readCopied_eq parsed]
    constructor
    · intro agree
      -- If they agree the copying reader returned or exited, so its reads stay inside.
      have defined : Defined (CompactSketch.deserialize bytes seed) := by
        rw [deserialize_eq parsed]
        refine defined_bind_iff.mpr ⟨?_, fun _ _ => defined_ok _⟩
        rcases agree with exits | ⟨reading, _, copied⟩
        · exact (defined_bind_iff.mp exits.2.defined).1
        · obtain ⟨entries, run, _⟩ := Run.bind_eq_ok.mp copied
          rw [run]
          exact defined_ok _
      obtain ⟨region, run⟩ := copyEntries_eq parsed refused roomy defined
      rw [run, Run.ok_bind, Run.pure_eq] at agree
      -- It did not exit, for no routine is missing.
      obtain ⟨reading, wrapped, same⟩ := agree.resolve_left fun exits => not_exits_ok _ exits.2
      cases same
      obtain ⟨iterated, reads, equal⟩ := Run.bind_eq_ok.mp wrapped
      have entriesSame : iterated = keyNotZero (data.stored bytes) :=
        congrArg Reading.entries (Except.ok.inj equal)
      have all := readAll_eq_ok reads
      -- The iterator made one turn for each entry, so nothing was skipped.
      have turns : iterated.length = data.numEntries := WrappedIterator.length_iterate _ all
      have whole : keyNotZero (data.stored bytes) = data.stored bytes := by
        refine List.filter_sublist.eq_of_length ?_
        change (keyNotZero (data.stored bytes)).length = _
        rw [← entriesSame, turns, CompactThetaSketchData.stored, length_storedEntries]
      have inside : EntriesInside bytes seed data := by
        refine ⟨region, defined, fun read member => ?_⟩
        rw [all] at member
        obtain ⟨entry, _, rfl⟩ := List.mem_map.mp member
        exact defined_ok _
      obtain ⟨second, secondReads, fits⟩ := readAll_view parsed short inside refused roomy
      cases reads.symm.trans secondReads
      exact ⟨inside, fits.mp (entriesSame.trans whole), roomy, whole⟩
    · rintro ⟨inside, last, _, whole⟩
      obtain ⟨_, run⟩ := copyEntries_eq parsed refused roomy inside.deserialize
      obtain ⟨iterated, reads, fits⟩ := readAll_view parsed short inside refused roomy
      have length : (data.stored bytes).length = data.numEntries := length_storedEntries _ _ _ _
      rw [run, reads, fits.mpr last]
      refine .inr ⟨_, rfl, ?_⟩
      rw [Run.ok_bind, whole, length]
      rfl
  · exact ⟨fun agree => absurd agree (not_agree_of_long parsed refused roomy),
      fun fits => absurd fits.2.2.1 roomy⟩

/-! What the last theorem means for the bytes. -/

/-- Version 4 with full blocks of a width that there is no routine for. -/
def RefusesBlocks (bytes : List UInt8) : Prop :=
  word bytes 1 1 = 4 ∧ 8 ≤ packedCount bytes ∧ (word bytes 3 1 = 0 ∨ 64 < word bytes 3 1)

def LastBlockFits (bytes : List UInt8) : Prop :=
  word bytes 1 1 = 4 → 16 ≤ packedCount bytes → packedCount bytes % 8 = 0 →
    SlipsClear bytes (packedStart bytes + (packedCount bytes / 8 - 1) * word bytes 3 1) (word bytes 3 1)

theorem refused_iff (accepted : Accepted bytes data) : data.Refused ↔ RefusesBlocks bytes := by
  unfold CompactThetaSketchData.Refused RefusesBlocks
  cases accepted with
  | empty _ version => simp [version]
  | single _ _ version => simp [version]
  | words _ _ _ version => simp [version]
  | packed _ _ version => simp [version]

theorem lastBlockFits_iff (accepted : Accepted bytes data) :
    data.LastBlockFits bytes ↔ LastBlockFits bytes := by
  unfold CompactThetaSketchData.LastBlockFits LastBlockFits
  cases accepted with
  | empty _ version => simp [version]
  | single _ _ version => simp [version]
  | words _ _ _ version =>
    exact ⟨fun _ four => absurd four version, fun _ _ _ => slipsClear_of_ne (by simp)⟩
  | packed _ _ version => simp [version]

/-- The readers agree on a string whose header reads stay inside it if it is not accepted, or
both refuse its width, or its entries fit, also into a vector, a full block at the end is clear
of slips, and no entry is zero. -/
theorem readersAgree_iff (short : bytes.length < 2 ^ 32) : ReadersAgree bytes seed dumpOnError ↔
    HeaderInside bytes seed ∧ ∀ data, parse bytes seed false = .ok data →
      RefusesBlocks bytes ∨
        CountFits bytes ∧ LastBlockFits bytes ∧ data.Roomy ∧ data.NoZeros bytes := by
  rw [← parse_defined_iff bytes seed false]
  cases parsed : parse bytes seed false with
  | ok data =>
    have accepted := parse_accepted parsed
    rw [readersAgree_iff_data parsed short, entriesInside_iff short parsed, refused_iff accepted,
      lastBlockFits_iff accepted]
    constructor
    · intro agree
      refine ⟨defined_ok _, ?_⟩
      rintro _ ⟨⟩
      exact agree
    · exact fun agree => agree.2 data rfl
  | error exit =>
    have rejected : ∀ dump data, parse bytes seed dump ≠ .ok data := by
      intro dump data accepted
      cases (parse_dump accepted).symm.trans parsed
    have copied : readCopied bytes seed = .error exit := by
      rw [readCopied, CompactSketch.deserialize, parsed]
      rfl
    constructor
    · intro agree
      refine ⟨?_, by rintro _ ⟨⟩⟩
      rcases agree with exits | ⟨reading, _, impossible⟩
      · obtain ⟨other, same, own⟩ := exits.2
        cases copied.symm.trans same
        exact defined_error_iff.mpr own
      · cases copied.symm.trans impossible
    · rintro ⟨defined, _⟩
      have dumped := (parse_defined_iff bytes seed dumpOnError).mpr
        ((parse_defined_iff bytes seed false).mp (by rw [parsed]; exact defined))
      refine .inl ⟨?_, exit, copied, defined_error_iff.mp defined⟩
      cases other : parse bytes seed dumpOnError with
      | ok data => exact absurd other (rejected _ _)
      | error otherExit =>
        rw [other] at dumped
        refine ⟨otherExit, ?_, defined_error_iff.mp dumped⟩
        rw [readWrapped, wrap, other]
        rfl

end Readers

/-- Two full blocks of width 33, all bits set: the iterator reads the second one value by
value, without the sign that the block routine extends. -/
theorem readers_disagree :
    ¬ ∀ bytes : List UInt8, bytes.length < 2 ^ 32 → ReadersAgree bytes defaultSeed false := by
  intro claim
  have agree := claim ([1, 4, 3, 33, 1, 26, 204, 147, 16] ++ List.replicate 66 255) (by decide)
  have differ : readWrapped ([1, 4, 3, 33, 1, 26, 204, 147, 16] ++ List.replicate 66 255) defaultSeed false ≠
      readCopied ([1, 4, 3, 33, 1, 26, 204, 147, 16] ++ List.replicate 66 255) defaultSeed := by
    decide +kernel
  have returns : (readCopied ([1, 4, 3, 33, 1, 26, 204, 147, 16] ++ List.replicate 66 255)
      defaultSeed).isOk = true := by decide +kernel
  rcases agree with ⟨_, exit, fails, _⟩ | ⟨reading, left, right⟩
  · rw [fails] at returns
    cases returns
  · exact differ (left.trans right.symm)

example : readWrapped ([1, 3, 3, 0, 0, 26, 204, 147] ++ List.replicate 8 0) defaultSeed false =
      .ok ⟨false, 37836, maxTheta, 1, [0]⟩ ∧
    readCopied ([1, 3, 3, 0, 0, 26, 204, 147] ++ List.replicate 8 0) defaultSeed =
      .ok ⟨false, 37836, maxTheta, 1, []⟩ := by
  decide +kernel

theorem readersAgree_pair :
    ReadersAgree [1, 4, 3, 8, 1, 26, 204, 147, 2, 5, 9] defaultSeed false := by
  have parsed : parse [1, 4, 3, 8, 1, 26, 204, 147, 2, 5, 9] defaultSeed false =
      .ok ⟨false, true, 37836, 2, maxTheta, some 9, 8⟩ := by decide +kernel
  refine (readersAgree_iff (by decide)).mpr ⟨?_, fun data same => .inr ⟨⟨?_, ?_⟩, ?_, ?_⟩⟩
  · refine fun _ _ => ⟨fun one => absurd one (by decide), fun two => absurd two (by decide),
      fun three => absurd three (by decide), fun _ => ?_⟩
    unfold version4Inside
    decide +kernel
  · exact fun other => absurd (by decide) other
  · refine fun _ => ⟨.inl (by decide +kernel), by decide +kernel, fun overruns => ?_⟩
    have many := overruns.2.2.1
    revert many
    decide +kernel
  · intro _ many
    revert many
    decide +kernel
  · cases parsed.symm.trans same
    exact ⟨.inr (by decide), by unfold CompactThetaSketchData.NoZeros; decide +kernel⟩

end ThetaSketch
