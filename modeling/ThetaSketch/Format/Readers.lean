import ThetaSketch.Format.Bounds
import ThetaSketch.Format.PackedEntries

/-! The two readers of one byte string.

The iterator over wrapped bytes reads blocks while more than eight values are left
after a block and goes on value by value; the other reader takes every full block as
one. What comes between is one full block at the end.
-/

set_option autoImplicit false

namespace ThetaSketch

open LittleEndian BitStream CompactThetaSketchParser

def readAll : List (Run ℕ) → Run (List ℕ)
  | [] => return []
  | first :: rest => do
    let entry ← first
    let entries ← readAll rest
    return entry :: entries

theorem readAll_eq_ok {reads : List (Run ℕ)} {entries : List ℕ} (run : readAll reads = .ok entries) :
    reads = entries.map .ok := by
  induction reads generalizing entries with
  | nil =>
    cases run
    rfl
  | cons first rest ih =>
    obtain ⟨entry, done, more⟩ := Run.bind_eq_ok.mp run
    obtain ⟨others, tail, same⟩ := Run.bind_eq_ok.mp more
    cases same
    rw [done, ih tail]
    rfl

theorem undoDeltas_append (previous : ℕ) (first second : List ℕ) :
    undoDeltas previous (first ++ second) = undoDeltas previous first ++
      undoDeltas ((undoDeltas previous first).getLastD previous) second := by
  induction first generalizing previous with
  | nil => rfl
  | cons delta rest ih =>
    have last : (undoDeltas previous (delta :: rest)).getLastD previous =
        (undoDeltas ((delta + previous) % 2 ^ 64) rest).getLastD ((delta + previous) % 2 ^ 64) := by
      rw [undoDeltas]
      cases undoDeltas ((delta + previous) % 2 ^ 64) rest <;> rfl
    rw [last, List.cons_append, undoDeltas, ih, undoDeltas, List.cons_append]

theorem take_undoDeltas (previous count : ℕ) (numbers : List ℕ) :
    (undoDeltas previous numbers).take count = undoDeltas previous (numbers.take count) := by
  induction numbers generalizing previous count with
  | nil => simp [undoDeltas]
  | cons delta rest ih =>
    cases count with
    | zero => rfl
    | succ count => simp [undoDeltas, ih]

namespace WrappedIterator

variable {bytes : List UInt8} {width count : ℕ}

theorem readAll_words (turns : ℕ) (it : WrappedIterator) :
    readAll (iterate bytes 64 count turns (.ok it)) = readWords bytes turns it.ptr := by
  induction turns generalizing it with
  | zero => rfl
  | succ turns ih =>
    rw [iterate, readAll, readWords, deref, if_pos rfl, WrappedIterator.next, if_pos rfl, Run.pure_eq, ih]

theorem readAll_loadOne (other : width ≠ 64) (turns : ℕ) {it : WrappedIterator}
    (mode : it.isBlockMode = false) (bufI : it.bufI = 0) (room : 0 < it.buffer.length)
    (left : it.index + (turns + 1) = count) :
    readAll (iterate bytes width count (turns + 1) (it.loadOne bytes width)) =
      (unpackRest bytes width (turns + 1) it.ptr it.offset).map (undoDeltas it.previous) := by
  induction turns generalizing it with
  | zero =>
    rw [loadOne, unpackRest]
    -- Both sides read one value and stop where it cannot be read.
    cases unpackBits bytes width it.ptr it.offset with
    | error exit => rfl
    | ok result =>
      obtain ⟨value, ptr, offset⟩ := result
      simp [iterate, readAll, deref, other, bufI, room, unpackRest, undoDeltas, Except.map]
  | succ turns ih =>
    rw [loadOne, unpackRest]
    cases unpackBits bytes width it.ptr it.offset with
    | error exit => rfl
    | ok result =>
      obtain ⟨value, ptr, offset⟩ := result
      have more : it.index + 1 < count := by omega
      obtain ⟨loaded, isLoaded⟩ : ∃ loaded : WrappedIterator, loaded = { it with
          ptr := ptr
          offset := offset
          buffer := it.buffer.set 0 ((value + it.previous) % 2 ^ 64)
          previous := (value + it.previous) % 2 ^ 64 } := ⟨_, rfl⟩
      have advanced : loaded.next bytes width count =
          loadOne bytes width { loaded with index := it.index + 1 } := by
        rw [isLoaded]
        simp [WrappedIterator.next, other, more, mode]
      have entry : loaded.deref bytes width = .ok ((value + it.previous) % 2 ^ 64) := by
        rw [isLoaded]
        simp [deref, other, bufI, room]
      have rest := @ih { loaded with index := it.index + 1 } (by rw [isLoaded]; exact mode)
        (by rw [isLoaded]; exact bufI) (by rw [isLoaded]; simpa using room) (by simp; omega)
      simp only [Run.ok_bind, Run.pure_eq, ← isLoaded]
      rw [iterate, readAll, entry, advanced, rest, isLoaded, Run.ok_bind]
      cases unpackRest bytes width (turns + 1) ptr offset <;> rfl

/-- Where the iterator goes on after the last value of a block. -/
def cross (bytes : List UInt8) (width count : ℕ) (it : WrappedIterator) : Run WrappedIterator :=
  if wrap32 (it.index + 8) < count then it.loadBlock bytes width
  else { it with isBlockMode := false }.loadOne bytes width

theorem readAll_block (other : width ≠ 64) (turns : ℕ) {it : WrappedIterator}
    (mode : it.isBlockMode = true) (low : it.bufI < 8) (eight : it.buffer.length = 8)
    (left : it.index + turns = count) :
    readAll (iterate bytes width count turns (.ok it)) =
      (readAll (iterate bytes width count (turns - (8 - it.bufI))
        (cross bytes width count { it with index := it.index + (8 - it.bufI), bufI := 0 }))).map
          ((it.buffer.drop it.bufI).take turns ++ ·) := by
  induction turns generalizing it with
  | zero =>
    rw [Nat.zero_sub]
    rfl
  | succ turns ih =>
    have entry : it.deref bytes width = .ok (it.buffer.getD it.bufI 0) := by
      rw [deref, if_neg other]
      rfl
    have inside : it.bufI < it.buffer.length := by omega
    have buffered : (it.buffer.drop it.bufI).take (turns + 1) =
        it.buffer.getD it.bufI 0 :: (it.buffer.drop (it.bufI + 1)).take turns := by
      rw [List.drop_eq_getElem_cons inside, List.take_succ_cons, List.getD_eq_getElem _ 0 inside]
    rw [iterate, readAll, entry, Run.ok_bind, buffered]
    -- After the last value `operator++` is not looked at.
    by_cases last : turns = 0
    · subst last
      have none : 0 + 1 - (8 - it.bufI) = 0 := by omega
      rw [none]
      rfl
    have more : it.index + 1 < count := by omega
    -- The eighth value of a block makes the iterator move on.
    by_cases full : it.bufI + 1 = 8
    · have seven : it.bufI = 7 := by omega
      have advanced : it.next bytes width count =
          cross bytes width count { it with index := it.index + (8 - it.bufI), bufI := 0 } := by
        simp only [WrappedIterator.next, cross, other, more, mode, if_true, if_false, seven]
      have spent : it.buffer.drop (it.bufI + 1) = [] := by
        rw [full]
        exact List.drop_of_length_le eight.le
      have turns_eq : turns + 1 - (8 - it.bufI) = turns := by omega
      rw [advanced, spent, List.take_nil, turns_eq]
      cases readAll (iterate bytes width count turns
        (cross bytes width count { it with index := it.index + (8 - it.bufI), bufI := 0 })) <;> rfl
    · have advanced : it.next bytes width count =
          .ok { it with index := it.index + 1, bufI := it.bufI + 1 } := by
        simp only [WrappedIterator.next, other, more, mode, full, if_true, if_false]
        rfl
      have rest := @ih { it with index := it.index + 1, bufI := it.bufI + 1 } mode
        (by change it.bufI + 1 < 8; omega) eight (by change it.index + 1 + turns = count; omega)
      have index : it.index + 1 + (8 - (it.bufI + 1)) = it.index + (8 - it.bufI) := by omega
      have turns_eq : turns + 1 - (8 - it.bufI) = turns - (8 - (it.bufI + 1)) := by omega
      simp only [index] at rest
      rw [advanced, rest, turns_eq]
      cases readAll (iterate bytes width count (turns - (8 - (it.bufI + 1)))
        (cross bytes width count { it with index := it.index + (8 - it.bufI), bufI := 0 })) <;> rfl

end WrappedIterator

def blocksFields (bytes : List UInt8) (width : ℕ) : ℕ → ℕ → List ℕ
  | 0, _ => []
  | blocks + 1, base => blockFields bytes base width ++ blocksFields bytes width blocks (base + width)

section Blocks

variable {bytes : List UInt8} {width : ℕ}

@[simp] theorem length_blockFields (base : ℕ) : (blockFields bytes base width).length = 8 := by
  simp [blockFields]

@[simp] theorem length_blocksFields (blocks base : ℕ) :
    (blocksFields bytes width blocks base).length = 8 * blocks := by
  induction blocks generalizing base with
  | zero => rfl
  | succ blocks ih =>
    rw [blocksFields, List.length_append, ih, length_blockFields]
    omega

theorem blocksFields_lt (narrow : width < 64) (blocks base : ℕ) :
    ∀ number ∈ blocksFields bytes width blocks base, number < 2 ^ 64 := by
  induction blocks generalizing base with
  | zero => simp [blocksFields]
  | succ blocks ih =>
    intro number member
    rcases List.mem_append.mp member with member | member
    · obtain ⟨index, _, rfl⟩ := List.mem_map.mp member
      exact unpackSlip_lt narrow (value_lt _ _ _)
    · exact ih _ number member

theorem blocksFields_last (blocks base : ℕ) : blocksFields bytes width (blocks + 1) base =
    blocksFields bytes width blocks base ++ blockFields bytes (base + blocks * width) width := by
  induction blocks generalizing base with
  | zero => simp [blocksFields]
  | succ blocks ih =>
    have place : base + width + blocks * width = base + (blocks + 1) * width := by ring
    rw [blocksFields, ih, blocksFields, List.append_assoc, place]

theorem unpackBlocks_fields (positive : 0 < width) (narrow : width < 64) (blocks : ℕ) {ptr : ℕ}
    (inside : ptr + blocks * width ≤ bytes.length) :
    unpackBlocks bytes width blocks ptr =
      .ok (blocksFields bytes width blocks ptr, ptr + blocks * width) := by
  induction blocks generalizing ptr with
  | zero => simp [unpackBlocks, blocksFields]
  | succ blocks ih =>
    have expand : (blocks + 1) * width = width + blocks * width := by ring
    rw [unpackBlocks, unpackBitsBlock8_spec positive narrow (by omega) (by rfl) (zeros_small 8),
      Run.ok_bind, ih (by omega), expand, ← Nat.add_assoc]
    rfl

theorem unpackRest_fields (positive : 0 < width) (narrow : width ≤ 64) (count : ℕ) {ptr : ℕ}
    (inside : 8 * ptr + count * width ≤ 8 * bytes.length) :
    unpackRest bytes width count ptr 0 = .ok (fields bytes width (8 * ptr) count) := by
  rw [unpackRest_eq, unpackValues_spec positive narrow count (by decide) inside]
  rfl

end Blocks

namespace WrappedIterator

variable {bytes : List UInt8} {width count : ℕ}

/-- The iterator after the last value of the block at its pointer. -/
def afterBlock (bytes : List UInt8) (width : ℕ) (it : WrappedIterator) : WrappedIterator where
  ptr := it.ptr + width
  index := it.index + 8
  previous := (undoDeltas it.previous (blockFields bytes it.ptr width)).getLastD it.previous
  isBlockMode := it.isBlockMode
  bufI := 0
  offset := it.offset
  buffer := undoDeltas it.previous (blockFields bytes it.ptr width)

structure AtBlock (it : WrappedIterator) : Prop where
  mode : it.isBlockMode = true
  bufI : it.bufI = 0
  offset : it.offset = 0
  eight : it.buffer.length = 8
  small : ∀ value ∈ it.buffer, value < 2 ^ 64

theorem AtBlock.after {it : WrappedIterator} (here : AtBlock it) : AtBlock (it.afterBlock bytes width) where
  mode := here.mode
  bufI := rfl
  offset := here.offset
  eight := (undoDeltas_length _ _).trans (length_blockFields _)
  small := undoDeltas_lt _ _

theorem AtBlock.readAll_loadBlock {it : WrappedIterator} (here : AtBlock it) (positive : 0 < width)
    (narrow : width < 64) {turns : ℕ} (left : it.index + turns = count)
    (inside : it.ptr + width ≤ bytes.length) :
    readAll (iterate bytes width count turns (it.loadBlock bytes width)) =
      (readAll (iterate bytes width count (turns - 8)
        (cross bytes width count (it.afterBlock bytes width)))).map
          ((undoDeltas it.previous (blockFields bytes it.ptr width)).take turns ++ ·) := by
  have loaded : it.loadBlock bytes width =
      .ok { it.afterBlock bytes width with index := it.index, bufI := it.bufI } := by
    rw [loadBlock, unpackBitsBlock8_spec positive narrow inside here.eight here.small]
    rfl
  have block := @readAll_block bytes width count (by omega) turns
    { it.afterBlock bytes width with index := it.index, bufI := it.bufI } here.mode
    (by simp [here.bufI]) here.after.eight left
  have start : (it.afterBlock bytes width).buffer.drop it.bufI =
      undoDeltas it.previous (blockFields bytes it.ptr width) := by
    rw [here.bufI]
    rfl
  have eighth : 8 - it.bufI = 8 := by rw [here.bufI]
  rw [loaded, block, start, eighth]
  rfl

theorem AtBlock.readAll_append {it : WrappedIterator} (here : AtBlock it) (positive : 0 < width)
    (narrow : width < 64) {turns : ℕ} (left : it.index + turns = count)
    (inside : it.ptr + width ≤ bytes.length) {numbers : List ℕ}
    (later : readAll (iterate bytes width count (turns - 8)
      (cross bytes width count (it.afterBlock bytes width))) =
        .ok ((undoDeltas (it.afterBlock bytes width).previous numbers).take (turns - 8))) :
    readAll (iterate bytes width count turns (it.loadBlock bytes width)) =
      .ok ((undoDeltas it.previous (blockFields bytes it.ptr width ++ numbers)).take turns) := by
  rw [here.readAll_loadBlock positive narrow left inside, later, undoDeltas_append, List.take_append,
    undoDeltas_length, length_blockFields]
  rfl

/-- From a block on, as many blocks are read as the test of `operator++` lets pass, and
the rest value by value. -/
theorem AtBlock.readAll_eq (positive : 0 < width) (narrow : width < 64) (more : ℕ)
    {it : WrappedIterator} (here : AtBlock it) {turns rest : ℕ}
    (left : it.index + turns = count) (some : 8 * more < turns)
    (loads : ∀ block < more, wrap32 (it.index + 8 * (block + 1) + 8) < count)
    (stops : 8 * (more + 1) < turns → ¬ wrap32 (it.index + 8 * (more + 1) + 8) < count)
    (tail : turns - 8 * (more + 1) = rest)
    (inside : 8 * (it.ptr + (more + 1) * width) + rest * width ≤ 8 * bytes.length) :
    readAll (iterate bytes width count turns (it.loadBlock bytes width)) =
      .ok ((undoDeltas it.previous (blocksFields bytes width (more + 1) it.ptr ++
        fields bytes width (8 * (it.ptr + (more + 1) * width)) rest)).take turns) := by
  have other : width ≠ 64 := by omega
  have expand : (more + 1) * width = more * width + width := by ring
  have place : it.ptr + (more + 1) * width = (it.afterBlock bytes width).ptr + more * width := by
    change _ = it.ptr + width + more * width
    omega
  rw [place] at inside ⊢
  rw [blocksFields, List.append_assoc]
  refine here.readAll_append positive narrow left (by omega) ?_
  -- By the blocks that are still to be loaded after this one.
  induction more generalizing it turns with
  | zero =>
    rw [Nat.zero_add, Nat.mul_one] at stops tail
    rw [Nat.zero_mul, Nat.add_zero] at inside ⊢
    -- Behind the last block the rest is read value by value.
    by_cases none : turns ≤ 8
    · have zero : turns - 8 = 0 := by omega
      rw [zero, List.take_zero]
      rfl
    · obtain ⟨others, isOthers⟩ : ∃ others, turns - 8 = others + 1 := ⟨turns - 9, by omega⟩
      have scalar := @readAll_loadOne bytes width count other others
        { it.afterBlock bytes width with isBlockMode := false } rfl rfl
        (by rw [here.after.eight]; decide)
        (by change it.index + 8 + (others + 1) = count; omega)
      have values := @unpackRest_fields bytes width positive narrow.le (others + 1)
        (it.afterBlock bytes width).ptr (by rw [← isOthers, tail]; exact inside)
      have crossed : cross bytes width count (it.afterBlock bytes width) =
          loadOne bytes width { it.afterBlock bytes width with isBlockMode := false } :=
        if_neg (stops (by omega))
      have lane : (it.afterBlock bytes width).offset = 0 := here.offset
      rw [← tail, isOthers, crossed, scalar]
      dsimp only
      rw [lane, values, blocksFields, List.nil_append, List.take_of_length_le]
      · rfl
      · rw [undoDeltas_length, length_fields]
  | succ more ih =>
    have whole : cross bytes width count (it.afterBlock bytes width) =
        loadBlock bytes width (it.afterBlock bytes width) :=
      if_pos (loads 0 (Nat.succ_pos _))
    have next : (it.afterBlock bytes width).index = it.index + 8 := rfl
    have expand' : (more + 1) * width = more * width + width := by ring
    have place' : (it.afterBlock bytes width).ptr + (more + 1) * width =
        ((it.afterBlock bytes width).afterBlock bytes width).ptr + more * width := by
      change it.ptr + width + (more + 1) * width = it.ptr + width + width + more * width
      omega
    rw [place'] at inside ⊢
    rw [whole, blocksFields, List.append_assoc]
    have later : ∀ block < more, wrap32 ((it.afterBlock bytes width).index + 8 * (block + 1) + 8) < count := by
      intro block low
      have known := loads (block + 1) (by omega)
      have sum : it.index + 8 * (block + 1 + 1) + 8 = it.index + 8 + 8 * (block + 1) + 8 := by ring
      rwa [sum] at known
    have sum : it.index + 8 * (more + 1 + 1) + 8 = it.index + 8 + 8 * (more + 1) + 8 := by ring
    rw [sum] at stops
    have nextPtr : (it.afterBlock bytes width).ptr = it.ptr + width := rfl
    have rest := @ih (it.afterBlock bytes width) here.after (turns - 8) (by omega) (by omega) later
      (fun more => stops (by omega)) (by omega) inside expand' place'
    exact here.after.readAll_append positive narrow (by omega) (by omega) rest

end WrappedIterator

/-- The deltas that come out of the iterator: a full block at the end is read value by
value, unless it is the only one. The sum in `operator++` wraps for the largest counts. -/
def iteratedFields (bytes : List UInt8) (start width count : ℕ) : List ℕ :=
  if 2 ^ 32 - 8 < count then (blocksFields bytes width (2 ^ 29) start).take count
  else
    let blocks := max 1 ((count - 1) / 8)
    blocksFields bytes width blocks start ++
      fields bytes width (8 * (start + blocks * width)) (count - 8 * blocks)

/-- The bit fields of all entries. Those of full blocks have the slips of their width. -/
def copiedFields (bytes : List UInt8) (start width count : ℕ) : List ℕ :=
  blocksFields bytes width (count / 8) start ++
    fields bytes width (8 * (start + count / 8 * width)) (count % 8)

section Deltas

variable {bytes : List UInt8} {start width count : ℕ}

theorem copiedFields_lt (narrow : width < 64) :
    ∀ number ∈ copiedFields bytes start width count, number < 2 ^ 64 := by
  intro number member
  rcases List.mem_append.mp member with member | member
  · exact blocksFields_lt narrow _ _ number member
  · exact (fields_lt number member).trans_le (Nat.pow_le_pow_right Nat.two_pos narrow.le)

theorem iteratedFields_lt (narrow : width < 64) :
    ∀ number ∈ iteratedFields bytes start width count, number < 2 ^ 64 := by
  intro number member
  unfold iteratedFields at member
  split_ifs at member
  · exact blocksFields_lt narrow _ _ number (List.mem_of_mem_take member)
  · rcases List.mem_append.mp member with member | member
    · exact blocksFields_lt narrow _ _ number member
    · exact (fields_lt number member).trans_le (Nat.pow_le_pow_right Nat.two_pos narrow.le)

theorem take_fields (start : ℕ) {few many : ℕ} (fewer : few ≤ many) :
    (fields bytes width start many).take few = fields bytes width start few := by
  rw [fields, fields, ← List.map_take, List.take_range, min_eq_left fewer]

theorem slipsClear_of_ne {base : ℕ} (other : width ≠ 33 ∧ width ≠ 35) :
    SlipsClear bytes base width :=
  ⟨fun same => absurd same other.1, fun same => absurd same other.2⟩

theorem iteratedFields_eq_iff (many : 8 ≤ count) (word : count < 2 ^ 32)
    (short : bytes.length < 2 ^ 32) (calm : ¬ WrappedIterator.Overruns bytes start width count) :
    iteratedFields bytes start width count = copiedFields bytes start width count ↔
      (16 ≤ count → count % 8 = 0 → SlipsClear bytes (start + (count / 8 - 1) * width) width) := by
  unfold iteratedFields copiedFields
  split_ifs with most
  · -- So many entries fit into memory only if they are narrow.
    have small : width < 8 := by
      unfold WrappedIterator.Overruns at calm
      omega
    obtain ⟨last, isLast⟩ : ∃ last, last + 1 = 2 ^ 29 := ⟨2 ^ 29 - 1, by decide⟩
    have blocks : count / 8 = last := by omega
    have clear : SlipsClear bytes (start + last * width) width := slipsClear_of_ne (by omega)
    have split : count = 8 * last + count % 8 := by omega
    have cut : (blocksFields bytes width last start).take count = blocksFields bytes width last start :=
      List.take_of_length_le (by rw [length_blocksFields]; omega)
    have rest : count - 8 * last = count % 8 := by omega
    rw [← isLast, blocksFields_last, (blockFields_eq_iff _ _ _).mpr clear, List.take_append, cut,
      length_blocksFields, rest, take_fields _ (by omega), blocks]
    exact ⟨fun _ _ full => by omega, fun _ => rfl⟩
  · dsimp only
    by_cases full : count % 8 = 0 ∧ 16 ≤ count
    · obtain ⟨last, isLast⟩ : ∃ last, count / 8 = last + 1 := ⟨count / 8 - 1, by omega⟩
      have blocks : max 1 ((count - 1) / 8) = last := by omega
      have rest : count - 8 * last = 8 := by omega
      have before : count / 8 - 1 = last := by omega
      rw [blocks, rest, before, isLast, full.1, blocksFields_last, List.append_assoc,
        List.append_cancel_left_eq, eq_comm, ← blockFields_eq_iff]
      simp only [full.2, true_implies]
      rw [fields, List.range_zero, List.map_nil, List.append_nil]
    · have blocks : max 1 ((count - 1) / 8) = count / 8 := by omega
      have rest : count - 8 * (count / 8) = count % 8 := by omega
      rw [blocks, rest]
      exact ⟨fun _ many eighth => absurd ⟨eighth, many⟩ full, fun _ => rfl⟩

theorem readAll_begin (positive : 0 < width) (narrow : width < 64) (many : 8 ≤ count)
    (word : count < 2 ^ 32) (inside : 8 * start + count * width ≤ 8 * bytes.length)
    (calm : ¬ WrappedIterator.Overruns bytes start width count) :
    readAll (WrappedIterator.iterate bytes width count count
      (WrappedIterator.begin bytes start width count)) =
        .ok (undoDeltas 0 (iteratedFields bytes start width count)) := by
  have begins : WrappedIterator.begin bytes start width count =
      WrappedIterator.loadBlock bytes width ⟨start, 0, 0, true, 0, 0, List.replicate 8 0⟩ := by
    have other : width ≠ 64 := by omega
    have some : 0 < count := by omega
    simp [WrappedIterator.begin, other, some, many]
  have first : WrappedIterator.AtBlock ⟨start, 0, 0, true, 0, 0, List.replicate 8 0⟩ :=
    ⟨rfl, rfl, rfl, rfl, zeros_small 8⟩
  have bits : ∀ blocks rest, 8 * blocks + rest = count →
      8 * (start + blocks * width) + rest * width ≤ 8 * bytes.length := by
    rintro blocks rest rfl
    have regroup : (8 * blocks + rest) * width = 8 * (blocks * width) + rest * width := by ring
    omega
  rw [begins]
  unfold iteratedFields
  -- With so many values that the sum in `operator++` wraps around, blocks go on to the end.
  split_ifs with most
  · obtain ⟨last, isLast⟩ : ∃ last, last + 1 = 2 ^ 29 := ⟨2 ^ 29 - 1, by decide⟩
    have read := @WrappedIterator.AtBlock.readAll_eq bytes width count positive narrow last _ first
      count 0 (Nat.zero_add _) (by omega)
      (fun block low => by
        change wrap32 (0 + 8 * (block + 1) + 8) < count
        rw [wrap32]
        omega)
      (fun past => by omega) (by omega)
      (by
        change 8 * (start + (last + 1) * width) + 0 * width ≤ 8 * bytes.length
        unfold WrappedIterator.Overruns at calm
        rw [isLast]
        omega)
    rw [read, isLast, take_undoDeltas, fields, List.range_zero, List.map_nil, List.append_nil]
  · dsimp only
    obtain ⟨last, isLast⟩ : ∃ last, max 1 ((count - 1) / 8) = last + 1 :=
      ⟨max 1 ((count - 1) / 8) - 1, by omega⟩
    have read := @WrappedIterator.AtBlock.readAll_eq bytes width count positive narrow last _ first
      count (count - 8 * (last + 1)) (Nat.zero_add _) (by omega)
      (fun block low => by
        change wrap32 (0 + 8 * (block + 1) + 8) < count
        rw [wrap32]
        omega)
      (fun past => by
        change ¬ wrap32 (0 + 8 * (last + 1) + 8) < count
        rw [wrap32]
        omega)
      rfl (bits _ _ (by omega))
    rw [read, isLast, List.take_of_length_le]
    rw [WrappedIterator.undoDeltas_length, List.length_append, length_blocksFields, length_fields]
    omega

end Deltas

/-! The reader that copies. -/

/-- The entries of `deserialize`, once the header is parsed. -/
def copyEntries (bytes : List UInt8) (start width count : ℕ) : Run (List ℕ) :=
  if width = 64 then readWords bytes count start
  else do
    Run.newVector count
    let (blocks, ptr) ← unpackBlocks bytes width (count / 8) start
    let rest ← unpackRest bytes width (count % 8) ptr 0
    return undoDeltas 0 (blocks ++ rest)

def storedWords (bytes : List UInt8) : ℕ → ℕ → List ℕ
  | 0, _ => []
  | count + 1, start => word bytes start 8 :: storedWords bytes count (start + 8)

def storedEntries (bytes : List UInt8) (start width count : ℕ) : List ℕ :=
  if width = 64 then storedWords bytes count start
  else undoDeltas 0 (copiedFields bytes start width count)

@[simp] theorem length_storedWords (bytes : List UInt8) (count start : ℕ) :
    (storedWords bytes count start).length = count := by
  induction count generalizing start with
  | zero => rfl
  | succ count ih => rw [storedWords, List.length_cons, ih]

@[simp] theorem length_storedEntries (bytes : List UInt8) (start width count : ℕ) :
    (storedEntries bytes start width count).length = count := by
  unfold storedEntries copiedFields
  split_ifs
  · exact length_storedWords _ _ _
  · rw [WrappedIterator.undoDeltas_length, List.length_append, length_blocksFields, length_fields]
    omega

/-- A running sum of words does not tell a delta from its word. -/
theorem undoDeltas_map_mod (previous : ℕ) (front rest : List ℕ) :
    undoDeltas previous (front ++ rest.map (· % 2 ^ 64)) = undoDeltas previous (front ++ rest) := by
  induction front generalizing previous with
  | cons delta front ih => simp only [List.cons_append, undoDeltas, ih]
  | nil =>
    induction rest generalizing previous with
    | nil => rfl
    | cons delta rest ih =>
      have sum : (delta % 2 ^ 64 + previous) % 2 ^ 64 = (delta + previous) % 2 ^ 64 := Nat.mod_add_mod _ _ _
      simp only [List.nil_append] at ih ⊢
      rw [List.map_cons, undoDeltas, undoDeltas, sum, ih]

section Copying

variable {bytes : List UInt8} {seed : UInt64} {data : CompactThetaSketchData}

theorem deserialize_eq (parsed : parse bytes seed false = .ok data) :
    CompactSketch.deserialize bytes seed =
      (do let entries ← copyEntries bytes (data.entriesStart.getD 0) data.entryBits data.numEntries
          return CompactSketch.new data.isEmpty data.isOrdered data.seedHash data.theta entries) := by
  rw [CompactSketch.deserialize, parsed, Run.ok_bind, copyEntries]
  dsimp only
  split_ifs
  · rfl
  · simp only [bind_assoc, pure_bind]

/-! A reader that did not leave the bytes read all of its entries. -/

theorem readWords_settled (count : ℕ) {ptr : ℕ} (inside : 0 < count ∨ ptr ≤ bytes.length)
    (defined : Defined (readWords bytes count ptr)) :
    ptr + 8 * count ≤ bytes.length ∧ readWords bytes count ptr = .ok (storedWords bytes count ptr) := by
  induction count generalizing ptr with
  | zero => exact ⟨inside.resolve_left (lt_irrefl 0), rfl⟩
  | succ count ih =>
    rw [readWords, defined_readAt_bind, defined_bind_iff] at defined
    obtain ⟨fits, run⟩ := ih (.inr (by omega)) defined.2.1
    refine ⟨by omega, ?_⟩
    rw [readWords, readAt_eq defined.1, Run.ok_bind, run]
    rfl

theorem unpackRest_settled {width : ℕ} (count : ℕ) {ptr offset : ℕ} (inner : offset < 8)
    (defined : Defined (unpackRest bytes width count ptr offset)) :
    (0 < count → 8 * ptr + offset + count * width ≤ 8 * bytes.length) ∧
      unpackRest bytes width count ptr offset =
        .ok ((fields bytes width (8 * ptr + offset) count).map (· % 2 ^ 64)) := by
  induction count generalizing ptr offset with
  | zero => exact ⟨fun impossible => absurd impossible (lt_irrefl 0), rfl⟩
  | succ count ih =>
    have expand : (count + 1) * width = width + count * width := by ring
    rw [unpackRest, defined_bind_iff, unpackBits_defined_iff inner] at defined
    obtain ⟨room, rest⟩ := defined
    have run := unpackBits_spec inner room
    have moved := Nat.div_add_mod (8 * ptr + offset + width) 8
    obtain ⟨fits, later⟩ := ih (Nat.mod_lt _ (by decide)) (defined_bind_iff.mp (rest _ run)).1
    rw [moved] at fits later
    have low := le_max_right 1 width
    refine ⟨fun _ => ?_, ?_⟩
    · by_cases last : count = 0
      · subst last
        omega
      · have := fits (Nat.pos_of_ne_zero last)
        omega
    · rw [unpackRest, run, Run.ok_bind]
      simp only [later, Run.ok_bind, fields_succ, List.map_cons]
      rfl

theorem unpackBlocks_inside {width : ℕ} (positive : 0 < width) (narrow : width < 64) (blocks : ℕ)
    {ptr : ℕ} (inside : ptr ≤ bytes.length) (defined : Defined (unpackBlocks bytes width blocks ptr)) :
    ptr + blocks * width ≤ bytes.length := by
  induction blocks generalizing ptr with
  | zero => omega
  | succ blocks ih =>
    have expand : (blocks + 1) * width = width + blocks * width := by ring
    rw [unpackBlocks, defined_bind_iff,
      unpackBitsBlock8_defined_iff positive narrow (by rfl) (zeros_small 8)] at defined
    obtain ⟨here, rest⟩ := defined
    have block := @unpackBitsBlock8_spec bytes ptr width _ positive narrow here (by rfl) (zeros_small 8)
    have := ih here (defined_bind_iff.mp (rest _ block)).1
    omega

theorem copyEntries_settled {start width count : ℕ}
    (inside : width = 64 ∧ 0 < count ∨ start ≤ bytes.length)
    (regular : ¬ (8 ≤ count ∧ (width = 0 ∨ 64 < width))) (roomy : width = 64 ∨ count < 2 ^ 29)
    (defined : Defined (copyEntries bytes start width count)) :
    (if width = 64 then start + 8 * count ≤ bytes.length
      else start + wholeBytesToHoldBits (width * count) ≤ bytes.length) ∧
      copyEntries bytes start width count = .ok (storedEntries bytes start width count) := by
  unfold copyEntries storedEntries at *
  split_ifs at defined ⊢ with words
  · exact readWords_settled count (inside.imp_left And.right) defined
  · replace inside := inside.resolve_left fun full => words full.1
    have whole := wholeBytesToHoldBits_spec (width * count)
    have split := bits_split width count
    rw [Run.newVector_eq (roomy.resolve_left words), Run.ok_bind] at defined ⊢
    -- The blocks decide the pointer that the rest starts from.
    obtain ⟨fits, run⟩ : start + count / 8 * width ≤ bytes.length ∧
        unpackBlocks bytes width (count / 8) start =
          .ok (blocksFields bytes width (count / 8) start, start + count / 8 * width) := by
      by_cases few : count < 8
      · have none : count / 8 = 0 := Nat.div_eq_of_lt few
        rw [none, Nat.zero_mul]
        exact ⟨inside, rfl⟩
      · have positive : 0 < width := by omega
        have narrow : width < 64 := by omega
        have fits := unpackBlocks_inside positive narrow _ inside (defined_bind_iff.mp defined).1
        exact ⟨fits, unpackBlocks_fields positive narrow _ fits⟩
    rw [run, Run.ok_bind] at defined ⊢
    obtain ⟨bits, rest⟩ := unpackRest_settled _ (by decide) (defined_bind_iff.mp defined).1
    refine ⟨?_, ?_⟩
    · by_cases last : count % 8 = 0
      · rw [last, Nat.zero_mul] at split
        omega
      · have := bits (Nat.pos_of_ne_zero last)
        omega
    · simp only [rest, Run.ok_bind, Run.pure_eq, copiedFields, Nat.add_zero, undoDeltas_map_mod]

theorem entriesStart_le (accepted : Accepted bytes data) :
    data.entryBits = 64 ∧ 0 < data.numEntries ∨ data.entriesStart.getD 0 ≤ bytes.length := by
  cases accepted with
  | empty => exact .inr (Nat.zero_le _)
  | single => exact .inl ⟨rfl, Nat.one_pos⟩
  | words _ _ _ _ _ low enough =>
    by_cases none : word bytes 8 4 = 0
    · refine .inr ?_
      change wordsStart bytes * 8 ≤ _
      rw [none, wrap32] at enough
      omega
    · exact .inl ⟨rfl, Nat.pos_of_ne_zero none⟩
  | packed _ _ _ _ inside => exact .inr inside

end Copying

end ThetaSketch
