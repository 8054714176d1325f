import ThetaSketch.Library.BitStream
import ThetaSketch.Format.PackBlocks
import ThetaSketch.Format.UnpackBlocks

/-! What the block routines compute.

In the layout of a block, place `t` of value `i` stands at bit `(i + 1) * width - 1 - t`
of the stream. A statement whose shift agrees with this layout moves every bit to
its own place, so a list of statements is right once it is aligned throughout
and covers all places. Both are checked by tracing the statements without data.
-/

set_option autoImplicit false

namespace ThetaSketch

open BitStream

/-! Unpacking. -/

/-- What is known of a value: the places that were filled from the stream, and
whether an `int` extended the sign bit at place 31 over the upper half. -/
structure UnpackTrace where
  cover : ℕ
  signed : Bool
  deriving DecidableEq

namespace UnpackOp

def cover (op : UnpackOp) : ℕ :=
  let places := (op.mask % 2 ^ (8 - op.right)) <<< op.left
  match op.type with
  | .int => places % 2 ^ 32
  | .u64 => places % 2 ^ 64

def signed (op : UnpackOp) : Bool :=
  match op.type with
  | .int => op.cover.testBit 31
  | .u64 => false

/-- The statement, run at byte `ptr`, agrees with the layout. -/
def aligned (op : UnpackOp) (width ptr : ℕ) : Bool :=
  8 * ptr + 8 + op.left == (op.index + 1) * width + op.right && op.right.ble 7

/-- Trace one value. There is no answer before a first assignment, nor after a
misaligned one. -/
def trace (width index : ℕ) : List UnpackOp → ℕ → Option UnpackTrace → Option UnpackTrace
  | [], _, known => known
  | op :: rest, ptr, known =>
    let known := if op.index == index then
        if op.aligned width ptr then
          match op.assign with
          | .set => some ⟨op.cover, op.signed⟩
          | .or => known.map fun old => ⟨old.cover ||| op.cover, old.signed || op.signed⟩
        else none
      else known
    trace width index rest (op.step.from ptr) known

def visits : List UnpackOp → ℕ → List ℕ
  | [], _ => []
  | op :: rest, ptr => ptr :: visits rest (op.step.from ptr)

def contained (width : ℕ) (ops : List UnpackOp) : Bool :=
  (visits ops 0).all (fun ptr => ptr.blt width) && ops.all fun op => op.index.blt 8

end UnpackOp

def UnpackTrace.bitAt (known : UnpackTrace) (bytes : List UInt8) (stop place : ℕ) : Bool :=
  known.cover.testBit place && bit bytes (stop - 1 - place) ||
    known.signed && decide (32 ≤ place) && bit bytes (stop - 1 - 31)

theorem UnpackTrace.bitAt_or (first second : UnpackTrace) (bytes : List UInt8) (stop place : ℕ) :
    UnpackTrace.bitAt ⟨first.cover ||| second.cover, first.signed || second.signed⟩ bytes stop place =
      (first.bitAt bytes stop place || second.bitAt bytes stop place) := by
  simp only [UnpackTrace.bitAt, Nat.testBit_or]
  grind

theorem UnpackOp.testBit_term (op : UnpackOp) (byte : ℕ) (fits : byte < 256) (low : op.right ≤ 7)
    {place : ℕ} (inside : place < 64) :
    (op.term byte).testBit place =
      (op.cover.testBit place && byte.testBit (place + op.right - op.left) ||
        op.signed && decide (32 ≤ place) && byte.testBit (31 + op.right - op.left)) := by
  have shifted : ∀ place, (((byte >>> op.right) &&& op.mask) <<< op.left).testBit place =
      (((op.mask % 2 ^ (8 - op.right)) <<< op.left).testBit place &&
        byte.testBit (place + op.right - op.left)) := by
    intro place
    rw [Nat.testBit_shiftLeft, Nat.testBit_shiftLeft, Nat.testBit_and, Nat.testBit_shiftRight,
      Nat.testBit_mod_two_pow]
    by_cases reached : op.left ≤ place
    · have lane : place + op.right - op.left = op.right + (place - op.left) := by omega
      rw [lane]
      -- The byte has eight bits: the mask counts below them only.
      by_cases small : place - op.left < 8 - op.right
      · simp [reached, small, Bool.and_comm]
      · have wide : 8 ≤ op.right + (place - op.left) := by omega
        have high : byte < 2 ^ (op.right + (place - op.left)) :=
          fits.trans_le (show 2 ^ 8 ≤ 2 ^ _ from Nat.pow_le_pow_right Nat.two_pos wide)
        simp [small, Nat.testBit_lt_two_pow high]
    · simp [reached]
  unfold UnpackOp.term UnpackOp.signed UnpackOp.cover
  cases op.type with
  | u64 =>
    simp only [BitVec.toNat_ofNat, Nat.testBit_mod_two_pow, inside, decide_true, Bool.true_and,
      shifted, Bool.false_and, Bool.or_false]
  -- An `int` operand is extended by its sign, so bit 31 fills the upper half.
  | int =>
    simp only [BitVec.testBit_toNat, BitVec.getLsbD_signExtend, inside, decide_true, Bool.true_and,
      BitVec.msb_eq_getLsbD_last, BitVec.getLsbD_ofNat, shifted, Nat.testBit_mod_two_pow]
    by_cases small : place < 32
    · simp [small]
    · simp [small, not_lt.mp small]

theorem UnpackOp.term_lt (op : UnpackOp) (byte : ℕ) : op.term byte < 2 ^ 64 := by
  unfold UnpackOp.term
  cases op.type <;> exact BitVec.isLt _

theorem UnpackOp.testBit_aligned {op : UnpackOp} {width ptr : ℕ}
    (aligned : op.aligned width ptr = true) (bytes : List UInt8) (base : ℕ) {place : ℕ}
    (inside : place < 64) :
    (op.term (bytes[base + ptr]?.getD 0).toNat).testBit place =
      UnpackTrace.bitAt ⟨op.cover, op.signed⟩ bytes (8 * base + (op.index + 1) * width) place := by
  simp only [UnpackOp.aligned, Bool.and_eq_true, beq_iff_eq, Nat.ble_eq] at aligned
  obtain ⟨line, low⟩ := aligned
  rw [op.testBit_term _ (UInt8.toNat_lt _) low inside, UnpackTrace.bitAt]
  -- Only lanes inside the byte are covered.
  have lanes : ∀ place, op.cover.testBit place = true →
      op.left ≤ place ∧ place + op.right - op.left < 8 := by
    intro place covered
    have inner : ((op.mask % 2 ^ (8 - op.right)) <<< op.left).testBit place = true := by
      unfold UnpackOp.cover at covered
      cases kind : op.type <;> simp only [kind, Nat.testBit_mod_two_pow, Bool.and_eq_true] at covered <;>
        exact covered.2
    rw [Nat.testBit_shiftLeft, Nat.testBit_mod_two_pow] at inner
    simp only [Bool.and_eq_true, decide_eq_true_iff] at inner
    omega
  have moved : ∀ place, op.cover.testBit place = true →
      (bytes[base + ptr]?.getD 0).toNat.testBit (place + op.right - op.left) =
        bit bytes (8 * base + (op.index + 1) * width - 1 - place) := by
    intro place covered
    obtain ⟨reached, lane⟩ := lanes place covered
    have index : (8 * base + (op.index + 1) * width - 1 - place) / 8 = base + ptr := by omega
    have offset : 7 - (8 * base + (op.index + 1) * width - 1 - place) % 8 =
        place + op.right - op.left := by omega
    rw [bit, index, offset]
  congr 1
  · cases covered : op.cover.testBit place with
    | false => rfl
    | true => rw [moved place covered]
  · cases sign : op.signed with
    | false => rfl
    | true =>
      have covered : op.cover.testBit 31 = true := by
        unfold UnpackOp.signed at sign
        cases kind : op.type <;> simp only [kind] at sign
        · exact sign
        · cases sign
      rw [moved 31 covered]

theorem runUnpack_spec {bytes : List UInt8} {base width : ℕ} (ops : List UnpackOp) {ptr : ℕ}
    {values : List ℕ} (indices : ∀ op ∈ ops, op.index < values.length)
    (reads : ∀ visited ∈ UnpackOp.visits ops ptr, base + visited < bytes.length)
    (small : ∀ value ∈ values, value < 2 ^ 64) :
    ∃ result, runUnpack bytes ops (base + ptr) values = .ok result ∧
      result.length = values.length ∧ (∀ value ∈ result, value < 2 ^ 64) ∧
      ∀ index < values.length, ∀ place < 64, ∀ before after : Option UnpackTrace,
        UnpackOp.trace width index ops ptr before = after →
        (∀ known ∈ before, (values.getD index 0).testBit place =
          known.bitAt bytes (8 * base + (index + 1) * width) place) →
        ∀ known ∈ after, (result.getD index 0).testBit place =
          known.bitAt bytes (8 * base + (index + 1) * width) place := by
  induction ops generalizing ptr values with
  | nil =>
    refine ⟨values, rfl, rfl, small, fun index _ place _ before after same known => ?_⟩
    subst same
    exact known
  | cons op rest ih =>
    have here := reads ptr List.mem_cons_self
    -- What the statement leaves in its value.
    obtain ⟨value, assigned⟩ : ∃ value, value = (match op.assign with
      | .set => op.term (bytes[base + ptr]?.getD 0).toNat
      | .or => values.getD op.index 0 ||| op.term (bytes[base + ptr]?.getD 0).toNat) := ⟨_, rfl⟩
    have old : values.getD op.index 0 < 2 ^ 64 := by
      rw [List.getD_eq_getElem _ _ (indices op List.mem_cons_self)]
      exact small _ (List.getElem_mem _)
    have valueSmall : value < 2 ^ 64 := by
      rw [assigned]
      cases op.assign with
      | set => exact op.term_lt _
      | or => exact Nat.or_lt_two_pow old (op.term_lt _)
    have step : base + op.step.from ptr = op.step.from (base + ptr) := by
      cases op.step <;> rfl
    obtain ⟨result, run, length, resultSmall, traced⟩ := @ih (op.step.from ptr)
      (values.set op.index value)
      (fun other member => by simpa using indices other (List.mem_cons_of_mem _ member))
      (fun visited member => reads visited (List.mem_cons_of_mem _ member))
      (fun other member => by
        rcases List.mem_or_eq_of_mem_set member with member | rfl
        · exact small other member
        · exact valueSmall)
    rw [List.length_set] at length traced
    refine ⟨result, ?_, length, resultSmall, fun index inside place low before after same start => ?_⟩
    · subst assigned
      cases kind : op.assign <;> simp [runUnpack, readByte_eq here, kind, ← run, step]
    · refine traced index inside place low _ after same fun known now => ?_
      -- The trace moves on only at the value that the statement is about.
      by_cases target : op.index = index
      · subst target
        rw [beq_self_eq_true, if_pos rfl] at now
        split at now
        next aligned =>
          rw [List.getD_eq_getElem _ _ (by simpa using inside), List.getElem_set_self, assigned]
          cases kind : op.assign with
          | set =>
            simp only [kind, Option.mem_some_iff] at now
            rw [← now, op.testBit_aligned aligned bytes base low]
          | or =>
            simp only [kind, Option.mem_def, Option.map_eq_some_iff] at now
            obtain ⟨known, was, rfl⟩ := now
            rw [Nat.testBit_or, start known was, op.testBit_aligned aligned bytes base low,
              ← UnpackTrace.bitAt_or]
        next => cases now
      · rw [if_neg (by simpa using target)] at now
        rw [List.getD_eq_getElem?_getD, List.getElem?_set_ne target, ← List.getD_eq_getElem?_getD]
        exact start known now

/-- How the value of a block field comes out of the routine for its width. Two
widths slip: at 33 the last value extends the sign of an `int`, and at 35 the
third one masks a bit away. -/
def unpackSlip (width index number : ℕ) : ℕ :=
  if width = 33 ∧ index = 7 then
    if number.testBit 31 then number ||| ((2 ^ 32 - 1) <<< 32) else number
  else if width = 35 ∧ index = 2 then number &&& (2 ^ 35 - 1 - 2 ^ 33)
  else number

theorem unpackSlip_lt {width index number : ℕ} (narrow : width < 64) (small : number < 2 ^ width) :
    unpackSlip width index number < 2 ^ 64 := by
  have bound : number < 2 ^ 64 :=
    small.trans_le (Nat.pow_le_pow_right Nat.two_pos (by omega))
  unfold unpackSlip
  split_ifs
  · exact Nat.or_lt_two_pow bound (by decide)
  · exact bound
  · exact Nat.and_lt_two_pow _ (by decide)
  · exact bound

def unpackTrace (width index : ℕ) : UnpackTrace :=
  if width = 33 ∧ index = 7 then ⟨2 ^ 33 - 1, true⟩
  else if width = 35 ∧ index = 2 then ⟨2 ^ 35 - 1 - 2 ^ 33, false⟩
  else ⟨2 ^ width - 1, false⟩

theorem unpackBlockOps_trace : ∀ width < 64, 0 < width → ∃ ops, unpackBlockOps width = some ops ∧
    UnpackOp.contained width ops = true ∧
    ∀ index < 8, UnpackOp.trace width index ops 0 none = some (unpackTrace width index) := by
  have checked : ∀ width < 64, 0 < width → (unpackBlockOps width).any (fun ops =>
      UnpackOp.contained width ops && (List.range 8).all fun index =>
        decide (UnpackOp.trace width index ops 0 none = some (unpackTrace width index))) = true := by
    decide +kernel
  intro width high low
  obtain ⟨ops, found, known⟩ := (Option.any_eq_true _ _).mp (checked width high low)
  simp only [Bool.and_eq_true, List.all_eq_true, List.mem_range, decide_eq_true_iff] at known
  exact ⟨ops, found, known.1, known.2⟩

theorem bitAt_unpackTrace (bytes : List UInt8) (start : ℕ) {width index place : ℕ}
    (inside : place < 64) :
    (unpackTrace width index).bitAt bytes (start + width) place =
      (unpackSlip width index (value bytes start width)).testBit place := by
  have plain : (UnpackTrace.mk (2 ^ width - 1) false).bitAt bytes (start + width) place =
      (value bytes start width).testBit place := by
    rw [UnpackTrace.bitAt, Nat.testBit_two_pow_sub_one, testBit_value]
    by_cases low : place < width
    · have position : start + width - 1 - place = start + (width - 1 - place) := by omega
      simp [low, position]
    · simp [low]
  unfold unpackTrace unpackSlip
  split
  -- Width 33: the sign of the last byte spreads over the last value.
  next last =>
    obtain ⟨rfl, rfl⟩ := last
    have sign : bit bytes (start + 33 - 1 - 31) = (value bytes start 33).testBit 31 := by
      rw [testBit_value]
      rfl
    have upper : (UnpackTrace.mk (2 ^ 33 - 1) true).bitAt bytes (start + 33) place =
        ((value bytes start 33).testBit place ||
          decide (32 ≤ place) && (value bytes start 33).testBit 31) := by
      rw [← plain, ← sign]
      simp [UnpackTrace.bitAt]
    rw [upper]
    split
    next set =>
      rw [Nat.testBit_or, Nat.testBit_shiftLeft, Nat.testBit_two_pow_sub_one, set]
      have below : place - 32 < 32 := by omega
      simp [below]
    next clear =>
      simp [clear]
  next =>
    split
    -- Width 35: a bit of the third value is never taken over.
    next third =>
      obtain ⟨rfl, rfl⟩ := third
      have cover : ∀ place < 64, (2 ^ 35 - 1 - 2 ^ 33).testBit place =
          ((2 ^ 35 - 1).testBit place && (2 ^ 35 - 1 - 2 ^ 33).testBit place) := by decide +kernel
      rw [Nat.testBit_and, ← plain]
      simp only [UnpackTrace.bitAt, Bool.false_and, Bool.or_false]
      rw [cover place inside]
      cases (2 ^ 35 - 1).testBit place <;> cases (2 ^ 35 - 1 - 2 ^ 33).testBit place <;> simp
    next => exact plain

theorem unpackBitsBlock8_spec {bytes : List UInt8} {base width : ℕ} {values : List ℕ}
    (positive : 0 < width) (narrow : width < 64) (inside : base + width ≤ bytes.length)
    (eight : values.length = 8) (small : ∀ value ∈ values, value < 2 ^ 64) :
    unpackBitsBlock8 values bytes base width = .ok ((List.range 8).map fun index =>
      unpackSlip width index (value bytes (8 * base + index * width) width)) := by
  obtain ⟨ops, found, contained, traced⟩ := unpackBlockOps_trace width narrow positive
  simp only [UnpackOp.contained, Bool.and_eq_true, List.all_eq_true, Nat.blt_eq] at contained
  obtain ⟨result, run, length, resultSmall, known⟩ := @runUnpack_spec bytes base width
    ops 0 values (fun op member => by rw [eight]; exact contained.2 op member)
    (fun visited member => by have := contained.1 visited member; omega) small
  rw [Nat.add_zero] at run
  rw [eight] at length known
  have exact_value : ∀ index < 8, result.getD index 0 =
      unpackSlip width index (value bytes (8 * base + index * width) width) := by
    intro index low
    apply Nat.eq_of_testBit_eq
    intro place
    -- Below bit 64 the trace decides, above it every bit is clear.
    by_cases inner : place < 64
    · have stop : 8 * base + (index + 1) * width = 8 * base + index * width + width := by
        ring
      rw [known index low place inner none _ (traced index low) (by rintro _ ⟨⟩)
        _ rfl, stop, bitAt_unpackTrace _ _ inner]
    · have outer : ∀ number < 2 ^ 64, number.testBit place = false := fun number bound =>
        Nat.testBit_lt_two_pow (bound.trans_le (Nat.pow_le_pow_right Nat.two_pos (by omega)))
      rw [outer, outer]
      · exact unpackSlip_lt narrow (value_lt _ _ _)
      · rw [List.getD_eq_getElem _ _ (by omega)]
        exact resultSmall _ (List.getElem_mem _)
  simp only [unpackBitsBlock8, found, run]
  refine congrArg _ ?_
  apply List.ext_getElem (by simp [length])
  intro index left right
  rw [List.getElem_map, List.getElem_range, ← exact_value index (by omega),
    List.getD_eq_getElem _ _ left]

theorem runUnpack_inside {bytes : List UInt8} {base : ℕ} (ops : List UnpackOp) {ptr : ℕ}
    {values : List ℕ} (defined : Defined (runUnpack bytes ops (base + ptr) values)) :
    ∀ visited ∈ UnpackOp.visits ops ptr, base + visited < bytes.length := by
  induction ops generalizing ptr values with
  | nil => simp [UnpackOp.visits]
  | cons op rest ih =>
    rw [runUnpack, defined_bind_iff, readByte_defined_iff] at defined
    have here := defined.1
    have after := defined.2 _ (readByte_eq here)
    have step : base + op.step.from ptr = op.step.from (base + ptr) := by
      cases op.step <;> rfl
    rw [← step] at after
    intro visited member
    rcases List.mem_cons.mp member with rfl | member
    · exact here
    · exact ih after visited member

theorem unpackBitsBlock8_defined_iff {bytes : List UInt8} {base width : ℕ} {values : List ℕ}
    (positive : 0 < width) (narrow : width < 64) (eight : values.length = 8)
    (small : ∀ value ∈ values, value < 2 ^ 64) :
    Defined (unpackBitsBlock8 values bytes base width) ↔ base + width ≤ bytes.length := by
  refine ⟨fun defined => ?_, fun inside => ?_⟩
  · have last : ∀ width < 64, 0 < width → (unpackBlockOps width).any (fun ops =>
        decide (width - 1 ∈ UnpackOp.visits ops 0)) = true := by decide +kernel
    obtain ⟨ops, found, known⟩ := (Option.any_eq_true _ _).mp (last width narrow positive)
    rw [unpackBitsBlock8, found] at defined
    have := runUnpack_inside ops defined _ (of_decide_eq_true known)
    omega
  · rw [unpackBitsBlock8_spec positive narrow inside eight small]
    exact defined_ok _

/-! Packing. -/

namespace PackOp

def cover (op : PackOp) (width : ℕ) : ℕ := ((2 ^ width - 1) <<< op.left >>> op.right) % 256

def aligned (op : PackOp) (width ptr : ℕ) : Bool :=
  8 * ptr + 8 + op.right == (op.index + 1) * width + op.left && (op.left == 0 || op.right == 0)

def trace (width byte : ℕ) : List PackOp → ℕ → Option ℕ → Option ℕ
  | [], _, known => known
  | op :: rest, ptr, known =>
    let known := if ptr == byte then
        if op.aligned width ptr then
          match op.assign with
          | .set => some (op.cover width)
          | .or => known.map (· ||| op.cover width)
        else none
      else known
    trace width byte rest (op.step.from ptr) known

/-- What the statements leave in one byte. There is no answer before it was assigned. -/
def written (values : List ℕ) (byte : ℕ) : List PackOp → ℕ → Option ℕ → Option ℕ
  | [], _, known => known
  | op :: rest, ptr, known =>
    let known := if ptr = byte then
        match op.assign with
        | .set => some (op.term (values.getD op.index 0))
        | .or => known.map (· ||| op.term (values.getD op.index 0))
      else known
    written values byte rest (op.step.from ptr) known

def visits : List PackOp → ℕ → List ℕ
  | [], _ => []
  | op :: rest, ptr => ptr :: visits rest (op.step.from ptr)

def contained (width : ℕ) (ops : List PackOp) : Bool :=
  (visits ops 0).all (fun ptr => ptr.blt width) && ops.all fun op => op.index.blt 8

theorem term_lt (op : PackOp) (value : ℕ) : op.term value < 256 := Nat.mod_lt _ (by decide)

end PackOp

theorem runPack_spec {values : List ℕ} {base : ℕ} (ops : List PackOp) {ptr : ℕ}
    {buffer : List UInt8} (writes : ∀ visited ∈ PackOp.visits ops ptr, base + visited < buffer.length) :
    ∃ result, runPack values ops buffer (base + ptr) = .ok result ∧
      result.length = buffer.length ∧
      (∀ index, (∀ visited ∈ PackOp.visits ops ptr, base + visited ≠ index) →
        result[index]? = buffer[index]?) ∧
      ∀ byte, base + byte < buffer.length → ∀ before after : Option ℕ,
        PackOp.written values byte ops ptr before = after →
        (∀ known ∈ before, ((buffer[base + byte]?).getD 0).toNat = known ∧ known < 256) →
        ∀ known ∈ after, ((result[base + byte]?).getD 0).toNat = known ∧ known < 256 := by
  induction ops generalizing ptr buffer with
  | nil =>
    refine ⟨buffer, rfl, rfl, fun _ _ => rfl, fun byte _ before after same known => ?_⟩
    subst same
    exact known
  | cons op rest ih =>
    have here := writes ptr List.mem_cons_self
    -- What the statement leaves under the pointer.
    obtain ⟨number, stored⟩ : ∃ number, number = (match op.assign with
      | .set => op.term (values.getD op.index 0)
      | .or => ((buffer[base + ptr]?).getD 0).toNat ||| op.term (values.getD op.index 0)) := ⟨_, rfl⟩
    have small : number < 256 := by
      rw [stored]
      cases op.assign with
      | set => exact op.term_lt _
      | or => exact Nat.or_lt_two_pow (n := 8) (UInt8.toNat_lt _) (op.term_lt _)
    have step : base + op.step.from ptr = op.step.from (base + ptr) := by
      cases op.step <;> rfl
    obtain ⟨result, run, length, others, bytes⟩ := @ih (op.step.from ptr)
      (buffer.set (base + ptr) (UInt8.ofNat number))
      (fun visited member => by simpa using writes visited (List.mem_cons_of_mem _ member))
    rw [List.length_set] at length bytes
    refine ⟨result, ?_, length, fun index away => ?_, fun byte inside before after same start => ?_⟩
    · rw [runPack, ← run, step, stored]
      cases op.assign with
      | set => simp only [writeByte, if_pos here, Run.ok_bind]
      | or => simp only [orByte, readByte_eq here, Run.ok_bind, writeByte, if_pos here]
    · rw [others index fun visited member => away visited (List.mem_cons_of_mem _ member),
        List.getElem?_set_ne (away ptr List.mem_cons_self)]
    · refine bytes byte inside _ after same fun known now => ?_
      -- Other bytes keep what they have.
      by_cases target : ptr = byte
      · subst target
        rw [List.getElem?_set_self here, Option.getD_some, UInt8.toNat_ofNat', Nat.mod_eq_of_lt small]
        rw [if_pos rfl] at now
        cases kind : op.assign with
        | set =>
          simp only [kind, Option.mem_some_iff] at now stored
          exact ⟨stored.trans now, now ▸ op.term_lt _⟩
        | or =>
          simp only [kind, Option.mem_def, Option.map_eq_some_iff] at now stored
          obtain ⟨known, was, rfl⟩ := now
          obtain ⟨same_byte, _⟩ := start known was
          rw [same_byte] at stored
          exact ⟨stored, stored ▸ small⟩
      · rw [if_neg target] at now
        rw [List.getElem?_set_ne (by omega)]
        exact start known now

def field (values : ℕ → ℕ) (width position : ℕ) : Bool :=
  (values (position / width)).testBit (width - 1 - position % width)

theorem PackOp.testBit_term (op : PackOp) (value : ℕ) {place : ℕ} (inside : place < 8) :
    (op.term value).testBit place = (decide (op.right + place < 64) &&
      (decide (op.left ≤ op.right + place) && value.testBit (op.right + place - op.left))) := by
  rw [PackOp.term, show 256 = 2 ^ 8 from rfl, Nat.testBit_mod_two_pow, Nat.testBit_shiftRight,
    Nat.testBit_mod_two_pow, Nat.testBit_shiftLeft]
  simp [inside]

theorem PackOp.testBit_aligned {op : PackOp} {width ptr : ℕ}
    (aligned : op.aligned width ptr = true) (values : ℕ → ℕ)
    (small : values op.index < 2 ^ width) (narrow : width < 64) {place : ℕ} (inside : place < 8) :
    (op.term (values op.index)).testBit place =
      ((op.cover width).testBit place && field values width (8 * ptr + (7 - place))) := by
  simp only [PackOp.aligned, Bool.and_eq_true, Bool.or_eq_true, beq_iff_eq] at aligned
  obtain ⟨line, oneWay⟩ := aligned
  have expand : (op.index + 1) * width = width * op.index + width := by ring
  rw [expand] at line
  have cover : (op.cover width).testBit place = (decide (op.left ≤ op.right + place) &&
      decide (op.right + place - op.left < width)) := by
    rw [PackOp.cover, show 256 = 2 ^ 8 from rfl, Nat.testBit_mod_two_pow, Nat.testBit_shiftRight,
      Nat.testBit_shiftLeft, Nat.testBit_two_pow_sub_one]
    simp [inside]
  rw [op.testBit_term _ inside, cover]
  by_cases reached : op.left ≤ op.right + place
  · -- Bits shifted in from below are clear, and so are those above the value.
    by_cases covered : op.right + place - op.left < width
    · have within : op.right + place < 64 := by omega
      have position : 8 * ptr + (7 - place) =
          width * op.index + (width - 1 - (op.right + place - op.left)) := by omega
      have positive : 0 < width := by omega
      have rest : width - 1 - (op.right + place - op.left) < width := by omega
      have lane : width - 1 - (width - 1 - (op.right + place - op.left)) =
          op.right + place - op.left := by omega
      rw [field, position, Nat.mul_add_div positive, Nat.div_eq_of_lt rest, Nat.add_zero,
        Nat.mul_add_mod, Nat.mod_eq_of_lt rest, lane]
      simp [within, reached, covered]
    · have above : values op.index < 2 ^ (op.right + place - op.left) :=
        small.trans_le (Nat.pow_le_pow_right Nat.two_pos (by omega))
      simp [covered, Nat.testBit_lt_two_pow above]
  · simp [reached]

theorem PackOp.written_of_trace {values : List ℕ} {width : ℕ} (narrow : width < 64) (byte : ℕ)
    (ops : List PackOp) (small : ∀ op ∈ ops, values.getD op.index 0 < 2 ^ width) (ptr : ℕ)
    {filled known : Option ℕ}
    (start : ∀ cover ∈ filled, ∃ number ∈ known, ∀ place < 8, number.testBit place =
      (cover.testBit place && field (values.getD · 0) width (8 * byte + (7 - place)))) :
    ∀ cover ∈ PackOp.trace width byte ops ptr filled,
      ∃ number ∈ PackOp.written values byte ops ptr known, ∀ place < 8, number.testBit place =
        (cover.testBit place && field (values.getD · 0) width (8 * byte + (7 - place))) := by
  induction ops generalizing ptr filled known with
  | nil => exact start
  | cons op rest ih =>
    refine ih (fun other member => small other (List.mem_cons_of_mem _ member)) _ ?_
    -- A statement changes the byte under the pointer only.
    by_cases target : ptr = byte
    · subst target
      intro cover member
      rw [beq_self_eq_true, if_pos rfl] at member
      split at member
      next aligned =>
        have moved := @PackOp.testBit_aligned _ _ _ aligned
          (values.getD · 0) (small op List.mem_cons_self) narrow
        rw [if_pos rfl]
        cases kind : op.assign with
        | set =>
          simp only [kind, Option.mem_some_iff] at member ⊢
          exact ⟨_, rfl, fun place inside => by rw [← member, moved inside]⟩
        | or =>
          simp only [kind, Option.mem_def, Option.map_eq_some_iff] at member ⊢
          obtain ⟨before, was, rfl⟩ := member
          obtain ⟨number, stored, bits⟩ := start before was
          refine ⟨_, ⟨number, stored, rfl⟩, fun place inside => ?_⟩
          rw [Nat.testBit_or, Nat.testBit_or, bits place inside, moved inside]
          cases before.testBit place <;> cases (op.cover width).testBit place <;> simp
      next => cases member
    · rw [if_neg target, if_neg (by simpa using target)]
      exact start

/-- What the values of a block turn into when they are packed. Width 13 slips:
the low bits of the fourth value are taken from its upper ones, and the bits
between them spill into the fifth value. -/
def packSlip (width : ℕ) (values : List ℕ) (index : ℕ) : ℕ :=
  let number := values.getD index 0
  if width = 13 ∧ index = 3 then (number &&& 0x1ff0) ||| ((number >>> 8) &&& 0xf)
  else if width = 13 ∧ index = 4 then number ||| (((values.getD 3 0 >>> 4) &&& 0xf) <<< 9)
  else number

/-- Into bytes that hold zero every place is filled from its own value. At width 19
this needs the zero: byte 10 is or-ed without having been assigned. -/
theorem packBlockOps_trace : ∀ width < 64, 0 < width → ∃ ops, packBlockOps width = some ops ∧
    PackOp.contained width ops = true ∧
    ∀ byte < width, ¬ (width = 13 ∧ byte = 6) → PackOp.trace width byte ops 0 (some 0) = some 255 := by
  have checked : ∀ width < 64, 0 < width → (packBlockOps width).any (fun ops =>
      PackOp.contained width ops && (List.range width).all fun byte => width == 13 && byte == 6 ||
        decide (PackOp.trace width byte ops 0 (some 0) = some 255)) = true := by decide +kernel
  intro width high low
  obtain ⟨ops, found, known⟩ := (Option.any_eq_true _ _).mp (checked width high low)
  simp only [Bool.and_eq_true, List.all_eq_true, List.mem_range, Bool.or_eq_true, beq_iff_eq,
    decide_eq_true_iff] at known
  exact ⟨ops, found, known.1, fun byte inside other => (known.2 byte inside).resolve_left other⟩

theorem field_packSlip {values : List ℕ} {width position : ℕ}
    (small : ∀ index, values.getD index 0 < 2 ^ width)
    (other : ¬ (width = 13 ∧ position / 8 = 6)) :
    field (packSlip width values) width position = field (values.getD · 0) width position := by
  by_cases slips : width = 13
  · subst slips
    replace other : position / 8 ≠ 6 := fun same => other ⟨rfl, same⟩
    obtain ⟨place, inside⟩ : ∃ place, place = 13 - 1 - position % 13 := ⟨_, rfl⟩
    simp only [field, packSlip, true_and, ← inside]
    split
    next fourth =>
      have upper : 4 ≤ place ∧ place < 13 := by omega
      rw [Nat.testBit_or, Nat.testBit_and, Nat.testBit_and, fourth]
      have kept : ∀ place < 13, 4 ≤ place →
          (0x1ff0).testBit place = true ∧ (0xf).testBit place = false := by decide
      rw [(kept place upper.2 upper.1).1, (kept place upper.2 upper.1).2]
      simp
    next =>
      split
      next fifth =>
        have lower : ¬ 9 ≤ place := by omega
        rw [Nat.testBit_or, Nat.testBit_shiftLeft]
        simp [lower]
      next => rfl
  · simp [field, packSlip, slips]

theorem testBit_written13 {values : List ℕ}
    (small : ∀ index, values.getD index 0 < 2 ^ 13) {place : ℕ} (inside : place < 8) :
    ∃ number ∈ PackOp.written values 6 packBits13 0 (some 0),
      number.testBit place = field (packSlip 13 values) 13 (8 * 6 + (7 - place)) := by
  obtain ⟨fourth, isFourth⟩ : ∃ fourth, fourth = values.getD 3 0 := ⟨_, rfl⟩
  obtain ⟨fifth, isFifth⟩ : ∃ fifth, fifth = values.getD 4 0 := ⟨_, rfl⟩
  have written : PackOp.written values 6 packBits13 0 (some 0) =
      some ((⟨.set, .stay, 3, 0, 4⟩ : PackOp).term fourth |||
        (⟨.or, .next, 4, 0, 9⟩ : PackOp).term fifth) := by
    simp [packBits13, PackOp.written, Step.from, isFourth, isFifth]
  have low : ∀ shift ≤ 9, shift + place < 64 := by omega
  refine ⟨_, written, ?_⟩
  simp only [Nat.testBit_or, PackOp.testBit_term _ _ inside, low 4 (by decide), low 9 (by decide),
    decide_true, Bool.true_and, Nat.zero_le, Nat.sub_zero]
  have above : ∀ place, 13 ≤ place → fifth.testBit place = false := fun place high =>
    Nat.testBit_lt_two_pow ((isFifth ▸ small 4 : fifth < 2 ^ 13).trans_le
      (Nat.pow_le_pow_right Nat.two_pos high))
  have nibble : ∀ place < 4, (15 : ℕ).testBit place = true := by decide
  -- The high four bits belong to the fourth value, the low four to the fifth.
  by_cases upper : 4 ≤ place
  · have line : 8 * 6 + (7 - place) = 13 * 3 + (12 - (place - 4)) := by omega
    have rest : 12 - (place - 4) < 13 := by omega
    have lane : 13 - 1 - (12 - (place - 4)) = place - 4 := by omega
    rw [field, line, Nat.mul_add_div (by decide), Nat.div_eq_of_lt rest, Nat.mul_add_mod,
      Nat.mod_eq_of_lt rest, lane, above _ (by omega)]
    have kept : ∀ place < 4, (8176 : ℕ).testBit place = false := by decide
    have moved : 8 + (place - 4) = 4 + place := by omega
    simp [packSlip, isFourth, Nat.testBit_shiftRight, kept _ (show place - 4 < 4 by omega),
      nibble _ (show place - 4 < 4 by omega), moved]
  · have line : 8 * 6 + (7 - place) = 13 * 4 + (12 - (9 + place)) := by omega
    have rest : 12 - (9 + place) < 13 := by omega
    have lane : 13 - 1 - (12 - (9 + place)) = 9 + place := by omega
    rw [field, line, Nat.mul_add_div (by decide), Nat.div_eq_of_lt rest, Nat.mul_add_mod,
      Nat.mod_eq_of_lt rest, lane]
    simp [packSlip, isFourth, isFifth, nibble _ (not_le.mp upper), Bool.or_comm]

/-- Into bytes that hold zero a block routine writes the fields of the layout, with
the slips, and it leaves the other bytes alone. -/
theorem packBitsBlock8_spec {buffer : List UInt8} {base width : ℕ} {values : List ℕ}
    (positive : 0 < width) (narrow : width < 64) (room : base + width ≤ buffer.length)
    (zero : ∀ byte < width, (buffer[base + byte]?).getD 0 = 0)
    (small : ∀ index, values.getD index 0 < 2 ^ width) :
    ∃ result, packBitsBlock8 values buffer base width = .ok result ∧
      result.length = buffer.length ∧
      (∀ index, index < base ∨ base + width ≤ index → result[index]? = buffer[index]?) ∧
      ∀ position < 8 * width, bit result (8 * base + position) =
        field (packSlip width values) width position := by
  obtain ⟨ops, found, contained, traced⟩ := packBlockOps_trace width narrow positive
  simp only [PackOp.contained, Bool.and_eq_true, List.all_eq_true, Nat.blt_eq] at contained
  obtain ⟨result, run, length, others, bytes⟩ := @runPack_spec values base ops
    0 buffer (fun visited member => by have := contained.1 visited member; omega)
  refine ⟨result, by rw [packBitsBlock8, found]; exact run, length,
    fun index away => others index fun visited member same => ?_, fun position inside => ?_⟩
  · have := contained.1 visited member
    omega
  · have byte : position / 8 < width := by omega
    have place : 7 - position % 8 < 8 := by omega
    -- The byte holds what the layout of the slipped values has in its places.
    have known : ∃ number ∈ PackOp.written values (position / 8) ops 0 (some 0),
        number.testBit (7 - position % 8) = field (packSlip width values) width position := by
      have line : 8 * (position / 8) + (7 - (7 - position % 8)) = position := by omega
      by_cases slips : width = 13 ∧ position / 8 = 6
      · obtain ⟨rfl, sixth⟩ := slips
        cases found
        have known := testBit_written13 small place
        rw [← sixth, line] at known
        exact known
      · obtain ⟨number, stored, bits⟩ := @PackOp.written_of_trace _ _ narrow (position / 8) ops
          (fun op _ => small op.index) 0 (some 0) (some 0)
          (fun cover member => ⟨0, rfl, fun place _ => by cases member; simp⟩) 255
          (traced _ byte slips)
        have full : ∀ place < 8, (255 : ℕ).testBit place = true := by decide
        refine ⟨number, stored, ?_⟩
        rw [bits _ place, full _ place, Bool.true_and, line, field_packSlip small slips]
    obtain ⟨number, stored, bits⟩ := known
    obtain ⟨same, _⟩ := bytes (position / 8) (by omega) (some 0) _ rfl
      (fun known now => by cases now; rw [zero _ byte]; exact ⟨rfl, by decide⟩) number stored
    have index : (8 * base + position) / 8 = base + position / 8 := by omega
    have offset : (8 * base + position) % 8 = position % 8 := by omega
    rw [bit, index, offset, same, bits]

end ThetaSketch
