import ThetaSketch.Format.Blocks
import ThetaSketch.Format.Serializer
import ThetaSketch.Format.StreamSerializer

/-! What packing takes from the buffer it writes into.

Packing commutes with bytes put before and after the buffer. What the buffer held
does not show in the bytes that were filled, save for one byte of width 19.
-/

set_option autoImplicit false

namespace ThetaSketch

/-! Bytes before and after the buffer. -/

section Append

variable {front buffer after rest : List UInt8} {index value : ℕ}

theorem writeByte_append (run : writeByte buffer index value = .ok after) :
    writeByte (front ++ buffer ++ rest) (front.length + index) value = .ok (front ++ after ++ rest) := by
  unfold writeByte at run ⊢
  split_ifs at run with inside
  cases run
  have wide : front.length + index < (front ++ buffer ++ rest).length := by
    simp only [List.length_append]
    omega
  rw [if_pos wide, List.append_assoc, List.set_append_right _ _ (Nat.le_add_right _ _),
    Nat.add_sub_cancel_left, List.set_append_left _ _ inside, List.append_assoc]

theorem writeByte_inside (run : writeByte buffer index value = .ok after) :
    index < buffer.length ∧ after.length = buffer.length := by
  unfold writeByte at run
  split_ifs at run with inside
  cases run
  exact ⟨inside, List.length_set⟩

theorem readByte_append {byte : ℕ} (run : readByte buffer index = .ok byte) :
    readByte (front ++ buffer ++ rest) (front.length + index) = .ok byte := by
  have inside : index < buffer.length := by
    rw [← readByte_defined_iff, run]
    exact defined_ok byte
  have wide : front.length + index < (front ++ buffer ++ rest).length := by
    simp only [List.length_append]
    omega
  rw [readByte_eq inside] at run
  rw [readByte_eq wide, ← run, List.append_assoc,
    List.getElem?_append_right (Nat.le_add_right _ _), Nat.add_sub_cancel_left,
    List.getElem?_append_left inside]

theorem orByte_append (run : orByte buffer index value = .ok after) :
    orByte (front ++ buffer ++ rest) (front.length + index) value = .ok (front ++ after ++ rest) := by
  obtain ⟨byte, read, write⟩ := Run.bind_eq_ok.mp run
  rw [orByte, readByte_append read, Run.ok_bind, writeByte_append write]

theorem orByte_inside (run : orByte buffer index value = .ok after) :
    index < buffer.length ∧ after.length = buffer.length := by
  obtain ⟨byte, read, write⟩ := Run.bind_eq_ok.mp run
  exact writeByte_inside write

theorem runPack_append {values : List ℕ} (ops : List PackOp) {ptr : ℕ}
    (run : runPack values ops buffer ptr = .ok after) :
    runPack values ops (front ++ buffer ++ rest) (front.length + ptr) = .ok (front ++ after ++ rest) := by
  induction ops generalizing buffer ptr with
  | nil => cases run; rfl
  | cons op others ih =>
    have step : front.length + op.step.from ptr = op.step.from (front.length + ptr) := by
      cases op.step <;> rfl
    simp only [runPack] at run ⊢
    cases kind : op.assign with
    | set =>
      simp only [kind] at run ⊢
      obtain ⟨middle, first, later⟩ := Run.bind_eq_ok.mp run
      rw [writeByte_append first, Run.ok_bind, ← step]
      exact ih later
    | or =>
      simp only [kind] at run ⊢
      obtain ⟨middle, first, later⟩ := Run.bind_eq_ok.mp run
      rw [orByte_append first, Run.ok_bind, ← step]
      exact ih later

theorem packWhole_append {number : ℕ} (whole : ℕ) {bits ptr ptr' offset' : ℕ}
    (run : packWhole number whole bits buffer ptr = .ok (after, ptr', offset')) :
    packWhole number whole bits (front ++ buffer ++ rest) (front.length + ptr) =
      .ok (front ++ after ++ rest, front.length + ptr', offset') := by
  induction whole generalizing bits buffer ptr with
  | zero =>
    rw [packWhole] at run ⊢
    split_ifs at run ⊢ with some_left
    · obtain ⟨middle, write, same⟩ := Run.bind_eq_ok.mp run
      cases same
      rw [writeByte_append write]
      rfl
    · cases run
      rfl
  | succ whole ih =>
    obtain ⟨middle, write, more⟩ := Run.bind_eq_ok.mp run
    rw [packWhole, writeByte_append write, Run.ok_bind]
    exact ih more

theorem packBits_append {number bits ptr offset ptr' offset' : ℕ}
    (run : packBits number bits buffer ptr offset = .ok (after, ptr', offset')) :
    packBits number bits (front ++ buffer ++ rest) (front.length + ptr) offset =
      .ok (front ++ after ++ rest, front.length + ptr', offset') := by
  unfold packBits at run ⊢
  dsimp only at run ⊢
  split_ifs at run ⊢ with shared short
  · obtain ⟨middle, ored, same⟩ := Run.bind_eq_ok.mp run
    cases same
    rw [orByte_append ored]
    rfl
  · obtain ⟨middle, ored, more⟩ := Run.bind_eq_ok.mp run
    rw [orByte_append ored]
    exact packWhole_append _ more
  · exact packWhole_append _ run

theorem packValues_append {width : ℕ} (values : List ℕ) {ptr offset ptr' offset' : ℕ}
    (run : packValues width values buffer ptr offset = .ok (after, ptr', offset')) :
    packValues width values (front ++ buffer ++ rest) (front.length + ptr) offset =
      .ok (front ++ after ++ rest, front.length + ptr', offset') := by
  induction values generalizing buffer ptr offset with
  | nil => cases run; rfl
  | cons value others ih =>
    obtain ⟨⟨middle, next, lane⟩, first, later⟩ := Run.bind_eq_ok.mp run
    rw [packValues, packBits_append first]
    exact ih later

end Append

/-- The stream writer forgets the bit offset after the last call. -/
theorem packTail_eq (width : ℕ) (deltas : List ℕ) (buffer : List UInt8) (ptr offset : ℕ) :
    packTail width deltas buffer ptr offset =
      (packValues width deltas buffer ptr offset).map fun result => (result.1, result.2.1) := by
  induction deltas generalizing buffer ptr offset with
  | nil => rfl
  | cons delta rest ih =>
    rw [packTail, packValues]
    cases packBits delta width buffer ptr offset with
    | error exit => rfl
    | ok result => exact ih _ _ _

theorem packTail_eq_ok {width : ℕ} {deltas : List ℕ} {buffer after : List UInt8} {ptr offset next : ℕ} :
    packTail width deltas buffer ptr offset = .ok (after, next) ↔
      ∃ lane, packValues width deltas buffer ptr offset = .ok (after, next, lane) := by
  rw [packTail_eq]
  cases packValues width deltas buffer ptr offset with
  | error exit => simp [Except.map]
  | ok result =>
    obtain ⟨bytes, place, lane⟩ := result
    simp [Except.map]

/-! What the buffer held. -/

def Alike (count : ℕ) (first second : List UInt8) : Prop :=
  ∀ index < count, first[index]? = second[index]?

section Alike

variable {first second : List UInt8} {ptr value : ℕ}

theorem Alike.mono {few many : ℕ} (alike : Alike many first second) (le : few ≤ many) :
    Alike few first second := fun index low => alike index (low.trans_le le)

theorem Alike.set (alike : Alike ptr first second) (left : ptr < first.length)
    (right : ptr < second.length) (byte : UInt8) :
    Alike (ptr + 1) (first.set ptr byte) (second.set ptr byte) := by
  intro index low
  by_cases here : index = ptr
  · subst here
    rw [List.getElem?_set_self left, List.getElem?_set_self right]
  · rw [List.getElem?_set_ne (Ne.symm here), List.getElem?_set_ne (Ne.symm here)]
    exact alike index (by omega)

theorem Alike.writeByte (alike : Alike ptr first second) (left : ptr < first.length)
    (right : ptr < second.length) (value : ℕ) :
    ∃ a b, ThetaSketch.writeByte first ptr value = .ok a ∧ ThetaSketch.writeByte second ptr value = .ok b ∧
      a.length = first.length ∧ b.length = second.length ∧ Alike (ptr + 1) a b :=
  ⟨_, _, if_pos left, if_pos right, List.length_set, List.length_set, alike.set left right _⟩

theorem Alike.orByte (alike : Alike (ptr + 1) first second) (left : ptr < first.length)
    (right : ptr < second.length) (value : ℕ) :
    ∃ a b, ThetaSketch.orByte first ptr value = .ok a ∧ ThetaSketch.orByte second ptr value = .ok b ∧
      a.length = first.length ∧ b.length = second.length ∧ Alike (ptr + 1) a b := by
  have byte := alike ptr (Nat.lt_succ_self ptr)
  obtain ⟨a, b, runA, runB, known⟩ := (alike.mono (Nat.le_succ ptr)).writeByte left right
    ((first[ptr]?.getD 0).toNat ||| value)
  refine ⟨a, b, ?_, ?_, known⟩
  · rw [ThetaSketch.orByte, readByte_eq left, Run.ok_bind, runA]
  · rw [ThetaSketch.orByte, readByte_eq right, Run.ok_bind, ← byte, runB]

theorem packWhole_alike {number : ℕ} (whole : ℕ) {bits : ℕ} (alike : Alike ptr first second)
    (low : 8 * whole ≤ bits) (high : bits < 8 * whole + 8) (left : 8 * ptr + bits ≤ 8 * first.length)
    (right : 8 * ptr + bits ≤ 8 * second.length) :
    ∃ a b, packWhole number whole bits first ptr = .ok (a, (8 * ptr + bits) / 8, (8 * ptr + bits) % 8) ∧
      packWhole number whole bits second ptr = .ok (b, (8 * ptr + bits) / 8, (8 * ptr + bits) % 8) ∧
      a.length = first.length ∧ b.length = second.length ∧ Alike ((8 * ptr + bits + 7) / 8) a b := by
  induction whole generalizing bits ptr first second with
  | zero =>
    have index : (8 * ptr + bits) / 8 = ptr := by omega
    have offset : (8 * ptr + bits) % 8 = bits := by omega
    rw [packWhole, packWhole, index, offset]
    by_cases some_left : 0 < bits
    · have stop : (8 * ptr + bits + 7) / 8 = ptr + 1 := by omega
      obtain ⟨a, b, runA, runB, lengthA, lengthB, both⟩ :=
        alike.writeByte (by omega) (by omega) (number <<< (8 - bits))
      rw [if_pos some_left, if_pos some_left, runA, runB, stop]
      exact ⟨a, b, rfl, rfl, lengthA, lengthB, both⟩
    · have stop : (8 * ptr + bits + 7) / 8 = ptr := by omega
      have none_left : bits = 0 := by omega
      rw [if_neg some_left, if_neg some_left, stop, none_left]
      exact ⟨first, second, rfl, rfl, rfl, rfl, alike⟩
  | succ whole ih =>
    obtain ⟨a, b, runA, runB, lengthA, lengthB, both⟩ :=
      alike.writeByte (by omega) (by omega) (number >>> (bits - 8))
    have stop : 8 * (ptr + 1) + (bits - 8) = 8 * ptr + bits := by omega
    obtain ⟨c, d, runC, runD, lengthC, lengthD, all⟩ :=
      @ih a b (ptr + 1) (bits - 8) both (by omega) (by omega) (by omega) (by omega)
    rw [stop] at runC runD all
    rw [packWhole, packWhole, runA, runB, Run.ok_bind, Run.ok_bind]
    exact ⟨c, d, runC, runD, lengthC.trans lengthA, lengthD.trans lengthB, all⟩

/-- The same bits put into two buffers leave the same bytes there, and both pointers
in the same place. -/
theorem packBits_alike {number bits offset : ℕ} (inner : offset < 8)
    (alike : Alike ((8 * ptr + offset + 7) / 8) first second)
    (left : 8 * ptr + offset + bits ≤ 8 * first.length)
    (right : 8 * ptr + offset + bits ≤ 8 * second.length) :
    ∃ a b, packBits number bits first ptr offset =
        .ok (a, (8 * ptr + offset + bits) / 8, (8 * ptr + offset + bits) % 8) ∧
      packBits number bits second ptr offset =
        .ok (b, (8 * ptr + offset + bits) / 8, (8 * ptr + offset + bits) % 8) ∧
      a.length = first.length ∧ b.length = second.length ∧
      Alike ((8 * ptr + offset + bits + 7) / 8) a b := by
  unfold packBits
  dsimp only
  -- The first write goes into a byte that holds earlier bits, or starts a byte.
  by_cases shared : 0 < offset
  · have here : (8 * ptr + offset + 7) / 8 = ptr + 1 := by omega
    rw [here] at alike
    rw [if_pos shared, if_pos shared]
    -- The value ends in that byte, or the rest of it follows in whole bytes.
    by_cases short : bits < 8 - offset
    · have index : (8 * ptr + offset + bits) / 8 = ptr := by omega
      have lane : (8 * ptr + offset + bits) % 8 = offset + bits := by omega
      have stop : (8 * ptr + offset + bits + 7) / 8 = ptr + 1 := by omega
      obtain ⟨a, b, runA, runB, lengthA, lengthB, both⟩ := alike.orByte (by omega) (by omega)
        ((number <<< (8 - offset - bits)) &&& (2 ^ (8 - offset) - 1))
      rw [if_pos short, if_pos short, runA, runB, index, lane, stop]
      exact ⟨a, b, rfl, rfl, lengthA, lengthB, both⟩
    · obtain ⟨a, b, runA, runB, lengthA, lengthB, both⟩ := alike.orByte (by omega) (by omega)
        ((number >>> (bits - (8 - offset))) &&& (2 ^ (8 - offset) - 1))
      have stop : 8 * (ptr + 1) + (bits - (8 - offset)) = 8 * ptr + offset + bits := by omega
      obtain ⟨c, d, runC, runD, lengthC, lengthD, all⟩ := @packWhole_alike a b (ptr + 1) number
        ((bits - (8 - offset)) / 8) (bits - (8 - offset)) both (by omega) (by omega) (by omega)
        (by omega)
      rw [stop] at runC runD all
      rw [if_neg short, if_neg short, runA, runB, Run.ok_bind, Run.ok_bind]
      exact ⟨c, d, runC, runD, lengthC.trans lengthA, lengthD.trans lengthB, all⟩
  · have none : offset = 0 := by omega
    subst none
    have here : (8 * ptr + 0 + 7) / 8 = ptr := by omega
    rw [here] at alike
    rw [if_neg shared, if_neg shared]
    exact packWhole_alike (bits / 8) alike (by omega) (by omega) left right

theorem packValues_alike {width : ℕ} (values : List ℕ) {offset : ℕ} (inner : offset < 8)
    (alike : Alike ((8 * ptr + offset + 7) / 8) first second)
    (left : 8 * ptr + offset + values.length * width ≤ 8 * first.length)
    (right : 8 * ptr + offset + values.length * width ≤ 8 * second.length) :
    ∃ a b, packValues width values first ptr offset =
        .ok (a, (8 * ptr + offset + values.length * width) / 8,
          (8 * ptr + offset + values.length * width) % 8) ∧
      packValues width values second ptr offset =
        .ok (b, (8 * ptr + offset + values.length * width) / 8,
          (8 * ptr + offset + values.length * width) % 8) ∧
      a.length = first.length ∧ b.length = second.length ∧
      Alike ((8 * ptr + offset + values.length * width + 7) / 8) a b := by
  induction values generalizing first second ptr offset with
  | nil =>
    have stop : (8 * ptr + offset) / 8 = ptr := by omega
    have lane : (8 * ptr + offset) % 8 = offset := by omega
    rw [List.length_nil, Nat.zero_mul, Nat.add_zero, stop, lane]
    exact ⟨first, second, rfl, rfl, rfl, rfl, alike⟩
  | cons value rest ih =>
    rw [List.length_cons] at left right ⊢
    have expand : (rest.length + 1) * width = width + rest.length * width := by ring
    obtain ⟨a, b, runA, runB, lengthA, lengthB, both⟩ := @packBits_alike first second ptr value width
      offset inner alike (by omega) (by omega)
    have line : 8 * ((8 * ptr + offset + width) / 8) + (8 * ptr + offset + width) % 8 =
        8 * ptr + offset + width := Nat.div_add_mod _ _
    have total : 8 * ptr + offset + (rest.length + 1) * width =
        8 * ptr + offset + width + rest.length * width := by omega
    obtain ⟨c, d, runC, runD, lengthC, lengthD, all⟩ := @ih a b ((8 * ptr + offset + width) / 8)
      ((8 * ptr + offset + width) % 8) (Nat.mod_lt _ (by decide)) (by rw [line]; exact both)
      (by rw [line]; omega) (by rw [line]; omega)
    rw [line] at runC runD all
    rw [packValues, packValues, runA, runB, total]
    exact ⟨c, d, runC, runD, lengthC.trans lengthA, lengthD.trans lengthB, all⟩

end Alike

/-! Blocks. -/

/-- The bytes that a block routine leaves in memory that held zeros. -/
def packedBlock (width : ℕ) (values : List ℕ) : List UInt8 :=
  match packBitsBlock8 values (List.replicate width 0) 0 width with
  | .ok block => block
  | .error _ => []

/-- The same over an old buffer. At width 19 the routine or-s byte 10 into what was
there, without an assignment first. -/
def overBuffer (width : ℕ) (buffer block : List UInt8) : List UInt8 :=
  if width = 19 then block.set 10 (buffer.getD 10 0 ||| block.getD 10 0) else block

namespace PackOp

def assigned (byte : ℕ) : List PackOp → ℕ → Bool
  | [], _ => false
  | op :: rest, ptr =>
    if ptr = byte then op.assign = .set else assigned byte rest (op.step.from ptr)

theorem written_some (values : List ℕ) (byte : ℕ) (ops : List PackOp) (ptr known : ℕ) :
    ∃ number, written values byte ops ptr (some known) = some number := by
  induction ops generalizing ptr known with
  | nil => exact ⟨known, rfl⟩
  | cons op rest ih =>
    rw [written]
    split_ifs with here
    · cases op.assign with
      | set => exact ih _ _
      | or => exact ih _ _
    · exact ih _ _

/-- What an assigned byte held before does not matter. -/
theorem written_assigned (values : List ℕ) {byte : ℕ} (ops : List PackOp) {ptr : ℕ}
    (first : assigned byte ops ptr = true) :
    ∃ number, ∀ known, written values byte ops ptr known = some number := by
  induction ops generalizing ptr with
  | nil => cases first
  | cons op rest ih =>
    rw [assigned] at first
    split_ifs at first with here
    · obtain ⟨number, same⟩ := written_some values byte rest (op.step.from ptr)
        (op.term (values.getD op.index 0))
      refine ⟨number, fun known => ?_⟩
      rw [written, if_pos here]
      simp only [of_decide_eq_true first]
      exact same
    · obtain ⟨number, same⟩ := ih first
      refine ⟨number, fun known => ?_⟩
      rw [written, if_neg here]
      exact same known

end PackOp

theorem packBlockOps_assigned : ∀ width < 64, 0 < width → ∃ ops, packBlockOps width = some ops ∧
    PackOp.contained width ops = true ∧
    ∀ byte < width, ¬ (width = 19 ∧ byte = 10) → PackOp.assigned byte ops 0 = true := by
  have checked : ∀ width < 64, 0 < width → (packBlockOps width).any (fun ops =>
      PackOp.contained width ops && (List.range width).all fun byte =>
        width == 19 && byte == 10 || PackOp.assigned byte ops 0) = true := by decide +kernel
  intro width high low
  obtain ⟨ops, found, known⟩ := (Option.any_eq_true _ _).mp (checked width high low)
  simp only [Bool.and_eq_true, List.all_eq_true, List.mem_range, Bool.or_eq_true, beq_iff_eq] at known
  exact ⟨ops, found, known.1, fun byte inside other => (known.2 byte inside).resolve_left other⟩

theorem packBitsBlock8_bytes {width : ℕ} (positive : 0 < width) (narrow : width < 64)
    (values : List ℕ) {buffer : List UInt8} (fits : buffer.length = width) :
    ∃ result, packBitsBlock8 values buffer 0 width = .ok result ∧ result.length = width ∧
      ∀ byte < width, ∀ ops, packBlockOps width = some ops →
        ∀ number, PackOp.written values byte ops 0 (some (buffer.getD byte 0).toNat) = some number →
          (result.getD byte 0).toNat = number := by
  obtain ⟨ops, found, contained, _⟩ := packBlockOps_assigned width narrow positive
  simp only [PackOp.contained, Bool.and_eq_true, List.all_eq_true, Nat.blt_eq] at contained
  obtain ⟨result, run, length, _, bytes⟩ := @runPack_spec values 0 ops 0 buffer
    (fun visited member => by have := contained.1 visited member; omega)
  refine ⟨result, by rw [packBitsBlock8, found]; exact run, length.trans fits, ?_⟩
  intro byte inside other same number written
  cases found.symm.trans same
  have known := bytes byte (by omega) _ _ written (fun known now => by
    cases now
    refine ⟨?_, UInt8.toNat_lt _⟩
    rw [Nat.zero_add, List.getD_eq_getElem?_getD]) number rfl
  rw [Nat.zero_add, ← List.getD_eq_getElem?_getD] at known
  exact known.1

theorem packedBlock_spec {width : ℕ} (positive : 0 < width) (narrow : width < 64) (values : List ℕ)
    {buffer : List UInt8} (fits : buffer.length = width) :
    packBitsBlock8 values buffer 0 width = .ok (overBuffer width buffer (packedBlock width values)) ∧
      (packedBlock width values).length = width ∧
      (width = 19 → ((packedBlock width values).getD 10 0).toNat =
        (⟨.or, .next, 4, 0, 7⟩ : PackOp).term (values.getD 4 0)) := by
  obtain ⟨ops, found, _, assigned⟩ := packBlockOps_assigned width narrow positive
  obtain ⟨result, run, length, bytes⟩ := packBitsBlock8_bytes positive narrow values fits
  obtain ⟨block, zeroRun, zeroLength, zeroBytes⟩ :=
    packBitsBlock8_bytes positive narrow values (List.length_replicate (n := width) (a := 0))
  have isBlock : packedBlock width values = block := by rw [packedBlock, zeroRun]
  -- The packer of 19 bits ors into its eleventh byte, every other byte is assigned first.
  have eleventh : ∀ known, width = 19 → PackOp.written values 10 ops 0 (some known) =
      some (known ||| (⟨.or, .next, 4, 0, 7⟩ : PackOp).term (values.getD 4 0)) := by
    rintro known rfl
    cases found
    simp [packBits19, PackOp.written, Step.from]
  have zero : width = 19 → (block.getD 10 0).toNat =
      (⟨.or, .next, 4, 0, 7⟩ : PackOp).term (values.getD 4 0) := by
    intro slips
    have inside : 10 < width := by omega
    have blank : (List.replicate width (0 : UInt8)).getD 10 0 = 0 := by
      simp [List.getD_eq_getElem?_getD, inside]
    have known := zeroBytes 10 inside ops found _ (eleventh _ slips)
    rw [blank] at known
    exact known.trans (Nat.zero_or _)
  rw [isBlock]
  refine ⟨?_, zeroLength, zero⟩
  rw [run]
  -- Byte by byte, against the same packer on a block of zeros.
  refine congrArg _ (List.ext_getElem ?_ fun byte left right => ?_)
  · rw [length, overBuffer]
    split_ifs
    · rw [List.length_set, zeroLength]
    · exact zeroLength.symm
  · have inside : byte < width := length ▸ left
    rw [← UInt8.toNat_inj, ← List.getD_eq_getElem _ 0 left, ← List.getD_eq_getElem _ 0 right]
    by_cases slips : width = 19 ∧ byte = 10
    · obtain ⟨rfl, rfl⟩ := slips
      have stale : (overBuffer 19 buffer block).getD 10 0 = buffer.getD 10 0 ||| block.getD 10 0 := by
        simp [overBuffer, List.getD_eq_getElem?_getD, zeroLength]
      rw [bytes 10 inside ops found _ (eleventh _ rfl), ← zero rfl, stale, UInt8.toNat_or]
    · obtain ⟨number, written⟩ := PackOp.written_assigned values ops (assigned byte inside slips)
      have same : (overBuffer width buffer block).getD byte 0 = block.getD byte 0 := by
        rw [overBuffer]
        split_ifs with nineteen
        · have other : 10 ≠ byte := fun here => slips ⟨nineteen, here.symm⟩
          rw [List.getD_eq_getElem?_getD, List.getElem?_set_ne other, List.getD_eq_getElem?_getD]
        · rfl
      rw [bytes byte inside ops found number (written _), same,
        zeroBytes byte inside ops found number (written _)]

theorem packedBlock_run {width : ℕ} (positive : 0 < width) (narrow : width < 64) (values : List ℕ) :
    packBitsBlock8 values (List.replicate width 0) 0 width = .ok (packedBlock width values) := by
  obtain ⟨block, run, _⟩ := packBitsBlock8_bytes positive narrow values
    (List.length_replicate (n := width) (a := 0))
  rw [packedBlock, run]

theorem packBitsBlock8_append {width ptr : ℕ} {values : List ℕ} {front buffer after rest : List UInt8}
    (run : packBitsBlock8 values buffer ptr width = .ok after) :
    packBitsBlock8 values (front ++ buffer ++ rest) (front.length + ptr) width =
      .ok (front ++ after ++ rest) := by
  unfold packBitsBlock8 at run ⊢
  cases found : packBlockOps width with
  | none => simp [found] at run
  | some ops =>
    simp only [found] at run
    exact runPack_append ops run

/-! A packing routine that returned stayed inside the buffer. -/

theorem runPack_inside {values : List ℕ} {buffer after : List UInt8} (ops : List PackOp) {ptr base : ℕ}
    (run : runPack values ops buffer (base + ptr) = .ok after) :
    after.length = buffer.length ∧
      ∀ visited ∈ PackOp.visits ops ptr, base + visited < buffer.length := by
  induction ops generalizing buffer ptr with
  | nil =>
    cases run
    exact ⟨rfl, by simp [PackOp.visits]⟩
  | cons op rest ih =>
    have step : op.step.from (base + ptr) = base + op.step.from ptr := by
      cases op.step <;> rfl
    obtain ⟨middle, first, more⟩ : ∃ middle, (base + ptr < buffer.length ∧
        middle.length = buffer.length) ∧
        runPack values rest middle (base + op.step.from ptr) = .ok after := by
      simp only [runPack, step] at run
      cases kind : op.assign with
      | set =>
        simp only [kind] at run
        obtain ⟨middle, first, later⟩ := Run.bind_eq_ok.mp run
        exact ⟨middle, writeByte_inside first, later⟩
      | or =>
        simp only [kind] at run
        obtain ⟨middle, first, later⟩ := Run.bind_eq_ok.mp run
        exact ⟨middle, orByte_inside first, later⟩
    obtain ⟨length, inside⟩ := ih more
    rw [first.2] at length inside
    refine ⟨length, fun visited member => ?_⟩
    rcases List.mem_cons.mp member with rfl | member
    · exact first.1
    · exact inside visited member

theorem packBitsBlock8_inside {width ptr : ℕ} {values : List ℕ} {buffer after : List UInt8}
    (positive : 0 < width) (narrow : width < 64)
    (run : packBitsBlock8 values buffer ptr width = .ok after) :
    after.length = buffer.length ∧ ptr + width ≤ buffer.length := by
  have last : ∀ width < 64, 0 < width → (packBlockOps width).any (fun ops =>
      decide (width - 1 ∈ PackOp.visits ops 0)) = true := by decide +kernel
  obtain ⟨ops, found, known⟩ := (Option.any_eq_true _ _).mp (last width narrow positive)
  rw [packBitsBlock8, found] at run
  obtain ⟨length, inside⟩ :=
    @runPack_inside values buffer after ops 0 ptr (by rw [Nat.add_zero]; exact run)
  have := inside _ (of_decide_eq_true known)
  exact ⟨length, by omega⟩

theorem packBlocks_inside {width : ℕ} (positive : 0 < width) (narrow : width < 64) (blocks : ℕ)
    {deltas rest : List ℕ} {buffer after : List UInt8} {ptr next : ℕ}
    (run : packBlocks width blocks deltas buffer ptr = .ok (after, rest, next)) :
    after.length = buffer.length ∧ rest = deltas.drop (8 * blocks) ∧ next = ptr + blocks * width ∧
      (0 < blocks → next ≤ buffer.length) := by
  induction blocks generalizing deltas buffer ptr with
  | zero =>
    cases run
    exact ⟨rfl, rfl, by simp, fun impossible => absurd impossible (lt_irrefl 0)⟩
  | succ blocks ih =>
    obtain ⟨middle, block, more⟩ := Run.bind_eq_ok.mp run
    obtain ⟨length, inside⟩ := packBitsBlock8_inside positive narrow block
    obtain ⟨total, left, place, fits⟩ := ih more
    have expand : (blocks + 1) * width = width + blocks * width := by ring
    have dropped : 8 + 8 * blocks = 8 * (blocks + 1) := by ring
    refine ⟨total.trans length, by rw [left, List.drop_drop, dropped], by omega, fun _ => ?_⟩
    rw [length] at fits
    by_cases last : blocks = 0
    · subst last
      omega
    · exact fits (Nat.pos_of_ne_zero last)

theorem packWhole_inside {number : ℕ} (whole : ℕ) {bits ptr next lane : ℕ} {buffer after : List UInt8}
    (low : 8 * whole ≤ bits) (high : bits < 8 * whole + 8) (positive : 0 < bits)
    (run : packWhole number whole bits buffer ptr = .ok (after, next, lane)) :
    after.length = buffer.length ∧ 8 * ptr + bits ≤ 8 * buffer.length := by
  induction whole generalizing bits ptr buffer with
  | zero =>
    rw [packWhole, if_pos positive] at run
    obtain ⟨middle, write, same⟩ := Run.bind_eq_ok.mp run
    cases same
    obtain ⟨inside, length⟩ := writeByte_inside write
    exact ⟨length, by omega⟩
  | succ whole ih =>
    obtain ⟨middle, write, more⟩ := Run.bind_eq_ok.mp run
    obtain ⟨inside, length⟩ := writeByte_inside write
    by_cases last : bits = 8
    · subst last
      have none : whole = 0 := by omega
      subst none
      cases more
      exact ⟨length, by omega⟩
    · obtain ⟨total, fits⟩ := ih (by omega) (by omega) (by omega) more
      exact ⟨total.trans length, by omega⟩

theorem packBits_inside {number bits ptr offset next lane : ℕ} {buffer after : List UInt8}
    (inner : offset < 8) (positive : 0 < bits)
    (run : packBits number bits buffer ptr offset = .ok (after, next, lane)) :
    after.length = buffer.length ∧ 8 * ptr + offset + bits ≤ 8 * buffer.length := by
  unfold packBits at run
  dsimp only at run
  split_ifs at run with shared short
  · obtain ⟨middle, ored, same⟩ := Run.bind_eq_ok.mp run
    cases same
    obtain ⟨inside, length⟩ := orByte_inside ored
    exact ⟨length, by omega⟩
  · obtain ⟨middle, ored, more⟩ := Run.bind_eq_ok.mp run
    obtain ⟨inside, length⟩ := orByte_inside ored
    by_cases full : bits = 8 - offset
    · subst full
      rw [Nat.sub_self] at more
      cases more
      exact ⟨length, by omega⟩
    · obtain ⟨total, fits⟩ := packWhole_inside _ (by omega) (by omega) (by omega) more
      exact ⟨total.trans length, by omega⟩
  · obtain ⟨total, fits⟩ := packWhole_inside _ (by omega) (by omega) positive run
    exact ⟨total, by omega⟩

theorem packValues_inside {width : ℕ} (positive : 0 < width) (values : List ℕ)
    {ptr offset next lane : ℕ} {buffer after : List UInt8} (inner : offset < 8) (some : values ≠ [])
    (run : packValues width values buffer ptr offset = .ok (after, next, lane)) :
    8 * ptr + offset + values.length * width ≤ 8 * buffer.length := by
  induction values generalizing buffer ptr offset with
  | nil => exact absurd rfl some
  | cons value rest ih =>
    obtain ⟨⟨middle, place, lane⟩, first, more⟩ := Run.bind_eq_ok.mp run
    obtain ⟨length, inside⟩ := packBits_inside inner positive first
    have expand : (rest.length + 1) * width = width + rest.length * width := by ring
    rw [List.length_cons, expand]
    by_cases last : rest = []
    · subst last
      rw [List.length_nil]
      omega
    · -- Where the next value goes is known, because the value did fit.
      obtain ⟨_, _, again, _⟩ := @packBits_alike buffer buffer ptr value width offset inner
        (fun _ _ => rfl) inside inside
      cases first.symm.trans again
      have line : 8 * ((8 * ptr + offset + width) / 8) + (8 * ptr + offset + width) % 8 =
          8 * ptr + offset + width := Nat.div_add_mod _ _
      have fits := ih (Nat.mod_lt _ (by decide)) last more
      rw [line, length] at fits
      omega

end ThetaSketch
