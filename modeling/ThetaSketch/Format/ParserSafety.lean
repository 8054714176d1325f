import Mathlib.Order.Defs.LinearOrder
import Mathlib.Data.Nat.Bitwise
import Mathlib.Tactic.GCongr
import Mathlib.Tactic.Ring
import Mathlib.Tactic.SplitIfs
import ThetaSketch.Format.Parser

/-! Which byte strings the parser handles without undefined behaviour.

Only eight bytes are checked before a version is looked at. Every version but the
fourth reads a count at offset 8, and some read `theta` at offset 16; the checks
that come before these reads do not always cover them.
-/

set_option autoImplicit false

namespace ThetaSketch

open LittleEndian

/-- A check that passes lets the rest run; one that fails is an exit of its own. -/
def Guards (check : Run Unit) (passes : Prop) : Prop :=
  (passes → check = .ok ()) ∧ (¬ passes → ∃ exit, check = .error exit ∧ ∀ what, exit ≠ .undefined what)

theorem Guards.defined_bind_iff {A : Type} {check : Run Unit} {passes : Prop} {next : Unit → Run A}
    (guards : Guards check passes) : Defined (check >>= next) ↔ (passes → Defined (next ())) := by
  by_cases holds : passes
  · rw [guards.1 holds]
    exact ⟨fun defined _ => defined, fun defined => defined holds⟩
  · obtain ⟨exit, fails, own⟩ := guards.2 holds
    rw [fails]
    exact ⟨fun _ passed => absurd passed holds, fun _ => defined_error_iff.mpr own⟩

theorem Guards.bind_eq_ok {A : Type} {check : Run Unit} {passes : Prop} {next : Unit → Run A}
    (guards : Guards check passes) {result : A} :
    (check >>= next) = .ok result ↔ passes ∧ next () = .ok result := by
  by_cases holds : passes
  · rw [guards.1 holds]
    exact ⟨fun same => ⟨holds, same⟩, fun same => same.2⟩
  · obtain ⟨exit, fails, _⟩ := guards.2 holds
    rw [fails]
    exact ⟨by rintro ⟨⟩, fun same => absurd same.1 holds⟩

theorem checkValue_guards (actual expected : ℕ) (description : String) :
    Guards (checkValue actual expected description) (actual = expected) := by
  unfold checkValue
  refine ⟨fun same => if_pos same, fun other => ⟨_, if_neg other, fun what impossible => ?_⟩⟩
  cases impossible

namespace CompactThetaSketchParser

variable {bytes : List UInt8} {seed : UInt64} {dumpOnError : Bool}

theorem checkMemorySize_guards (bytes : List UInt8) (expected : ℕ) (dumpOnError : Bool) :
    Guards (checkMemorySize bytes expected dumpOnError) (expected ≤ bytes.length) := by
  unfold checkMemorySize
  refine ⟨fun enough => if_neg (Nat.not_lt.mpr enough),
    fun short => ⟨_, if_pos (Nat.not_le.mp short), fun what impossible => ?_⟩⟩
  cases impossible

theorem defined_readAt_bind {A : Type} {offset width : ℕ} {next : ℕ → Run A} :
    Defined (readAt bytes offset width >>= next) ↔
      offset + width ≤ bytes.length ∧ Defined (next (word bytes offset width)) := by
  rw [defined_bind_iff, readAt_defined_iff]
  refine and_congr_right fun inside => ?_
  rw [readAt_eq inside]
  exact ⟨fun defined => defined _ rfl, fun defined _ same => Except.ok.inj same ▸ defined⟩

/-! Each version. -/

theorem defined_parseEstimation (seedHash numEntries theta : ℕ) :
    Defined (parseEstimation bytes seedHash numEntries theta dumpOnError) := by
  unfold parseEstimation
  split_ifs
  · exact defined_ok _
  · exact (checkMemorySize_guards _ _ _).defined_bind_iff.mpr fun _ => defined_ok _

theorem parseV1_defined_iff : Defined (parseV1 bytes seed dumpOnError) ↔ 24 ≤ bytes.length := by
  rw [parseV1, readU32, defined_readAt_bind, readU64, defined_readAt_bind]
  simp only [defined_parseEstimation, numEntriesU32, thetaU64, and_true]
  omega

theorem parseV2_defined_iff (long : 8 ≤ bytes.length) :
    Defined (parseV2 bytes seed dumpOnError) ↔ (word bytes 6 2 = computeSeedHash seed →
      (word bytes 0 1 = 2 → 12 ≤ bytes.length) ∧ (word bytes 0 1 = 3 → 24 ≤ bytes.length)) := by
  have inside : preLongsByte + 1 ≤ bytes.length ∧ seedHashU16 * 2 + 2 ≤ bytes.length := by
    simp only [preLongsByte, seedHashU16]
    omega
  rw [parseV2, readByte, defined_readAt_bind, readU16, defined_readAt_bind, checkSeedHash,
    (checkValue_guards _ _ _).defined_bind_iff]
  simp only [inside.1, inside.2, true_and]
  refine forall_congr' fun _ => ?_
  change Defined (if word bytes 0 1 = 1 then _ else if word bytes 0 1 = 2 then _
    else if word bytes 0 1 = 3 then _ else _) ↔ _
  split_ifs with one two three
  · simp [one, defined_ok]
  · rw [readU32, defined_readAt_bind, numEntriesU32, two]
    refine ⟨fun defined => ⟨fun _ => defined.1, fun three => absurd three (by decide)⟩,
      fun long => ⟨long.1 rfl, ?_⟩⟩
    split_ifs
    · exact defined_ok _
    · exact (checkMemorySize_guards _ _ _).defined_bind_iff.mpr fun _ => defined_ok _
  · rw [readU32, defined_readAt_bind, readU64, defined_readAt_bind, numEntriesU32, thetaU64, three]
    refine ⟨fun defined => ⟨fun two => absurd two (by decide), fun _ => defined.2.1⟩,
      fun long => ⟨?_, long.2 rfl, defined_parseEstimation _ _ _⟩⟩
    have := long.2 rfl
    omega
  · simp [defined_error_iff, two, three]

theorem parseV3_defined_iff (long : 8 ≤ bytes.length) :
    Defined (parseV3 bytes seed dumpOnError) ↔
      ((word bytes 5 1).testBit isEmptyFlag = false → word bytes 6 2 = computeSeedHash seed →
        word bytes 0 1 ≤ 2 → word bytes 0 1 ≠ 1 → 12 ≤ bytes.length) := by
  have inside : preLongsByte + 1 ≤ bytes.length ∧ seedHashU16 * 2 + 2 ≤ bytes.length ∧
      flagsByte + 1 ≤ bytes.length := by
    simp only [preLongsByte, seedHashU16, flagsByte]
    omega
  rw [parseV3, readU16, defined_readAt_bind, readByte, defined_readAt_bind]
  simp only [inside.2.1, inside.2.2, true_and]
  change Defined (if (word bytes 5 1).testBit isEmptyFlag = true then _ else _) ↔ _
  split_ifs with flag
  · simp [flag, defined_ok]
  · have full : (word bytes 5 1).testBit isEmptyFlag = false := by simpa using flag
    rw [checkSeedHash, (checkValue_guards _ _ _).defined_bind_iff]
    simp only [full, true_implies]
    refine forall_congr' fun _ => ?_
    rw [readByte, defined_readAt_bind]
    have first_inside : 0 + 1 ≤ bytes.length := by omega
    simp only [preLongsByte, first_inside, true_and]
    by_cases three : 2 < word bytes 0 1
    · -- The count lies before `theta`, which was checked.
      have other : word bytes 0 1 ≠ 1 := by omega
      simp only [three, other, decide_true, if_true, if_false]
      rw [(checkMemorySize_guards _ _ _).defined_bind_iff]
      refine ⟨fun _ low => absurd three (by omega), fun _ enough => ?_⟩
      rw [readU64, defined_readAt_bind, readU32, defined_readAt_bind]
      refine ⟨enough, Nat.le_trans (by decide) enough, ?_⟩
      exact (checkMemorySize_guards _ _ _).defined_bind_iff.mpr fun _ => defined_ok _
    · have low : word bytes 0 1 ≤ 2 := by omega
      by_cases one : word bytes 0 1 = 1
      · simp only [one, decide_false, Bool.false_eq_true, if_true, if_false, Run.pure_eq, Run.ok_bind,
          show ¬ 2 < 1 by decide]
        refine ⟨fun _ _ other => absurd rfl other, fun _ => ?_⟩
        exact (checkMemorySize_guards _ _ _).defined_bind_iff.mpr fun _ => defined_ok _
      · simp only [three, one, decide_false, Bool.false_eq_true, if_false, Run.pure_eq, Run.ok_bind]
        rw [readU32, defined_readAt_bind]
        refine ⟨fun defined _ _ => defined.1, fun inside => ⟨inside low one, ?_⟩⟩
        exact (checkMemorySize_guards _ _ _).defined_bind_iff.mpr fun _ => defined_ok _

theorem wholeBytesToHoldBits_spec (bits : ℕ) :
    bits ≤ 8 * wholeBytesToHoldBits bits ∧ 8 * wholeBytesToHoldBits bits < bits + 8 := by
  unfold wholeBytesToHoldBits
  split_ifs <;> omega

theorem bits_split (width count : ℕ) :
    8 * (count / 8 * width) + count % 8 * width = width * count := by
  calc 8 * (count / 8 * width) + count % 8 * width
      = (8 * (count / 8) + count % 8) * width := by ring
    _ = width * count := by rw [Nat.div_add_mod, Nat.mul_comm]

theorem countLoop_defined_iff {start remaining i known : ℕ}
    (inside : start + (i + remaining) ≤ bytes.length) :
    Defined (countLoop bytes start remaining i known) ↔ remaining = 0 ∨ i + remaining ≤ 4 := by
  induction remaining generalizing i known with
  | zero => simp [countLoop, defined_ok]
  | succ remaining ih =>
    rw [countLoop, readByte, defined_readAt_bind]
    have here : start + i + 1 ≤ bytes.length := by omega
    by_cases wide : 32 ≤ i * 8
    · simp [wide, defined_error_iff]
      omega
    · have rest : start + (i + 1 + remaining) ≤ bytes.length := by omega
      simp only [here, wide, if_false, ih rest, true_and]
      omega

/-- What is left of version 4 once `theta` was read. -/
theorem version4Entries_defined_iff (long : 8 ≤ bytes.length) {offset : ℕ} (low : offset ≤ 16)
    {next : ℕ → ℕ → ℕ → Run CompactThetaSketchData}
    (rest : ∀ size count width, Defined (next size count width)) :
    Defined (do
      let numEntriesBytes ← readByte bytes v4NumEntriesBytesByte
      checkMemorySize bytes (wrap32 (offset + numEntriesBytes)) dumpOnError
      let numEntries ← countLoop bytes offset numEntriesBytes 0 0
      let entryBits ← readByte bytes v4EntryBitsByte
      next numEntriesBytes numEntries entryBits) ↔
      (offset + word bytes 4 1 ≤ bytes.length → word bytes 4 1 ≤ 4) := by
  have few : word bytes 4 1 < 256 := word_lt bytes 4 1
  have sum : wrap32 (offset + word bytes 4 1) = offset + word bytes 4 1 := by
    rw [wrap32]
    omega
  have sizeInside : 4 + 1 ≤ bytes.length := by omega
  have widthInside : v4EntryBitsByte + 1 ≤ bytes.length := by
    simp only [v4EntryBitsByte]
    omega
  rw [readByte, defined_readAt_bind, (checkMemorySize_guards _ _ _).defined_bind_iff]
  simp only [sizeInside, true_and, v4NumEntriesBytesByte, sum]
  refine forall_congr' fun inside => ?_
  rw [defined_bind_iff, countLoop_defined_iff (by omega)]
  have tail : ∀ count, Defined (readByte bytes v4EntryBitsByte >>= next (word bytes 4 1) count) :=
    fun count => by
      rw [readByte, defined_readAt_bind]
      exact ⟨widthInside, rest _ _ _⟩
  refine ⟨fun defined => by omega, fun narrow => ⟨by omega, fun count _ => tail count⟩⟩

theorem parseV4_defined_iff (long : 8 ≤ bytes.length) :
    Defined (parseV4 bytes seed dumpOnError) ↔ (word bytes 6 2 = computeSeedHash seed →
      (1 < word bytes 0 1 → 16 ≤ bytes.length) →
      (if 1 < word bytes 0 1 then 16 else 8) + word bytes 4 1 ≤ bytes.length →
      word bytes 4 1 ≤ 4) := by
  have hashInside : seedHashU16 * 2 + 2 ≤ bytes.length := by
    simp only [seedHashU16]
    omega
  have firstInside : 0 + 1 ≤ bytes.length := by omega
  rw [parseV4, readU16, defined_readAt_bind, checkSeedHash, (checkValue_guards _ _ _).defined_bind_iff]
  simp only [hashInside, true_and]
  refine forall_congr' fun _ => ?_
  rw [readByte, defined_readAt_bind]
  simp only [preLongsByte, firstInside, true_and]
  by_cases two : 1 < word bytes 0 1
  · simp only [two, decide_true, if_true, true_implies]
    rw [(checkMemorySize_guards _ _ _).defined_bind_iff]
    refine forall_congr' fun enough => ?_
    rw [readU64, defined_readAt_bind]
    have thetaInside : v4ThetaU64 * 8 + 8 ≤ bytes.length := enough
    simp only [thetaInside, true_and]
    simp only [v4PackedDataEstimationByte]
    exact version4Entries_defined_iff long (Nat.le_refl 16) fun _ _ _ =>
      (checkMemorySize_guards _ _ _).defined_bind_iff.mpr fun _ => defined_ok _
  · simp only [two, decide_false, Bool.false_eq_true, if_false, false_implies, true_implies,
      Run.pure_eq, Run.ok_bind, v4PackedDataExactByte]
    exact version4Entries_defined_iff long (by decide) fun _ _ _ =>
      (checkMemorySize_guards _ _ _).defined_bind_iff.mpr fun _ => defined_ok _

/-! The whole parser. -/

def version1Inside (bytes : List UInt8) : Prop := 24 ≤ bytes.length

def version2Inside (bytes : List UInt8) (seed : UInt64) : Prop :=
  word bytes 6 2 = computeSeedHash seed →
    (word bytes 0 1 = 2 → 12 ≤ bytes.length) ∧ (word bytes 0 1 = 3 → 24 ≤ bytes.length)

def version3Inside (bytes : List UInt8) (seed : UInt64) : Prop :=
  (word bytes 5 1).testBit isEmptyFlag = false → word bytes 6 2 = computeSeedHash seed →
    word bytes 0 1 ≤ 2 → word bytes 0 1 ≠ 1 → 12 ≤ bytes.length

def version4Inside (bytes : List UInt8) (seed : UInt64) : Prop :=
  word bytes 6 2 = computeSeedHash seed → (1 < word bytes 0 1 → 16 ≤ bytes.length) →
    (if 1 < word bytes 0 1 then 16 else 8) + word bytes 4 1 ≤ bytes.length → word bytes 4 1 ≤ 4

/-- The header fields that the parser reads are there, and the count has at most
four bytes. Nothing is asked of byte strings that an explicit check rejects first. -/
def HeaderInside (bytes : List UInt8) (seed : UInt64) : Prop :=
  8 ≤ bytes.length → word bytes 2 1 = sketchType →
    (word bytes 1 1 = 1 → version1Inside bytes) ∧
    (word bytes 1 1 = 2 → version2Inside bytes seed) ∧
    (word bytes 1 1 = 3 → version3Inside bytes seed) ∧
    (word bytes 1 1 = 4 → version4Inside bytes seed)

/-- The parser is well defined exactly on these byte strings. -/
theorem parse_defined_iff (bytes : List UInt8) (seed : UInt64) (dumpOnError : Bool) :
    Defined (parse bytes seed dumpOnError) ↔ HeaderInside bytes seed := by
  rw [parse, (checkMemorySize_guards _ _ _).defined_bind_iff, HeaderInside]
  refine forall_congr' fun long => ?_
  have typeInside : 2 + 1 ≤ bytes.length := by omega
  have versionInside : 1 + 1 ≤ bytes.length := by omega
  rw [readByte, defined_readAt_bind, checkSketchType, (checkValue_guards _ _ _).defined_bind_iff]
  simp only [typeByte, typeInside, true_and]
  refine forall_congr' fun _ => ?_
  rw [readByte, defined_readAt_bind]
  simp only [serialVersionByte, versionInside, true_and]
  by_cases four : word bytes 1 1 = 4
  · simp [four, parseV4_defined_iff long, version4Inside]
  by_cases three : word bytes 1 1 = 3
  · simp [three, parseV3_defined_iff long, version3Inside]
  by_cases one : word bytes 1 1 = 1
  · simp [one, parseV1_defined_iff, version1Inside]
  by_cases two : word bytes 1 1 = 2
  · simp [two, parseV2_defined_iff long, version2Inside]
  · simp [one, two, three, four, defined_error_iff]

theorem parse_truncated_undefined :
    ¬ Defined (parse [3, 1, 3, 0, 0, 0, 0, 0] defaultSeed false) :=
  fun defined => defined (.outOfBounds 8 4) rfl

/-! What is accepted. -/

theorem checkMemorySize_eq_ok {expected : ℕ} {done : Unit} :
    checkMemorySize bytes expected dumpOnError = .ok done ↔ expected ≤ bytes.length := by
  unfold checkMemorySize
  split_ifs with short
  · simp [short]
  · simp [Nat.not_lt.mp short]

theorem readAt_eq_ok_iff {offset width value : ℕ} : readAt bytes offset width = .ok value ↔
    offset + width ≤ bytes.length ∧ word bytes offset width = value := by
  rw [readAt_eq_ok, LittleEndian.read]
  split_ifs with inside <;> simp [inside]

/-- The dump of a rejected sketch is all that `dump_on_error` is for. -/
theorem parse_dump {other : Bool} {data : CompactThetaSketchData}
    (parsed : parse bytes seed dumpOnError = .ok data) : parse bytes seed other = .ok data := by
  simp only [parse, parseV1, parseV2, parseV3, parseV4, parseEstimation, Run.bind_eq_ok, ite_eq_iff,
    checkMemorySize_eq_ok] at parsed ⊢
  exact parsed

def wordsStart (bytes : List UInt8) : ℕ :=
  if word bytes 1 1 = 1 then 3
  else if word bytes 1 1 = 2 then word bytes 0 1
  else if 2 < word bytes 0 1 then 3 else 2

def countStart (bytes : List UInt8) : ℕ := if 1 < word bytes 0 1 then 16 else 8

def packedStart (bytes : List UInt8) : ℕ := countStart bytes + word bytes 4 1

def packedCount (bytes : List UInt8) : ℕ := word bytes (countStart bytes) (word bytes 4 1)

/-- The header announces a list of words, neither no entry nor a single one. -/
def DeclaresWords (bytes : List UInt8) : Prop :=
  word bytes 1 1 = 1 ∨ (word bytes 1 1 = 2 ∧ word bytes 0 1 ≠ 1) ∨
    (word bytes 1 1 = 3 ∧ (word bytes 5 1).testBit isEmptyFlag = false ∧ word bytes 0 1 ≠ 1)

/-- What the parser returns, by the shape of the data. -/
inductive Accepted (bytes : List UInt8) : CompactThetaSketchData → Prop where
  | empty (hash : ℕ) (version : word bytes 1 1 ≠ 4)
      (small : DeclaresWords bytes → word bytes 8 4 = 0 ∧ wordsStart bytes ≤ 3) :
      Accepted bytes ⟨true, true, hash, 0, maxTheta, none, 64⟩
  | single (hash theta : ℕ) (version : word bytes 1 1 ≠ 4) (other : ¬ DeclaresWords bytes)
      (enough : 16 ≤ bytes.length) : Accepted bytes ⟨false, true, hash, 1, theta, some 8, 64⟩
  | words (hash theta : ℕ) (ordered : Bool) (version : word bytes 1 1 ≠ 4)
      (declared : DeclaresWords bytes) (low : wordsStart bytes ≤ 3)
      (enough : wrap32 ((wordsStart bytes + word bytes 8 4) * 8) ≤ bytes.length) :
      Accepted bytes ⟨false, ordered, hash, word bytes 8 4, theta, some (wordsStart bytes * 8), 64⟩
  | packed (hash theta : ℕ) (version : word bytes 1 1 = 4) (few : word bytes 4 1 ≤ 4)
      (inside : packedStart bytes ≤ bytes.length)
      (enough : wrap32 (packedStart bytes + wholeBytesToHoldBits
        (wrap32 (word bytes 3 1 * packedCount bytes))) ≤ bytes.length) :
      Accepted bytes ⟨false, true, hash, packedCount bytes, theta, some (packedStart bytes),
        word bytes 3 1⟩

theorem parseV3_accepted {data : CompactThetaSketchData} (version : word bytes 1 1 = 3)
    (parsed : parseV3 bytes seed dumpOnError = .ok data) : Accepted bytes data := by
  have other : word bytes 1 1 ≠ 4 := by omega
  have first : word bytes 1 1 ≠ 1 ∧ word bytes 1 1 ≠ 2 := by omega
  simp only [parseV3, readByte, readU16, readU32, readU64, Run.bind_eq_ok, ite_eq_iff,
    checkMemorySize_eq_ok, readAt_eq_ok_iff, exists_and_left, exists_eq_left', and_assoc, exists_const,
    Run.pure_eq, Except.ok.injEq, flagsByte, preLongsByte, numEntriesU32, decide_eq_true_iff] at parsed
  obtain ⟨_, _, ⟨flagged, rfl⟩ | ⟨full, _, _, _, three | two⟩⟩ := parsed
  · refine Accepted.empty _ other ?_
    rintro (one | ⟨two, _⟩ | ⟨_, clear, _⟩)
    · exact absurd one first.1
    · exact absurd two first.2
    · rw [flagged] at clear
      cases clear
  · obtain ⟨above, _, _, ⟨one, _⟩ | ⟨several, _, enough, rfl⟩⟩ := three
    · omega
    · have start : wordsStart bytes = 3 := by simp [wordsStart, first, above]
      rw [if_pos above] at enough ⊢
      have declared : DeclaresWords bytes := .inr (.inr ⟨version, by simpa using full, several⟩)
      have accepted := Accepted.words (word bytes (seedHashU16 * 2) 2) (word bytes (thetaU64 * 8) 8)
        ((word bytes 5 1).testBit isOrderedFlag) other declared (Nat.le_of_eq start) (by rw [start]; exact enough)
      rwa [start] at accepted
  · obtain ⟨low, ⟨one, enough, rfl⟩ | ⟨several, _, enough, rfl⟩⟩ := two
    · refine Accepted.single _ _ other ?_ enough
      rintro (v1 | ⟨v2, _⟩ | ⟨_, _, several⟩)
      · exact first.1 v1
      · exact first.2 v2
      · exact several one
    · have start : wordsStart bytes = 2 := by simp [wordsStart, first, low]
      rw [if_neg low] at enough ⊢
      have declared : DeclaresWords bytes := .inr (.inr ⟨version, by simpa using full, several⟩)
      have accepted := Accepted.words (word bytes (seedHashU16 * 2) 2) maxTheta
        ((word bytes 5 1).testBit isOrderedFlag) other declared (by omega) (by rw [start]; exact enough)
      rwa [start] at accepted

theorem parseEstimation_accepted {data : CompactThetaSketchData} {hash theta : ℕ}
    (version : word bytes 1 1 ≠ 4) (declared : DeclaresWords bytes) (start : wordsStart bytes = 3)
    (parsed : parseEstimation bytes hash (word bytes 8 4) theta dumpOnError = .ok data) :
    Accepted bytes data := by
  simp only [parseEstimation, Run.bind_eq_ok, ite_eq_iff, checkMemorySize_eq_ok, exists_and_left,
    exists_const, Run.pure_eq, Except.ok.injEq] at parsed
  obtain ⟨⟨none, rfl⟩, rfl⟩ | ⟨_, enough, rfl⟩ := parsed
  · exact Accepted.empty _ version fun _ => ⟨none, Nat.le_of_eq start⟩
  · have accepted := Accepted.words hash theta true version declared (Nat.le_of_eq start) (by rw [start]; exact enough)
    rwa [start] at accepted

theorem parseV1_accepted {data : CompactThetaSketchData} (version : word bytes 1 1 = 1)
    (parsed : parseV1 bytes seed dumpOnError = .ok data) : Accepted bytes data := by
  simp only [parseV1, readU32, readU64, Run.bind_eq_ok, readAt_eq_ok_iff, exists_and_left,
    exists_eq_left', and_assoc, numEntriesU32] at parsed
  obtain ⟨_, _, rest⟩ := parsed
  exact parseEstimation_accepted (by omega) (.inl version) (by simp [wordsStart, version]) rest

theorem parseV2_accepted {data : CompactThetaSketchData} (version : word bytes 1 1 = 2)
    (parsed : parseV2 bytes seed dumpOnError = .ok data) : Accepted bytes data := by
  have other : word bytes 1 1 ≠ 4 := by omega
  have start : wordsStart bytes = word bytes 0 1 := by simp [wordsStart, version]
  simp only [parseV2, readByte, readU16, readU32, readU64, Run.bind_eq_ok, ite_eq_iff,
    checkMemorySize_eq_ok, readAt_eq_ok_iff, exists_and_left, exists_eq_left', and_assoc, exists_const,
    Run.pure_eq, Except.ok.injEq, preLongsByte, numEntriesU32, Run.throw_eq, reduceCtorEq, and_false,
    or_false] at parsed
  obtain ⟨_, _, _, _, ⟨one, rfl⟩ | ⟨several, two | three⟩⟩ := parsed
  · refine Accepted.empty _ other ?_
    rintro (v1 | ⟨_, several⟩ | ⟨v3, _⟩)
    · omega
    · exact absurd one several
    · omega
  · obtain ⟨two, _, ⟨none, rfl⟩ | ⟨_, enough, rfl⟩⟩ := two
    · exact Accepted.empty _ other fun _ => ⟨none, by omega⟩
    · have accepted := Accepted.words (word bytes (seedHashU16 * 2) 2) maxTheta true other
        (.inr (.inl ⟨version, several⟩)) (by omega) (by rw [start]; exact enough)
      rwa [start, two] at accepted
  · obtain ⟨_, three, _, _, rest⟩ := three
    exact parseEstimation_accepted other (.inr (.inl ⟨version, several⟩)) (by omega) rest

/-- The count is assembled from its bytes, from the low one on. -/
theorem countLoop_encode (front rest : List UInt8) {start : ℕ} (remaining : ℕ) {i count known : ℕ}
    (line : front.length = start + i) (narrow : i + remaining ≤ 4) (small : count < 256 ^ remaining)
    (low : known < 256 ^ i) :
    countLoop (front ++ (encode remaining count ++ rest)) start remaining i known =
      .ok (known + 256 ^ i * count) := by
  induction remaining generalizing front i count known with
  | zero =>
    have none : count = 0 := by simpa using small
    rw [countLoop, none, Nat.mul_zero, Nat.add_zero]
    rfl
  | succ remaining ih =>
    have here : start + i < (front ++ (encode (remaining + 1) count ++ rest)).length := by
      simp
      omega
    have byte : ((front ++ (encode (remaining + 1) count ++ rest))[start + i]?.getD 0).toNat =
        count % 256 := by
      rw [List.getElem?_append_right (by omega), line, Nat.sub_self, encode]
      simp
    have power : 256 ^ i = 2 ^ (i * 8) := by
      rw [Nat.mul_comm i 8, pow_mul]
      norm_num
    have bound : 256 ^ (i + 1) ≤ 2 ^ 32 := by
      calc 256 ^ (i + 1) ≤ 256 ^ 4 := Nat.pow_le_pow_right (by decide) (by omega)
        _ = 2 ^ 32 := by norm_num
    have next : count % 256 * 256 ^ i < 256 ^ (i + 1) := by
      rw [Nat.pow_succ, Nat.mul_comm]
      exact Nat.mul_lt_mul_of_pos_left (Nat.mod_lt _ (by decide)) (Nat.pow_pos (by decide))
    -- The byte lands above the bits that are known.
    have joined : known ||| wrap32 ((count % 256) <<< (i * 8)) = known + 256 ^ i * (count % 256) := by
      have shifted : (count % 256) <<< (i * 8) = count % 256 * 256 ^ i := by
        rw [Nat.shiftLeft_eq, power]
      rw [wrap32, Nat.mod_eq_of_lt (shifted ▸ next.trans_le bound), Nat.or_comm,
        ← Nat.shiftLeft_add_eq_or_of_lt (power ▸ low), shifted]
      ring
    have grown : known + 256 ^ i * (count % 256) < 256 ^ (i + 1) := by
      have digit : count % 256 ≤ 255 := by omega
      calc known + 256 ^ i * (count % 256)
          ≤ known + 256 ^ i * 255 := by gcongr
        _ < 256 ^ i + 256 ^ i * 255 := by omega
        _ = 256 ^ (i + 1) := by ring
    have rest_bound : count / 256 < 256 ^ remaining := by
      rw [Nat.div_lt_iff_lt_mul (by decide), ← Nat.pow_succ]
      exact small
    have tail := @ih (front ++ [UInt8.ofNat count]) (i + 1) (count / 256) _
      (by rw [List.length_append, line]; rfl) (by omega) rest_bound grown
    rw [List.append_assoc, List.singleton_append, ← List.cons_append] at tail
    have total : known + 256 ^ i * (count % 256) + 256 ^ (i + 1) * (count / 256) =
        known + 256 ^ i * count := by
      have split := Nat.mod_add_div count 256
      calc known + 256 ^ i * (count % 256) + 256 ^ (i + 1) * (count / 256)
          = known + 256 ^ i * (count % 256 + 256 * (count / 256)) := by ring
        _ = known + 256 ^ i * count := by rw [split]
    rw [countLoop, readByte_eq here, Run.ok_bind, byte, if_neg (by omega), joined, ← total]
    exact tail

theorem countLoop_eq {start size : ℕ} (few : size ≤ 4) (inside : start + size ≤ bytes.length) :
    countLoop bytes start size 0 0 = .ok (word bytes start size) := by
  have stored : encode size (word bytes start size) = (bytes.drop start).take size := by
    have length : ((bytes.drop start).take size).length = size := by
      rw [List.length_take, List.length_drop]
      omega
    have back := encode_decode ((bytes.drop start).take size)
    rwa [length] at back
  have split : bytes.take start ++ (encode size (word bytes start size) ++ bytes.drop (start + size)) =
      bytes := by
    rw [stored, ← List.drop_drop, List.take_append_drop, List.take_append_drop]
  have counted := @countLoop_encode (bytes.take start) (bytes.drop (start + size)) start
    size 0 _ 0 (by rw [List.length_take]; omega) (by omega)
    (word_lt bytes start size) (by decide)
  rw [split] at counted
  simpa using counted

theorem parseV4_accepted {data : CompactThetaSketchData} (long : 8 ≤ bytes.length)
    (version : word bytes 1 1 = 4) (parsed : parseV4 bytes seed dumpOnError = .ok data) :
    Accepted bytes data := by
  have defined : Defined (parseV4 bytes seed dumpOnError) := by
    rw [parsed]
    exact defined_ok _
  have bound : word bytes 4 1 < 256 := word_lt bytes 4 1
  simp only [parseV4, readByte, readU16, readU64, Run.bind_eq_ok, ite_eq_iff, checkMemorySize_eq_ok,
    readAt_eq_ok_iff, exists_and_left, exists_eq_left', and_assoc, exists_const, Run.pure_eq,
    Except.ok.injEq, preLongsByte, v4NumEntriesBytesByte, v4EntryBitsByte, decide_eq_true_iff] at parsed
  obtain ⟨_, _, checked, _, cases⟩ := parsed
  have seedHash : word bytes 6 2 = computeSeedHash seed := by
    by_contra other
    obtain ⟨exit, fails, _⟩ := (checkValue_guards (word bytes 6 2) (computeSeedHash seed) "seed hash").2 other
    cases fails.symm.trans checked
  -- The two layouts differ in the place of the count.
  have packed : ∀ theta offset count, countStart bytes = offset → offset ≤ 16 →
      (1 < word bytes 0 1 → 16 ≤ bytes.length) →
      wrap32 (offset + word bytes 4 1) ≤ bytes.length →
      countLoop bytes offset (word bytes 4 1) 0 0 = .ok count →
      wrap32 (offset + word bytes 4 1 + wholeBytesToHoldBits (wrap32 (word bytes 3 1 * count))) ≤
        bytes.length →
      Accepted bytes ⟨false, true, word bytes (seedHashU16 * 2) 2, count, theta,
        some (offset + word bytes 4 1), word bytes 3 1⟩ := by
    rintro theta offset count rfl narrow estimation sized counted enough
    have inside : countStart bytes + word bytes 4 1 ≤ bytes.length := by
      rw [wrap32] at sized
      omega
    have few := (parseV4_defined_iff long).mp defined seedHash estimation inside
    rw [countLoop_eq few inside] at counted
    cases counted
    exact Accepted.packed _ theta version few inside enough
  rcases cases with two | one
  · obtain ⟨above, enough, _, _, sized, count, counted, _, wide, rfl⟩ := two
    rw [if_pos above] at sized counted wide ⊢
    exact packed _ _ _ (if_pos above) (by decide) (fun _ => enough) sized counted wide
  · obtain ⟨below, _, sized, count, counted, _, wide, rfl⟩ := one
    rw [if_neg below] at sized counted wide ⊢
    exact packed _ _ _ (if_neg below) (by decide) (fun above => absurd above below) sized counted wide

theorem parse_accepted {data : CompactThetaSketchData}
    (parsed : parse bytes seed dumpOnError = .ok data) : Accepted bytes data := by
  simp only [parse, Run.bind_eq_ok, ite_eq_iff, checkMemorySize_eq_ok, readByte, readAt_eq_ok_iff,
    exists_and_left, exists_eq_left', and_assoc, exists_const, serialVersionByte, Run.throw_eq,
    reduceCtorEq, and_false, or_false] at parsed
  obtain ⟨long, _, _, _, _, ⟨four, parsed⟩ | ⟨_, ⟨three, parsed⟩ | ⟨_, ⟨one, parsed⟩ | ⟨_, two, parsed⟩⟩⟩⟩ :=
    parsed
  · exact parseV4_accepted long four parsed
  · exact parseV3_accepted three parsed
  · exact parseV1_accepted one parsed
  · exact parseV2_accepted two parsed

end CompactThetaSketchParser

end ThetaSketch
