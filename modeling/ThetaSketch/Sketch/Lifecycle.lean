import ThetaSketch.Sketch.Sketch

/-! Every sequence of calls on an update sketch.

Rows, `trim` and `reset` may come in any order. The table then stores the hashes that
were fed since the last `reset` and are below `theta`, each where `find` looks for it.
-/

set_option autoImplicit false

namespace ThetaSketch

open OpenAddressing Threshold

inductive Call where
  | update (data : List UInt8)
  | updateByHash (hash : ℕ)
  | trim
  | reset
  deriving DecidableEq, Repr

namespace UpdateSketch

def trim (sketch : UpdateSketch) : Run UpdateSketch := do
  let table ← sketch.table.trim
  return ⟨table⟩

def reset (sketch : UpdateSketch) : UpdateSketch := ⟨sketch.table.reset⟩

def call (sketch : UpdateSketch) : Call → Run UpdateSketch
  | .update data => sketch.update data
  | .updateByHash hash => sketch.updateByHash hash
  | .trim => sketch.trim
  | .reset => return sketch.reset

def callAll (sketch : UpdateSketch) (calls : List Call) : Run UpdateSketch :=
  calls.foldlM call sketch

end UpdateSketch

/-! What the calls say. -/

def Call.feed (seed : UInt64) (fed : Finset ℕ) : Call → Finset ℕ
  | .update data => insert (computeHash data seed) fed
  | .updateByHash hash => insert hash fed
  | .trim => fed
  | .reset => ∅

def Call.fed (seed : UInt64) (calls : List Call) : Finset ℕ := calls.foldl (Call.feed seed) ∅

def Call.trims (trimmed : Bool) : Call → Bool
  | .trim => true
  | .reset => false
  | _ => trimmed

def Call.trimmed (calls : List Call) : Bool := calls.foldl Call.trims false

/-- The hashes of a set that a table could store at all. -/
def inRange (fed : Finset ℕ) : Finset ℕ := fed.filter fun hash => 0 < hash ∧ hash < maxTheta

/-- What the table of an update sketch is, in terms of the hashes it was fed. -/
structure Represents (table : HashTable) (lgK : ℕ) (fed : Finset ℕ) : Prop where
  nominal : table.lgNomSize = lgK
  slots : table.entries.length = 2 ^ table.lgCurSize
  sized : table.lgCurSize ≤ table.lgNomSize + 1
  counted : table.numEntries = (keyNotZero table.entries).length
  fits : table.numEntries ≤ HashTable.getCapacity table.lgCurSize table.lgNomSize
  room : HashTable.getCapacity table.lgCurSize table.lgNomSize < table.entries.length
  distinct : (keyNotZero table.entries).Nodup
  find : ∀ key, key ≠ 0 → ∃ slot, table.find key = .ok (slot, decide (key ∈ table.entries)) ∧
    table.entries[slot]? = some (if key ∈ table.entries then key else 0)
  stored : ∀ key, key ∈ keyNotZero table.entries ↔ key ∈ fed ∧ 0 < key ∧ key < table.theta

/-! One call. -/

theorem Absorbs.rf {table next : HashTable} {added : Finset ℕ} (step : Absorbs table added next) :
    next.rf = table.rf := by
  have same := congrArg HashTable.rf step.config
  exact same

theorem Absorbs.p {table next : HashTable} {added : Finset ℕ} (step : Absorbs table added next) :
    next.p = table.p := by
  have same := congrArg HashTable.p step.config
  exact same

/-- The state between two calls. The last part says when no cut has happened yet. -/
structure Lives (builder : ThetaBaseBuilder) (sketch : UpdateSketch) (fed : Finset ℕ)
    (trimmed : Bool) : Prop where
  gathers : Gathers sketch maxTheta (fed.erase 0)
  nominal : sketch.table.lgNomSize = builder.lgK
  rf : sketch.table.rf = builder.rf
  p : sketch.table.p = builder.p
  seed : sketch.table.seed = builder.seed
  uncut : trimmed = false → (inRange fed).card ≤ 15 * 2 ^ (builder.lgK + 1) / 16 →
    sketch.table.theta = maxTheta

variable {builder : ThetaBaseBuilder} {sketch : UpdateSketch} {fed : Finset ℕ} {trimmed : Bool}

theorem startingTheta_eq (whole : builder.p = 1) : builder.startingTheta = maxTheta := by
  rw [ThetaBaseBuilder.startingTheta, startingThetaFromP, whole, if_neg (lt_irrefl 1)]

theorem lives_new (large : minLgK ≤ builder.lgK) (whole : builder.p = 1) :
    Lives builder (UpdateSketch.new builder) ∅ false where
  gathers := by
    rw [Finset.erase_empty, ← startingTheta_eq whole]
    exact gathers_new builder large
  nominal := rfl
  rf := rfl
  p := rfl
  seed := rfl
  uncut := fun _ _ => startingTheta_eq whole

theorem Lives.stored (lives : Lives builder sketch fed trimmed)
    (top : sketch.table.theta = maxTheta) : sketch.table.stored = inRange fed := by
  have kept := lives.gathers.trims.kept
  rw [top] at kept
  ext key
  have same := Finset.ext_iff.mp kept key
  simp only [mem_sample, Finset.mem_erase] at same
  rw [inRange, Finset.mem_filter]
  constructor
  · intro member
    have below := lives.gathers.grows.below key member
    rw [top] at below
    obtain ⟨⟨proper, inside⟩, _⟩ := same.mp ⟨member, below⟩
    exact ⟨inside, Nat.pos_of_ne_zero proper, below⟩
  · rintro ⟨inside, positive, below⟩
    exact (same.mpr ⟨⟨Nat.ne_of_gt positive, inside⟩, below⟩).1

/-- A row lowers `theta` only if it is new and the largest table is full. -/
theorem UpdateSketch.updateByHash_theta (grows : Grows sketch.table) {hash : ℕ} {next : UpdateSketch}
    (run : sketch.updateByHash hash = .ok next) : next.table.theta = sketch.table.theta ∨
      (0 < hash ∧ hash < sketch.table.theta ∧ hash ∉ sketch.table.stored) ∧
        sketch.table.lgNomSize < sketch.table.lgCurSize ∧
        HashTable.getCapacity sketch.table.lgCurSize sketch.table.lgNomSize <
          sketch.table.numEntries + 1 := by
  unfold updateByHash HashTable.screen at run
  dsimp only at run
  split_ifs at run with screened dropped zero
  · cases run
    exact .inl rfl
  · exact absurd rfl dropped
  · cases run
    exact .inl rfl
  · obtain ⟨after, stepped, same⟩ := Run.bind_eq_ok.mp run
    cases same
    have room : sketch.table.stored.card < 2 ^ sketch.table.lgCurSize :=
      (grows.counted.trans grows.fits).trans_lt (getCapacity_lt _ _)
    obtain ⟨slot, found, _⟩ := grows.slots.find room hash
    obtain ⟨result, here, inserted⟩ := Run.bind_eq_ok.mp stepped
    cases found.symm.trans here
    dsimp only at inserted
    by_cases known : hash ∈ sketch.table.stored
    · rw [if_pos (by exact decide_eq_true known)] at inserted
      cases inserted
      exact .inl rfl
    · rw [if_neg (by exact ne_true_of_eq_false (decide_eq_false known))] at inserted
      exact (insert_theta inserted).imp_right fun full =>
        ⟨⟨Nat.pos_of_ne_zero zero, not_le.mp screened, known⟩, full⟩

theorem Lives.updateByHash (lives : Lives builder sketch fed trimmed) (hash : ℕ) :
    ∃ next, sketch.updateByHash hash = .ok next ∧ Lives builder next (insert hash fed) trimmed ∧
      next.table.theta ≤ sketch.table.theta := by
  obtain ⟨after, run, step⟩ := sketch.updateByHash_spec lives.gathers.grows hash
  obtain ⟨next, again, gathers, _, nominal, seed⟩ := lives.gathers.updateByHash hash
  cases run.symm.trans again
  have grown : (insert hash fed).erase 0 = fed.erase 0 ∪ ({hash} : Finset ℕ).erase 0 := by
    rw [← Finset.erase_union_distrib, Finset.union_comm]
    rfl
  have wider : inRange fed ⊆ inRange (insert hash fed) :=
    Finset.filter_subset_filter _ (Finset.subset_insert _ _)
  refine ⟨⟨after⟩, run, ⟨grown ▸ gathers, nominal.trans lives.nominal, step.rf.trans lives.rf,
    step.p.trans lives.p, seed.trans lives.seed, fun calm few => ?_⟩, step.lower⟩
  have top := lives.uncut calm ((Finset.card_le_card wider).trans few)
  rcases UpdateSketch.updateByHash_theta lives.gathers.grows run with same | ⟨fresh, large, full⟩
  · exact same.trans top
  · -- The new hash would be one more than the capacity allows.
    exfalso
    have stored := lives.stored top
    have inside : hash ∈ inRange (insert hash fed) := by
      rw [inRange, Finset.mem_filter]
      exact ⟨Finset.mem_insert_self _ _, fresh.1, top ▸ fresh.2.1⟩
    have more : (insert hash (inRange fed)).card ≤ (inRange (insert hash fed)).card :=
      Finset.card_le_card (Finset.insert_subset inside wider)
    rw [Finset.card_insert_of_notMem (stored ▸ fresh.2.2), ← stored, lives.gathers.counted] at more
    have size : sketch.table.lgCurSize = builder.lgK + 1 := by
      have := lives.gathers.grows.sized
      rw [← lives.nominal]
      omega
    rw [HashTable.getCapacity, if_neg (not_le.mpr large), size] at full
    omega

theorem Lives.trim (lives : Lives builder sketch fed trimmed) :
    ∃ next, sketch.trim = .ok next ∧ Lives builder next fed true ∧
      next.table.theta ≤ sketch.table.theta := by
  obtain ⟨after, run, step⟩ := lives.gathers.grows.trim
  have gathers : Gathers ⟨after⟩ maxTheta (fed.erase 0) := by
    refine ⟨step.grows, (step.exact (Finset.notMem_empty 0) lives.gathers.counted).1,
      lives.gathers.proper, ?_⟩
    have trims := step.trims (Finset.notMem_empty 0) lives.gathers.counted lives.gathers.trims
    rw [Finset.union_empty, ← step.lgNomSize] at trims
    exact trims
  refine ⟨⟨after⟩, by rw [UpdateSketch.trim, run]; rfl, ⟨gathers, step.lgNomSize.trans lives.nominal,
    step.rf.trans lives.rf, step.p.trans lives.p, step.seed.trans lives.seed, ?_⟩, step.lower⟩
  rintro ⟨⟩

theorem UpdateSketch.reset_eq (nominal : sketch.table.lgNomSize = builder.lgK)
    (rf : sketch.table.rf = builder.rf) (p : sketch.table.p = builder.p)
    (seed : sketch.table.seed = builder.seed) : sketch.reset = UpdateSketch.new builder := by
  have positive : 0 < builder.startingLgSize := by
    unfold ThetaBaseBuilder.startingLgSize startingSubMultiple minLgK
    split_ifs <;> omega
  obtain ⟨⟨isEmpty, lgCurSize, lgNomSize, factor, probability, numEntries, theta, word, entries⟩⟩ := sketch
  cases nominal
  cases rf
  cases p
  cases seed
  simp only [UpdateSketch.reset, UpdateSketch.new, HashTable.reset, ThetaBaseBuilder.table,
    HashTable.new, if_pos positive]
  rfl

theorem Lives.call (lives : Lives builder sketch fed trimmed) (large : minLgK ≤ builder.lgK)
    (whole : builder.p = 1) (call : Call) :
    ∃ next, sketch.call call = .ok next ∧
      Lives builder next (call.feed builder.seed fed) (call.trims trimmed) ∧
      (call ≠ .reset → next.table.theta ≤ sketch.table.theta) := by
  cases call with
  | update data =>
    obtain ⟨next, run, after, lower⟩ := lives.updateByHash (computeHash data sketch.table.seed)
    rw [lives.seed] at run after
    refine ⟨next, ?_, after, fun _ => lower⟩
    rw [UpdateSketch.call, UpdateSketch.update_eq, lives.seed, run]
  | updateByHash hash =>
    obtain ⟨next, run, after, lower⟩ := lives.updateByHash hash
    exact ⟨next, run, after, fun _ => lower⟩
  | trim =>
    obtain ⟨next, run, after, lower⟩ := lives.trim
    exact ⟨next, run, after, fun _ => lower⟩
  | reset =>
    refine ⟨sketch.reset, rfl, ?_, fun other => absurd rfl other⟩
    rw [UpdateSketch.reset_eq lives.nominal lives.rf lives.p lives.seed]
    exact lives_new large whole

/-! All calls. -/

theorem Lives.callAll (lives : Lives builder sketch fed trimmed) (large : minLgK ≤ builder.lgK)
    (whole : builder.p = 1) (calls : List Call) :
    ∃ final, sketch.callAll calls = .ok final ∧
      Lives builder final (calls.foldl (Call.feed builder.seed) fed) (calls.foldl Call.trims trimmed) ∧
      (Call.reset ∉ calls → final.table.theta ≤ sketch.table.theta) := by
  induction calls generalizing sketch fed trimmed with
  | nil => exact ⟨sketch, rfl, lives, fun _ => le_rfl⟩
  | cons call rest ih =>
    obtain ⟨next, run, after, lower⟩ := lives.call large whole call
    obtain ⟨final, runs, last, lowest⟩ := ih after
    refine ⟨final, ?_, last, fun none => ?_⟩
    · rw [UpdateSketch.callAll, List.foldlM_cons, run]
      exact runs
    · rw [List.mem_cons, not_or] at none
      exact (lowest none.2).trans (lower (Ne.symm none.1))

theorem Lives.represents (lives : Lives builder sketch fed trimmed) :
    Represents sketch.table builder.lgK fed := by
  have grows := lives.gathers.grows
  have capacity := getCapacity_lt sketch.table.lgCurSize sketch.table.lgNomSize
  have room : (keys 0 sketch.table.entries).card < 2 ^ sketch.table.lgCurSize :=
    (grows.counted.trans grows.fits).trans_lt capacity
  have counted := lives.gathers.counted
  refine ⟨lives.nominal, grows.slots.length, grows.sized, ?_, grows.fits, ?_, grows.slots.placed.nodup,
    fun key proper => ?_, fun key => ?_⟩
  · exact counted.symm.trans grows.slots.placed.card_keys
  · rwa [grows.slots.length]
  · obtain ⟨slot, found, held⟩ := grows.slots.find_slot room proper
    have known : key ∈ keys 0 sketch.table.entries ↔ key ∈ sketch.table.entries := by
      rw [mem_keys]
      exact and_iff_right proper
    simp only [known] at found held
    exact ⟨slot, found, held⟩
  · have kept := Finset.ext_iff.mp lives.gathers.trims.kept key
    simp only [mem_sample, Finset.mem_erase] at kept
    have stored : key ∈ keyNotZero sketch.table.entries ↔ key ∈ sketch.table.stored := by
      rw [mem_keyNotZero, HashTable.stored, mem_keys, and_comm]
    rw [stored]
    constructor
    · intro member
      have below := grows.below key member
      obtain ⟨⟨proper, inside⟩, _⟩ := kept.mp ⟨member, below⟩
      exact ⟨inside, Nat.pos_of_ne_zero proper, below⟩
    · rintro ⟨inside, positive, below⟩
      exact (kept.mpr ⟨⟨Nat.ne_of_gt positive, inside⟩, below⟩).1

/-- Any calls, in any order, leave a table that represents what was fed since the last
`reset`; `theta` only falls, and stays at its maximum while the hashes fit. -/
theorem UpdateSketch.callAll_represents (builder : ThetaBaseBuilder) (large : minLgK ≤ builder.lgK)
    (whole : builder.p = 1) (calls : List Call) :
    ∃ sketch, (UpdateSketch.new builder).callAll calls = .ok sketch ∧
      Represents sketch.table builder.lgK (Call.fed builder.seed calls) ∧
      (Call.trimmed calls = false →
        (inRange (Call.fed builder.seed calls)).card ≤ 15 * 2 ^ (builder.lgK + 1) / 16 →
        sketch.table.theta = maxTheta) ∧
      ∀ more, Call.reset ∉ more →
        ∃ later, sketch.callAll more = .ok later ∧ later.table.theta ≤ sketch.table.theta := by
  obtain ⟨sketch, run, lives, _⟩ := (lives_new large whole).callAll large whole calls
  refine ⟨sketch, run, lives.represents, lives.uncut, fun more none => ?_⟩
  obtain ⟨later, runs, _, lower⟩ := lives.callAll large whole more
  exact ⟨later, runs, lower none⟩

theorem UpdateSketch.callAll_represents_reset : ∃ sketch,
    (UpdateSketch.new {}).callAll [.updateByHash 5, .reset, .updateByHash 7] = .ok sketch ∧
      Represents sketch.table defaultLgK {7} := by
  obtain ⟨sketch, run, represents, _⟩ := UpdateSketch.callAll_represents {} (by decide) rfl
    [.updateByHash 5, .reset, .updateByHash 7]
  exact ⟨sketch, run, represents⟩

end ThetaSketch
