import ThetaSketch.Table.Growth

/-! Tables that are built for a known number of keys and never cut.

Intersections size a table by the count of the entries it has to take, and the
difference builds one for the entries of its second argument. Neither grows past
its block of slots, and neither ever drops a key.
-/

set_option autoImplicit false

namespace ThetaSketch

open OpenAddressing

/-- A table whose keys are `K`, each counted once. -/
structure Filled (table : HashTable) (K : Finset ℕ) : Prop where
  slots : Slots table.lgCurSize table.entries
  stored : table.stored = K
  count : table.numEntries = K.card

/-- A table takes `n` keys without a cut: they fit its capacity, or it may only
be laid out anew at the size it has. -/
def Takes (table : HashTable) (n : ℕ) : Prop :=
  n ≤ HashTable.getCapacity table.lgCurSize table.lgNomSize ∨
    table.lgCurSize ≤ table.lgNomSize ∧ table.rf = .X1 ∧ n < 2 ^ table.lgCurSize

theorem card_union_fresh {K : Finset ℕ} {hash : ℕ} (new : hash ∉ K) :
    (K ∪ {hash}).card = K.card + 1 :=
  (Finset.card_union_of_disjoint (by simpa using new)).trans (by rw [Finset.card_singleton])

namespace Filled

variable {table : HashTable} {K : Finset ℕ}

theorem find (filled : Filled table K) (room : K.card < 2 ^ table.lgCurSize) (hash : ℕ) :
    ∃ slot, table.find hash = .ok (slot, decide (hash ∈ K)) := by
  obtain ⟨slot, found, _⟩ := filled.slots.find
    (by change table.stored.card < _; rwa [filled.stored]) hash
  have same : keys 0 table.entries = K := filled.stored
  simp only [same] at found
  exact ⟨slot, found⟩

theorem insert (filled : Filled table K) {hash : ℕ} (fresh : hash ∉ K) (proper : hash ≠ 0)
    (takes : Takes table (K.card + 1)) :
    ∃ slot next, table.find hash = .ok (slot, false) ∧ table.insert slot hash = .ok next ∧
      Filled next (K ∪ {hash}) ∧
      { next with entries := table.entries, numEntries := table.numEntries } = table := by
  have capacity := getCapacity_lt table.lgCurSize table.lgNomSize
  have room : K.card < 2 ^ table.lgCurSize := by
    rcases takes with fits | ⟨_, _, fits⟩ <;> omega
  have same : keys 0 table.entries = K := filled.stored
  obtain ⟨slot, found, placed, written⟩ := filled.slots.find (by rwa [same]) hash
  rw [same, decide_eq_false fresh] at found
  have grown : keys 0 (table.entries.set slot hash) = K ∪ {hash} := by
    rw [written, same, Finset.erase_eq_of_notMem, Finset.union_comm]
    · rfl
    · rw [Finset.mem_insert, not_or, ← same]
      exact ⟨proper.symm, by simp⟩
  have size := card_union_fresh fresh
  simp only [HashTable.insert]
  split_ifs with full small
  · obtain ⟨nominal, factor, fits⟩ := takes.resolve_left (by rw [← filled.count]; omega)
    have size_kept : table.lgCurSize =
        min (table.lgCurSize + table.rf.toNat) (table.lgNomSize + 1) := by
      rw [factor, ResizeFactor.toNat]
      omega
    obtain ⟨entries, run, slots, kept⟩ := @resize_spec { table with
      entries := table.entries.set slot hash, numEntries := table.numEntries + 1 } _ size_kept
      (by change (keys 0 (table.entries.set slot hash)).card < _; rwa [grown, size])
    exact ⟨slot, _, found, run, ⟨slots, kept.trans grown, by rw [size, ← filled.count]⟩, rfl⟩
  · rw [filled.count] at full
    rcases takes with fits | ⟨nominal, _⟩
    · omega
    · omega
  · exact ⟨slot, _, found, rfl, ⟨placed, grown, by rw [size, ← filled.count]⟩, rfl⟩

theorem put (filled : Filled table K) {hash : ℕ} (fresh : hash ∉ K) (proper : hash ≠ 0)
    (takes : Takes table (K.card + 1)) :
    ∃ next, table.put hash = .ok next ∧ Filled next (K ∪ {hash}) ∧
      { next with entries := table.entries, numEntries := table.numEntries } = table := by
  obtain ⟨slot, next, found, run, after, config⟩ := filled.insert fresh proper takes
  exact ⟨next, by simp only [HashTable.put, found, Run.ok_bind, run], after, config⟩

end Filled

theorem Takes.mono {table : HashTable} {few many : ℕ} (takes : Takes table many)
    (le : few ≤ many) : Takes table few := by
  rcases takes with fits | ⟨nominal, factor, fits⟩
  · exact Or.inl (le.trans fits)
  · exact Or.inr ⟨nominal, factor, by omega⟩

theorem Takes.config {table next : HashTable} {n : ℕ} (takes : Takes table n)
    (config : { next with entries := table.entries, numEntries := table.numEntries } = table) :
    Takes next n := by
  have kept : Takes { next with entries := table.entries, numEntries := table.numEntries } n :=
    config.symm ▸ takes
  exact kept

theorem fresh_rest {K : Finset ℕ} {hash : ℕ} {rest : List ℕ} (apart : hash ∉ rest)
    (fresh : ∀ x ∈ hash :: rest, x ∉ K ∧ x ≠ 0) : ∀ x ∈ rest, x ∉ K ∪ {hash} ∧ x ≠ 0 := by
  intro x member
  obtain ⟨outside, nonzero⟩ := fresh x (List.mem_cons_of_mem _ member)
  refine ⟨?_, nonzero⟩
  rw [Finset.notMem_union, Finset.mem_singleton]
  exact ⟨outside, fun same => apart (same ▸ member)⟩

theorem Filled.putAll {table : HashTable} {K : Finset ℕ} (filled : Filled table K) (E : List ℕ)
    (distinct : E.Nodup) (fresh : ∀ hash ∈ E, hash ∉ K ∧ hash ≠ 0)
    (takes : Takes table (K.card + E.length)) :
    ∃ next, E.foldlM HashTable.put table = .ok next ∧ Filled next (K ∪ E.toFinset) ∧
      { next with entries := table.entries, numEntries := table.numEntries } = table := by
  induction E generalizing table K with
  | nil => exact ⟨table, rfl, by simpa using filled, rfl⟩
  | cons hash rest ih =>
    obtain ⟨new, proper⟩ := fresh hash List.mem_cons_self
    obtain ⟨apart, distinctRest⟩ := List.nodup_cons.mp distinct
    rw [List.length_cons] at takes
    obtain ⟨next, run, after, config⟩ := filled.put new proper (takes.mono (by omega))
    have size := card_union_fresh new
    obtain ⟨final, runs, filledAll, configAll⟩ := ih after distinctRest (fresh_rest apart fresh)
      ((takes.config config).mono (by omega))
    refine ⟨final, by rw [List.foldlM_cons, run, Run.ok_bind, runs], ?_, ?_⟩
    · rwa [List.toFinset_cons, Finset.insert_eq, ← Finset.union_assoc]
    · rw [← configAll] at config
      exact config

/-! Sizing a table by a count. -/

theorem lgSizeFromCount_pos (n : ℕ) : 1 ≤ lgSizeFromCount n := by
  unfold lgSizeFromCount
  split <;> omega

theorem lt_two_pow_lgSizeFromCount (n : ℕ) : n < 2 ^ lgSizeFromCount n := by
  have high : n < 2 ^ (Nat.log2 n + 1) := Nat.lt_log2_self
  refine high.trans_le (Nat.pow_le_pow_right (by omega) ?_)
  unfold lgSizeFromCount
  split <;> omega

/-- An intersection table, whose nominal size is half its block, takes `n` keys. -/
theorem le_getCapacity_lgSizeFromCount (n : ℕ) :
    n ≤ HashTable.getCapacity (lgSizeFromCount n) (lgSizeFromCount n - 1) := by
  have large := lgSizeFromCount_pos n
  rw [HashTable.getCapacity, if_neg (by omega), lgSizeFromCount]
  have high : n < 2 ^ (Nat.log2 n + 1) := Nat.lt_log2_self
  split
  next crowded =>
    have double : 2 ^ (Nat.log2 n + 2) = 2 * 2 ^ (Nat.log2 n + 1) := Nat.pow_succ'
    rw [double]
    omega
  next fits => omega

theorem filled_new {lgCurSize : ℕ} (positive : 0 < lgCurSize) (lgNomSize : ℕ) (rf : ResizeFactor)
    (p : ℚ) (theta : ℕ) (seed : UInt64) (isEmpty : Bool) :
    Filled (HashTable.new lgCurSize lgNomSize rf p theta seed isEmpty) ∅ := by
  refine ⟨?_, stored_new .., rfl⟩
  simp only [HashTable.new, if_pos positive]
  exact slots_replicate _

end ThetaSketch
