import ThetaSketch.Table.Filling

/-! Whether the count of a table is the number of its keys.

A zero that is inserted is counted without being stored, and a key that is stored
again is counted twice. The count never falls back to the number of the keys: a
rebuild keeps the zeros that it believes to be entries, as its smallest ones.
-/

set_option autoImplicit false

namespace ThetaSketch

open OpenAddressing

/-- The count is the number of occupied slots, and no key is stored twice. -/
def HashTable.Tight (table : HashTable) : Prop :=
  table.numEntries = (keyNotZero table.entries).length ∧ (keyNotZero table.entries).Nodup

instance (table : HashTable) : Decidable table.Tight := by
  unfold HashTable.Tight
  infer_instance

theorem tight_iff {table : HashTable} (slots : Slots table.lgCurSize table.entries) :
    table.Tight ↔ table.stored.card = table.numEntries := by
  rw [HashTable.Tight, HashTable.stored, slots.placed.card_keys, eq_comm]
  exact and_iff_left slots.placed.nodup

theorem tight_of_bare {table : HashTable} (bare : table.numEntries = 0)
    (none_stored : table.stored.card = table.numEntries) : table.Tight := by
  have nothing : keyNotZero table.entries = [] := by
    rw [← List.toFinset_eq_empty_iff, toFinset_keyNotZero, ← Finset.card_eq_zero]
    exact none_stored.trans bare
  rw [HashTable.Tight, nothing, bare]
  exact ⟨rfl, List.nodup_nil⟩

theorem insert_fits {table : HashTable} (slots : Slots table.lgCurSize table.entries)
    (counted : table.stored.card ≤ table.numEntries)
    (fits : table.numEntries + 1 ≤ HashTable.getCapacity table.lgCurSize table.lgNomSize)
    (hash : ℕ) :
    ∃ slot entries, table.find hash = .ok (slot, decide (hash ∈ table.stored)) ∧
      table.insert slot hash =
        .ok { table with entries := entries, numEntries := table.numEntries + 1 } ∧
      Slots table.lgCurSize entries ∧ keys 0 entries = (insert hash table.stored).erase 0 := by
  have capacity := getCapacity_lt table.lgCurSize table.lgNomSize
  have room : table.stored.card < 2 ^ table.lgCurSize := by omega
  obtain ⟨slot, found, placed, written⟩ := slots.find room hash
  refine ⟨slot, table.entries.set slot hash, found, ?_, placed, written⟩
  simp only [HashTable.insert, if_neg (not_lt.mpr fits)]

theorem Grows.insert_slack {table next : HashTable} (grows : Grows table) {slot hash : ℕ}
    (placed : Slots table.lgCurSize (table.entries.set slot hash))
    (ahead : (keys 0 (table.entries.set slot hash)).card < table.numEntries + 1)
    (run : table.insert slot hash = .ok next) : next.stored.card < next.numEntries := by
  have capacity := getCapacity_lt table.lgCurSize table.lgNomSize
  have fits := grows.fits
  simp only [HashTable.insert] at run
  split_ifs at run with full small
  · have wider : table.lgCurSize ≤
        min (table.lgCurSize + table.rf.toNat) (table.lgNomSize + 1) := by omega
    have larger := Nat.pow_le_pow_right Nat.two_pos wider
    obtain ⟨entries, resized, _, same⟩ := @resize_spec { table with
      entries := table.entries.set slot hash, numEntries := table.numEntries + 1 } _ rfl
      ((ahead.trans_le (by omega)).trans_le larger)
    cases resized.symm.trans run
    change (keys 0 entries).card < table.numEntries + 1
    rw [same]
    exact ahead
  · have top : table.lgCurSize = table.lgNomSize + 1 := by
      have := grows.sized
      omega
    have nominal := Nat.two_pow_pos table.lgNomSize
    have double : 2 ^ table.lgCurSize = 2 * 2 ^ table.lgNomSize := by rw [top, Nat.pow_succ']
    rw [HashTable.getCapacity, if_neg small] at fits full capacity
    obtain ⟨theta, entries, rebuilt, _, _, _, _, _, cut⟩ := @rebuild_spec { table with
      entries := table.entries.set slot hash, numEntries := table.numEntries + 1 } placed ahead.le
      (by change table.numEntries + 1 ≤ 2 ^ table.lgCurSize; omega)
      (by change 2 ^ table.lgNomSize < table.numEntries + 1; omega)
    cases rebuilt.symm.trans run
    exact cut ahead
  · cases run
    exact ahead

theorem Grows.findOrInsert_tight {table next : HashTable} (grows : Grows table) {hash : ℕ}
    (under : hash < table.theta) (run : table.findOrInsert hash = .ok next) :
    next.Tight ↔ table.Tight ∧ hash ≠ 0 := by
  obtain ⟨same, sameRun, step⟩ := grows.findOrInsert under
  have equal : same = next := Except.ok.inj (sameRun.symm.trans run)
  subst equal
  rw [tight_iff grows.slots, tight_iff step.grows.slots]
  constructor
  · intro count
    have counted := grows.counted
    have room : table.stored.card < 2 ^ table.lgCurSize :=
      (counted.trans grows.fits).trans_lt (getCapacity_lt _ _)
    obtain ⟨slot, found, placed, written⟩ := grows.slots.find room hash
    change table.find hash = .ok (slot, decide (hash ∈ table.stored)) at found
    simp only [HashTable.findOrInsert, found, Run.ok_bind, decide_eq_true_eq] at run
    split_ifs at run with known
    · cases run
      exact ⟨count, (mem_keys.mp known).1⟩
    · by_contra ahead
      refine absurd count (grows.insert_slack placed ?_ run).ne
      have size := Finset.card_insert_le hash table.stored
      have erased := Finset.card_erase_le (s := Insert.insert hash table.stored) (a := 0)
      rw [written]
      change ((Insert.insert hash table.stored).erase 0).card < _
      by_cases zero : hash = 0
      · subst zero
        rw [Finset.erase_insert known]
        omega
      · have slack : table.stored.card ≠ table.numEntries := fun exact => ahead ⟨exact, zero⟩
        omega
  · rintro ⟨count, proper⟩
    exact (step.exact (by simpa using Ne.symm proper) count).1

end ThetaSketch
