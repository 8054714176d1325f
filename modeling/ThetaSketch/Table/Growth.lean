import ThetaSketch.Library.Threshold
import ThetaSketch.Table.Probing

/-! Growth of the hash table: what `resize`, `rebuild` and `insert` keep.

A table never loses a key below its `theta`. The invariant `Grows` holds of the
tables of update sketches and unions; it is stated with an inequality between
stored keys and `numEntries`, because a stored zero raises the count only.
-/

set_option autoImplicit false

namespace ThetaSketch

open OpenAddressing Threshold

/-! The stored keys in slot order. -/

@[simp] theorem keyNotZero_nil : keyNotZero [] = [] := rfl

@[simp] theorem keyNotZero_zero (rest : List ℕ) : keyNotZero (0 :: rest) = keyNotZero rest := by
  simp [keyNotZero]

theorem keyNotZero_cons {entry : ℕ} (proper : entry ≠ 0) (rest : List ℕ) :
    keyNotZero (entry :: rest) = entry :: keyNotZero rest := by
  simp [keyNotZero, proper]

@[simp] theorem keyNotZero_append (front rest : List ℕ) :
    keyNotZero (front ++ rest) = keyNotZero front ++ keyNotZero rest := by
  simp [keyNotZero]

@[simp] theorem mem_keyNotZero {entries : List ℕ} {x : ℕ} :
    x ∈ keyNotZero entries ↔ x ∈ entries ∧ x ≠ 0 := by
  simp [keyNotZero]

theorem length_keyNotZero_le (entries : List ℕ) :
    (keyNotZero entries).length ≤ entries.length :=
  List.length_filter_le _ _

theorem toFinset_keyNotZero (entries : List ℕ) :
    (keyNotZero entries).toFinset = keys 0 entries :=
  toFinset_filter

theorem eq_replicate_of_keyNotZero {entries : List ℕ} (none_left : keyNotZero entries = []) :
    entries = List.replicate entries.length 0 := by
  rw [List.eq_replicate_iff]
  refine ⟨rfl, fun x member => ?_⟩
  by_contra proper
  have : x ∈ keyNotZero entries := mem_keyNotZero.mpr ⟨member, proper⟩
  rw [none_left] at this
  exact List.not_mem_nil this

/-! Compaction. -/

/-- Between `i` and `j` every slot is empty; the keys met so far stand below `i`. -/
theorem consolidateLoop_eq (num : ℕ) (done rest : List ℕ) {gap fuel : ℕ} (wide : 0 < gap)
    (enough : rest.length < fuel) (fits : done.length + (keyNotZero rest).length ≤ num) :
    HashTable.consolidateLoop num fuel (done ++ List.replicate gap 0 ++ rest) done.length
        (done.length + gap) =
      done ++ keyNotZero rest ++
        List.replicate (gap + (rest.length - (keyNotZero rest).length)) 0 := by
  induction rest generalizing done gap fuel with
  | nil =>
    obtain ⟨fuel, rfl⟩ := Nat.exists_eq_succ_of_ne_zero (Nat.ne_of_gt enough)
    simp [HashTable.consolidateLoop]
  | cons entry rest ih =>
    obtain ⟨fuel, rfl⟩ := Nat.exists_eq_succ_of_ne_zero (by omega : fuel ≠ 0)
    replace enough : rest.length < fuel := by simpa using enough
    have current : (done ++ List.replicate gap 0 ++ entry :: rest)[done.length + gap]? =
        some entry := by
      rw [List.getElem?_append_right (by simp)]
      simp
    have shorter := length_keyNotZero_le rest
    -- An empty slot widens the gap, a key moves to its front.
    rcases eq_or_ne entry 0 with rfl | proper
    · have wider : done ++ List.replicate gap 0 ++ 0 :: rest =
          done ++ List.replicate (gap + 1) 0 ++ rest := by
        simp [List.replicate_succ']
      have next := ih done (Nat.succ_pos gap) enough (by simpa using fits)
      simp only [HashTable.consolidateLoop, current, if_true]
      rw [wider, Nat.add_assoc, next, keyNotZero_zero]
      congr 2
      rw [List.length_cons]
      omega
    · obtain ⟨space, rfl⟩ := Nat.exists_eq_succ_of_ne_zero (Nat.ne_of_gt wide)
      have moved : ((done ++ List.replicate (space + 1) 0 ++ entry :: rest).set done.length
            entry).set (done.length + (space + 1)) 0 =
          (done ++ [entry]) ++ List.replicate (space + 1) 0 ++ rest := by
        rw [List.append_assoc, List.set_append_right _ _ le_rfl,
          List.set_append_right _ _ (by omega), Nat.sub_self, Nat.add_sub_cancel_left,
          List.replicate_succ, List.cons_append, List.set_cons_zero, List.set_cons_succ,
          List.set_append_right _ _ (by simp), ← List.replicate_succ, List.replicate_succ']
        simp
      rw [keyNotZero_cons proper, List.length_cons] at fits ⊢
      simp only [HashTable.consolidateLoop, current, if_neg proper, moved]
      split
      -- The loop stops with the last key, so the rest must be empty.
      next last =>
        have none_left : keyNotZero rest = [] := List.eq_nil_of_length_eq_zero (by omega)
        have zeros := eq_replicate_of_keyNotZero none_left
        rw [none_left]
        conv_lhs => rw [zeros]
        simp only [List.length_cons, List.length_nil, List.append_assoc,
          List.replicate_append_replicate]
        congr 3
      next =>
        have next := ih (done ++ [entry]) (Nat.succ_pos space) enough (by simp; omega)
        rw [List.length_append, List.length_singleton] at next
        have step : done.length + (space + 1) + 1 = done.length + 1 + (space + 1) := by omega
        rw [step, next]
        simp only [List.length_cons, List.append_assoc, List.cons_append, List.nil_append]
        congr 4
        omega

theorem consolidateNonEmpty_eq (entries : List ℕ) (num : ℕ)
    (fits : (keyNotZero entries).length ≤ num) :
    HashTable.consolidateNonEmpty entries num = keyNotZero entries ++
      List.replicate (entries.length - (keyNotZero entries).length) 0 := by
  have split : entries.takeWhile (· ≠ 0) ++ entries.dropWhile (· ≠ 0) = entries :=
    List.takeWhile_append_dropWhile
  have front : keyNotZero (entries.takeWhile (· ≠ 0)) = entries.takeWhile (· ≠ 0) := by
    rw [keyNotZero, List.filter_eq_self]
    exact fun x member => List.all_eq_true.mp List.all_takeWhile x member
  have blank : ∀ first rest, entries.dropWhile (· ≠ 0) = first :: rest → first = 0 := by
    intro first rest tail
    have stop := List.head_dropWhile_not (p := fun x : ℕ => decide (x ≠ 0)) (l := entries)
      (by rw [tail]; exact List.cons_ne_nil _ _)
    simp only [tail, List.head_cons] at stop
    simpa using stop
  unfold HashTable.consolidateNonEmpty
  generalize entries.takeWhile (· ≠ 0) = done at split front ⊢
  -- The first loop skips the keys in front of the first gap.
  cases tail : entries.dropWhile (· ≠ 0) with
  | nil =>
    rw [tail, List.append_nil] at split
    subst split
    rw [front, Nat.sub_self, List.replicate_zero, List.append_nil]
    cases done with
    | nil => rfl
    | cons first rest => simp [HashTable.consolidateLoop]
  | cons first rest =>
    obtain rfl := blank first rest tail
    rw [tail] at split
    subst split
    have shape : done ++ 0 :: rest = done ++ List.replicate 1 0 ++ rest := by simp
    have shorter := length_keyNotZero_le rest
    simp only [keyNotZero_append, front, keyNotZero_zero, List.length_append] at fits ⊢
    rw [shape, consolidateLoop_eq num done rest Nat.one_pos (by simp; omega) fits]
    congr 2
    rw [List.length_cons]
    omega

/-! Growing and rebuilding. -/

theorem resize_spec {table : HashTable} {lgNewSize : ℕ}
    (size : lgNewSize = min (table.lgCurSize + table.rf.toNat) (table.lgNomSize + 1))
    (room : (keys 0 table.entries).card < 2 ^ lgNewSize) :
    ∃ entries, table.resize = .ok { table with entries := entries, lgCurSize := lgNewSize } ∧
      Slots lgNewSize entries ∧ keys 0 entries = keys 0 table.entries := by
  obtain ⟨entries, run, moved, stored⟩ := (slots_replicate lgNewSize).placeAll
    (keyNotZero table.entries)
    (by rwa [keys_replicate, Finset.empty_union, toFinset_keyNotZero])
  refine ⟨entries, ?_, moved, ?_⟩
  · simp only [HashTable.resize, ← size, run, Run.ok_bind]
    rfl
  · rw [stored, keys_replicate, Finset.empty_union, toFinset_keyNotZero]
    exact Finset.erase_eq_of_notMem (by simp)

theorem take_consolidated {entries : List ℕ} {num : ℕ}
    (counted : (keyNotZero entries).length ≤ num) (inside : num ≤ entries.length) :
    (HashTable.consolidateNonEmpty entries num).take num =
      keyNotZero entries ++ List.replicate (num - (keyNotZero entries).length) 0 := by
  rw [consolidateNonEmpty_eq _ _ counted, List.take_append, List.take_of_length_le counted,
    List.take_replicate]
  congr 2
  omega

theorem nthElement_perm (range : List ℕ) : (nthElement range).Perm range :=
  List.perm_insertionSort _ _

/-- In the sorted front only zeros repeat, so a key stands strictly below every
later entry. -/
theorem nthElement_pairwise {kept : List ℕ} (distinct : kept.Nodup)
    (zeros : ℕ) :
    (nthElement (kept ++ List.replicate zeros 0)).Pairwise fun a b => a ≤ b ∧ (a = b → a = 0) := by
  have permuted := nthElement_perm (kept ++ List.replicate zeros 0)
  have sorted := List.pairwise_insertionSort (· ≤ ·) (kept ++ List.replicate zeros 0)
  have apart : (kept ++ List.replicate zeros 0).Pairwise fun a b => a = b → a = 0 := by
    rw [List.pairwise_append]
    refine ⟨distinct.imp fun different same => absurd same different, ?_, ?_⟩
    · rw [List.pairwise_replicate]
      exact Or.inr fun _ => rfl
    · intro a _ b member same
      exact same.trans (List.eq_of_mem_replicate member)
  have symmetric : ∀ {a b : ℕ}, (a = b → a = 0) → (b = a → b = 0) :=
    fun zero same => same.trans (zero same.symm)
  exact sorted.and ((permuted.pairwise_iff symmetric).mpr apart)

theorem mem_take_iff_lt {old : List ℕ}
    (order : old.Pairwise fun a b => a ≤ b ∧ (a = b → a = 0)) {cut : ℕ} (long : cut < old.length)
    {x : ℕ} (proper : x ≠ 0) : x ∈ old.take cut ↔ x ∈ old ∧ x < old[cut] := by
  rw [List.pairwise_iff_getElem] at order
  constructor
  · intro member
    obtain ⟨i, bound, rfl⟩ := List.mem_take_iff_getElem.mp member
    obtain ⟨le, equal⟩ := order i cut (by omega) long (by omega)
    exact ⟨List.getElem_mem _, lt_of_le_of_ne le fun same => proper (equal same)⟩
  · rintro ⟨member, below⟩
    obtain ⟨i, bound, rfl⟩ := List.mem_iff_getElem.mp member
    have earlier : i < cut := by
      by_contra later
      rcases (not_lt.mp later).eq_or_lt with rfl | later
      · exact lt_irrefl _ below
      · exact absurd below (not_lt.mpr (order cut i long bound later).1)
    exact List.mem_take_iff_getElem.mpr ⟨i, by omega, rfl⟩

/-- `rebuild` cuts the keys at the one in position `2 ^ lgNomSize`. When zeros
were counted as entries they sort to the front and the cut falls lower. -/
theorem rebuild_spec {table : HashTable} (slots : Slots table.lgCurSize table.entries)
    (counted : (keys 0 table.entries).card ≤ table.numEntries)
    (inside : table.numEntries ≤ 2 ^ table.lgCurSize)
    (many : 2 ^ table.lgNomSize < table.numEntries) :
    ∃ theta entries, table.rebuild = .ok { table with
        theta := theta, entries := entries, numEntries := 2 ^ table.lgNomSize } ∧
      Slots table.lgCurSize entries ∧
      theta ∈ insert 0 (keys 0 table.entries) ∧
      keys 0 entries = sample (keys 0 table.entries) theta ∧
      (keys 0 entries).card ≤ 2 ^ table.lgNomSize ∧
      ((keys 0 table.entries).card = table.numEntries →
        theta ∈ keys 0 table.entries ∧ (keys 0 entries).card = 2 ^ table.lgNomSize) ∧
      ((keys 0 table.entries).card < table.numEntries →
        (keys 0 entries).card < 2 ^ table.lgNomSize) := by
  rw [slots.placed.card_keys, ← keyNotZero] at counted ⊢
  have front := take_consolidated counted (slots.length ▸ inside)
  have distinct : (keyNotZero table.entries).Nodup := slots.placed.nodup
  have order := nthElement_pairwise distinct (table.numEntries - (keyNotZero table.entries).length)
  have permuted := nthElement_perm (keyNotZero table.entries ++
    List.replicate (table.numEntries - (keyNotZero table.entries).length) 0)
  simp only [HashTable.rebuild, front]
  generalize nthElement _ = old at order permuted ⊢
  have length : old.length = table.numEntries := by
    rw [permuted.length_eq, List.length_append, List.length_replicate]
    omega
  have long : 2 ^ table.lgNomSize < old.length := length ▸ many
  have members : ∀ x, x ≠ 0 → (x ∈ old ↔ x ∈ keys 0 table.entries) := by
    intro x proper
    rw [permuted.mem_iff, List.mem_append, ← toFinset_keyNotZero, List.mem_toFinset]
    exact or_iff_left fun zero => proper (List.eq_of_mem_replicate zero)
  have kept : (keys 0 (List.replicate (2 ^ table.lgCurSize) 0) ∪
      (old.take (2 ^ table.lgNomSize)).toFinset).card < 2 ^ table.lgCurSize := by
    rw [keys_replicate, Finset.empty_union]
    have size := List.toFinset_card_le (old.take (2 ^ table.lgNomSize))
    rw [List.length_take] at size
    omega
  obtain ⟨entries, run, placed, stored⟩ := (slots_replicate table.lgCurSize).placeAll _ kept
  rw [keys_replicate, Finset.empty_union] at stored
  refine ⟨old[2 ^ table.lgNomSize], entries, ?_, placed, ?_, ?_, ?_, fun exact_count => ?_,
    fun slack => ?_⟩
  · simp only [List.getElem?_eq_getElem long, run, Run.ok_bind]
    rfl
  · by_cases zero : old[2 ^ table.lgNomSize] = 0
    · simp [zero]
    · exact Finset.mem_insert_of_mem ((members _ zero).mp (List.getElem_mem long))
  · ext x
    rw [stored, Finset.mem_erase, List.mem_toFinset, mem_sample]
    by_cases proper : x = 0
    · simp [proper]
    · rw [mem_take_iff_lt order long proper, members x proper]
      simp [proper]
  · have size := List.toFinset_card_le (old.take (2 ^ table.lgNomSize))
    rw [List.length_take] at size
    have := Finset.card_erase_le (s := (old.take (2 ^ table.lgNomSize)).toFinset) (a := 0)
    rw [stored]
    omega
  · rw [exact_count, Nat.sub_self, List.replicate_zero, List.append_nil] at permuted
    have proper : ∀ x ∈ old, x ≠ 0 := fun x member =>
      (mem_keyNotZero.mp (permuted.mem_iff.mp member)).2
    refine ⟨(members _ (proper _ (List.getElem_mem long))).mp (List.getElem_mem long), ?_⟩
    rw [stored, Finset.erase_eq_of_notMem fun zero => proper 0
      (List.mem_of_mem_take (List.mem_toFinset.mp zero)) rfl,
      List.toFinset_card_of_nodup ((permuted.nodup_iff.mpr distinct).sublist
        (List.take_sublist _ _)), List.length_take]
    omega
  · -- A zero among the entries sorts to the front, so it is kept and holds no slot.
    have zero : 0 ∈ old.take (2 ^ table.lgNomSize) := by
      have member : 0 ∈ old := permuted.mem_iff.mpr (List.mem_append_right _
        (List.mem_replicate.mpr ⟨by omega, rfl⟩))
      obtain ⟨i, bound, same⟩ := List.mem_iff_getElem.mp member
      have least : old[0] = 0 := by
        rcases Nat.eq_zero_or_pos i with first | later
        · subst first
          exact same
        · have le := (List.pairwise_iff_getElem.mp order 0 i (by omega) bound later).1
          omega
      exact List.mem_take_iff_getElem.mpr
        ⟨0, lt_min (Nat.two_pow_pos _) (by omega), least⟩
    have size := List.toFinset_card_le (old.take (2 ^ table.lgNomSize))
    have smaller := Finset.card_erase_lt_of_mem (List.mem_toFinset.mpr zero)
    rw [List.length_take] at size
    rw [stored]
    omega

/-! The invariant of a table that grows. -/

theorem getCapacity_lt (lgCurSize lgNomSize : ℕ) :
    HashTable.getCapacity lgCurSize lgNomSize < 2 ^ lgCurSize := by
  have := Nat.two_pow_pos lgCurSize
  unfold HashTable.getCapacity
  split <;> omega

/-- What the table of an update sketch or a union keeps. -/
structure Grows (table : HashTable) : Prop where
  slots : Slots table.lgCurSize table.entries
  sized : table.lgCurSize ≤ table.lgNomSize + 1
  growing : table.lgCurSize ≤ table.lgNomSize → table.rf ≠ .X1
  counted : table.stored.card ≤ table.numEntries
  fits : table.numEntries ≤ HashTable.getCapacity table.lgCurSize table.lgNomSize
  below : ∀ key ∈ table.stored, key < table.theta

theorem Grows.opened {table : HashTable} (grows : Grows table) :
    Grows { table with isEmpty := false } :=
  ⟨grows.slots, grows.sized, grows.growing, grows.counted, grows.fits, grows.below⟩

theorem Grows.numEntries_lt {table : HashTable} (grows : Grows table) :
    table.numEntries < 2 ^ (table.lgNomSize + 1) :=
  calc table.numEntries ≤ HashTable.getCapacity table.lgCurSize table.lgNomSize := grows.fits
    _ < 2 ^ table.lgCurSize := getCapacity_lt _ _
    _ ≤ 2 ^ (table.lgNomSize + 1) := Nat.pow_le_pow_right Nat.two_pos grows.sized

/-- How a table changes when a set of hashes below its `theta` is admitted. -/
structure Absorbs (table : HashTable) (added : Finset ℕ) (next : HashTable) : Prop where
  grows : Grows next
  config : { next with
    entries := table.entries, lgCurSize := table.lgCurSize
    numEntries := table.numEntries, theta := table.theta } = table
  lower : next.theta ≤ table.theta
  stored : next.stored = sample ((table.stored ∪ added).erase 0) next.theta
  exact : 0 ∉ added → table.stored.card = table.numEntries →
    next.stored.card = next.numEntries ∧
      (next.theta = table.theta ∨
        next.theta ∈ table.stored ∪ added ∧ 2 ^ table.lgNomSize ≤ next.stored.card)

namespace Absorbs

variable {table next final : HashTable} {added more : Finset ℕ}

theorem lgNomSize (step : Absorbs table added next) : next.lgNomSize = table.lgNomSize := by
  have same := congrArg HashTable.lgNomSize step.config
  exact same

theorem seed (step : Absorbs table added next) : next.seed = table.seed := by
  have same := congrArg HashTable.seed step.config
  exact same

theorem isEmpty (step : Absorbs table added next) : next.isEmpty = table.isEmpty := by
  have same := congrArg HashTable.isEmpty step.config
  exact same

theorem refl (grows : Grows table) (known : ∀ x ∈ added, x < table.theta → x ∈ table.stored) :
    Absorbs table added table := by
  refine ⟨grows, rfl, le_rfl, ?_, fun _ exact_count => ⟨exact_count, Or.inl rfl⟩⟩
  ext x
  simp only [mem_sample, Finset.mem_erase, Finset.mem_union]
  constructor
  · exact fun member => ⟨⟨(mem_keys.mp member).1, Or.inl member⟩, grows.below x member⟩
  · rintro ⟨⟨_, member | member⟩, under⟩
    · exact member
    · exact known x member under

theorem trans (first : Absorbs table added next) (second : Absorbs next more final) :
    Absorbs table (added ∪ more) final := by
  refine ⟨second.grows, ?_, second.lower.trans first.lower, ?_, fun proper exact_count => ?_⟩
  · have config := first.config
    rw [← second.config] at config
    exact config
  · rw [second.stored, first.stored]
    ext x
    simp only [mem_sample, Finset.mem_erase, Finset.mem_union]
    have := second.lower
    constructor
    · rintro ⟨⟨proper, ⟨⟨_, member⟩, _⟩ | member⟩, below⟩ <;> tauto
    · rintro ⟨⟨proper, member⟩, below⟩
      have : x < next.theta := by omega
      tauto
  · rw [Finset.notMem_union] at proper
    obtain ⟨exact_next, firstBound⟩ := first.exact proper.1 exact_count
    obtain ⟨exact_final, secondBound⟩ := second.exact proper.2 exact_next
    refine ⟨exact_final, ?_⟩
    rcases secondBound with same | ⟨member, full⟩
    · rw [same]
      refine firstBound.imp_right ?_
      rintro ⟨member, full⟩
      refine ⟨?_, full.trans ?_⟩
      · exact Finset.mem_of_subset (Finset.union_subset_union_right Finset.subset_union_left) member
      · -- Without a new cut every key of the middle table is kept.
        refine Finset.card_le_card fun x inside => ?_
        rw [second.stored, same, mem_sample, Finset.mem_erase]
        exact ⟨⟨(mem_keys.mp inside).1, Finset.mem_union_left _ inside⟩, first.grows.below x inside⟩
    · refine Or.inr ⟨?_, first.lgNomSize ▸ full⟩
      rcases Finset.mem_union.mp member with member | member
      · rw [first.stored, mem_sample, Finset.mem_erase] at member
        exact Finset.mem_of_subset (Finset.union_subset_union_right Finset.subset_union_left)
          member.1.2
      · exact Finset.mem_union_right _ (Finset.mem_union_right _ member)

end Absorbs

/-- A new key is stored, and the table grows or is cut when it is full. -/
theorem Grows.insert {table : HashTable} (grows : Grows table) {slot hash : ℕ}
    (fresh : hash ∉ table.stored) (under : hash < table.theta)
    (placed : Slots table.lgCurSize (table.entries.set slot hash))
    (written : keys 0 (table.entries.set slot hash) = ({hash} ∪ table.stored).erase 0) :
    ∃ next, table.insert slot hash = .ok next ∧ Absorbs table {hash} next := by
  have counted : (keys 0 (table.entries.set slot hash)).card ≤ table.numEntries + 1 := by
    have size := Finset.card_union_le {hash} table.stored
    have := Finset.card_erase_le (s := {hash} ∪ table.stored) (a := 0)
    have := grows.counted
    rw [written]
    rw [Finset.card_singleton] at size
    omega
  have exact_count : 0 ∉ ({hash} : Finset ℕ) → table.stored.card = table.numEntries →
      (keys 0 (table.entries.set slot hash)).card = table.numEntries + 1 := by
    intro proper count
    rw [written, Finset.erase_eq_of_notMem, Finset.card_union_of_disjoint, count,
      Finset.card_singleton, Nat.add_comm]
    · simpa using fresh
    · rw [Finset.notMem_union]
      exact ⟨proper, by simp [HashTable.stored]⟩
  have below : ∀ key ∈ keys 0 (table.entries.set slot hash), key < table.theta := by
    intro key member
    rw [written, Finset.mem_erase, Finset.mem_union, Finset.mem_singleton] at member
    rcases member.2 with rfl | member
    · exact under
    · exact grows.below key member
  have kept : keys 0 (table.entries.set slot hash) =
      sample ((table.stored ∪ {hash}).erase 0) table.theta := by
    rw [Finset.union_comm, ← written]
    ext key
    rw [mem_sample]
    exact ⟨fun member => ⟨member, below key member⟩, fun member => member.1⟩
  have capacity := getCapacity_lt table.lgCurSize table.lgNomSize
  have fits := grows.fits
  simp only [HashTable.insert]
  split_ifs with full small
  · -- The block of slots doubles at least.
    have factor : 1 ≤ table.rf.toNat := by
      have := grows.growing small
      cases same : table.rf <;> simp_all [ResizeFactor.toNat]
    obtain ⟨lgNewSize, size⟩ : ∃ lgNewSize,
        lgNewSize = min (table.lgCurSize + table.rf.toNat) (table.lgNomSize + 1) := ⟨_, rfl⟩
    have larger : 2 * 2 ^ table.lgCurSize ≤ 2 ^ lgNewSize := by
      rw [← Nat.pow_succ']
      exact Nat.pow_le_pow_right (by omega) (by omega)
    obtain ⟨entries, run, slots, same⟩ := @resize_spec { table with
      entries := table.entries.set slot hash, numEntries := table.numEntries + 1 } _ size
      (by change (keys 0 (table.entries.set slot hash)).card < 2 ^ lgNewSize; omega)
    refine ⟨_, run, ⟨slots, ?_, grows.growing ∘ fun _ => small, ?_, ?_, ?_⟩, rfl, le_rfl, ?_, ?_⟩
    · change lgNewSize ≤ table.lgNomSize + 1
      omega
    · change (keys 0 entries).card ≤ table.numEntries + 1
      rwa [same]
    · change table.numEntries + 1 ≤ HashTable.getCapacity lgNewSize table.lgNomSize
      rw [HashTable.getCapacity, if_pos small] at fits full
      unfold HashTable.getCapacity
      split <;> omega
    · change ∀ key ∈ keys 0 entries, key < table.theta
      rwa [same]
    · exact same.trans kept
    · intro proper count
      exact ⟨(congrArg Finset.card same).trans (exact_count proper count), Or.inl rfl⟩
  · -- The keys are cut at the nominal size.
    have top : table.lgCurSize = table.lgNomSize + 1 := by
      have := grows.sized
      omega
    have nominal := Nat.two_pow_pos table.lgNomSize
    have double : 2 ^ table.lgCurSize = 2 * 2 ^ table.lgNomSize := by rw [top, Nat.pow_succ']
    rw [HashTable.getCapacity, if_neg small] at fits full capacity
    obtain ⟨theta, entries, run, slots, bound, same, size, cut, _⟩ := @rebuild_spec { table with
      entries := table.entries.set slot hash, numEntries := table.numEntries + 1 } placed counted
      (by change table.numEntries + 1 ≤ 2 ^ table.lgCurSize; omega)
      (by change 2 ^ table.lgNomSize < table.numEntries + 1; omega)
    have lower : theta ≤ table.theta := by
      rcases Finset.mem_insert.mp bound with zero | member
      · omega
      · exact (below theta member).le
    refine ⟨_, run, ⟨slots, grows.sized, grows.growing, size, ?_, ?_⟩, rfl, lower, ?_, ?_⟩
    · change 2 ^ table.lgNomSize ≤ HashTable.getCapacity table.lgCurSize table.lgNomSize
      rw [HashTable.getCapacity, if_neg small]
      omega
    · change ∀ key ∈ keys 0 entries, key < theta
      intro key member
      rw [same] at member
      exact (mem_sample.mp member).2
    · change keys 0 entries = sample ((table.stored ∪ {hash}).erase 0) theta
      rw [same, kept, sample_sample, min_eq_right lower]
    · intro proper count
      obtain ⟨member, size⟩ := cut (exact_count proper count)
      refine ⟨size, Or.inr ⟨?_, size.ge⟩⟩
      have inside := (mem_sample.mp (kept ▸ member)).1
      exact Finset.mem_of_mem_erase inside
  · refine ⟨_, rfl, ⟨placed, grows.sized, grows.growing, counted, by simpa using full, below⟩,
      rfl, le_rfl, kept, fun proper count => ⟨exact_count proper count, Or.inl rfl⟩⟩

theorem Grows.findOrInsert {table : HashTable} (grows : Grows table) {hash : ℕ}
    (under : hash < table.theta) :
    ∃ next, table.findOrInsert hash = .ok next ∧ Absorbs table {hash} next := by
  have room : table.stored.card < 2 ^ table.lgCurSize :=
    (grows.counted.trans grows.fits).trans_lt (getCapacity_lt _ _)
  obtain ⟨slot, found, placed, written⟩ := grows.slots.find room hash
  change table.find hash = .ok (slot, decide (hash ∈ table.stored)) at found
  by_cases known : hash ∈ table.stored
  · refine ⟨table, ?_, Absorbs.refl grows fun x member _ => Finset.mem_singleton.mp member ▸ known⟩
    simp only [HashTable.findOrInsert, found, Run.ok_bind]
    rw [if_pos (decide_eq_true known)]
    rfl
  · obtain ⟨next, run, step⟩ := grows.insert known under placed written
    refine ⟨next, ?_, step⟩
    simp only [HashTable.findOrInsert, found, Run.ok_bind]
    rw [if_neg (ne_true_of_eq_false (decide_eq_false known))]
    exact run

theorem stored_new (lgCurSize lgNomSize : ℕ) (rf : ResizeFactor) (p : ℚ) (theta : ℕ)
    (seed : UInt64) (isEmpty : Bool) :
    (HashTable.new lgCurSize lgNomSize rf p theta seed isEmpty).stored = ∅ := by
  unfold HashTable.stored HashTable.new
  dsimp only
  split
  · exact keys_replicate _
  · simp [keys]

theorem ThetaBaseBuilder.table_grows (builder : ThetaBaseBuilder) (large : minLgK ≤ builder.lgK) :
    Grows builder.table := by
  have none_stored : builder.table.stored = ∅ := stored_new ..
  have start : builder.startingLgSize ≤ builder.lgK + 1 := by
    unfold ThetaBaseBuilder.startingLgSize startingSubMultiple
    have := Nat.mod_le (builder.lgK + 1 - minLgK) builder.rf.toNat
    split_ifs <;> omega
  have positive : 0 < builder.startingLgSize := by
    unfold ThetaBaseBuilder.startingLgSize startingSubMultiple minLgK
    split_ifs <;> omega
  refine ⟨?_, start, ?_, ?_, Nat.zero_le _, ?_⟩
  · simp only [ThetaBaseBuilder.table, HashTable.new, if_pos positive]
    exact slots_replicate _
  · -- A table that never grows is built at its full size.
    intro small same
    change builder.startingLgSize ≤ builder.lgK at small
    change builder.rf = .X1 at same
    unfold ThetaBaseBuilder.startingLgSize startingSubMultiple at small
    rw [same, if_neg (by omega)] at small
    simp only [ResizeFactor.toNat, if_true] at small
    omega
  · rw [none_stored]
    exact Nat.zero_le _
  · rw [none_stored]
    simp

theorem Grows.trim {table : HashTable} (grows : Grows table) :
    ∃ next, table.trim = .ok next ∧ Absorbs table ∅ next := by
  have kept : table.stored = sample ((table.stored ∪ ∅).erase 0) table.theta := by
    ext key
    rw [Finset.union_empty, mem_sample, Finset.mem_erase]
    exact ⟨fun member => ⟨⟨(mem_keys.mp member).1, member⟩, grows.below key member⟩,
      fun member => member.1.2⟩
  unfold HashTable.trim
  split_ifs with many
  · have fits := grows.fits
    have capacity := getCapacity_lt table.lgCurSize table.lgNomSize
    obtain ⟨theta, entries, run, slots, bound, same, size, cut, _⟩ :=
      rebuild_spec grows.slots grows.counted (by omega) many
    -- More keys than the nominal size fit into the largest block only.
    have top : ¬ table.lgCurSize ≤ table.lgNomSize := by
      intro small
      have le : 2 ^ table.lgCurSize ≤ 2 ^ table.lgNomSize := Nat.pow_le_pow_right (by omega) small
      omega
    have lower : theta ≤ table.theta := by
      rcases Finset.mem_insert.mp bound with zero | member
      · omega
      · exact (grows.below theta member).le
    refine ⟨_, run, ⟨slots, grows.sized, grows.growing, size, ?_, ?_⟩, rfl, lower, ?_, ?_⟩
    · change 2 ^ table.lgNomSize ≤ HashTable.getCapacity table.lgCurSize table.lgNomSize
      omega
    · change ∀ key ∈ keys 0 entries, key < theta
      intro key member
      rw [same] at member
      exact (mem_sample.mp member).2
    · change keys 0 entries = sample ((table.stored ∪ ∅).erase 0) theta
      have sub := congrArg (sample · theta) kept
      rw [sample_sample, min_eq_right lower] at sub
      exact same.trans sub
    · intro _ count
      obtain ⟨member, size⟩ := cut count
      exact ⟨size, .inr ⟨Finset.mem_union_left _ member, size.ge⟩⟩
  · exact ⟨table, rfl, grows, rfl, le_rfl, kept, fun _ count => ⟨count, .inl rfl⟩⟩

/-- Only a table of the largest size that is over its capacity lowers `theta`. -/
theorem insert_theta {table next : HashTable} {slot hash : ℕ} (run : table.insert slot hash = .ok next) :
    next.theta = table.theta ∨ table.lgNomSize < table.lgCurSize ∧
      HashTable.getCapacity table.lgCurSize table.lgNomSize < table.numEntries + 1 := by
  simp only [HashTable.insert] at run
  split_ifs at run with full small
  · obtain ⟨entries, _, same⟩ := Run.bind_eq_ok.mp run
    cases same
    exact .inl rfl
  · exact .inr ⟨not_le.mp small, full⟩
  · cases run
    exact .inl rfl

end ThetaSketch
