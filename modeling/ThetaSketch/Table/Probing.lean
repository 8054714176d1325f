import Mathlib.Data.Nat.Prime.Basic
import Mathlib.Data.Int.ModEq
import ThetaSketch.Library.OpenAddressing
import ThetaSketch.Table.HashTable
import Mathlib.Tactic.SplitIfs

/-! The probe sequence of `find`, and what a search and a placement do.

The stride is odd and the table size a power of two, so the walk of every key
visits every slot before it is back where it began.
-/

set_option autoImplicit false

namespace ThetaSketch

open OpenAddressing

/-- The slot that `find` looks at after `step` steps. -/
def probe (lgSize key step : ℕ) : ℕ :=
  (key + step * HashTable.getStride key lgSize) % 2 ^ lgSize

theorem probe_lt (lgSize key step : ℕ) : probe lgSize key step < 2 ^ lgSize :=
  Nat.mod_lt _ (Nat.two_pow_pos _)

theorem getStride_coprime (key lgSize : ℕ) :
    Nat.Coprime (2 ^ lgSize) (HashTable.getStride key lgSize) := by
  apply Nat.Coprime.pow_left
  rw [HashTable.getStride, Nat.coprime_two_left]
  exact odd_two_mul_add_one _

theorem probe_injective {lgSize key first second : ℕ} (left : first < 2 ^ lgSize)
    (right : second < 2 ^ lgSize) (same : probe lgSize key first = probe lgSize key second) :
    first = second := by
  have walks : first * HashTable.getStride key lgSize ≡ second * HashTable.getStride key lgSize
      [MOD 2 ^ lgSize] := Nat.ModEq.add_left_cancel' key same
  have steps : first ≡ second [MOD 2 ^ lgSize] :=
    Nat.ModEq.cancel_right_of_coprime (getStride_coprime key lgSize) walks
  rwa [Nat.ModEq, Nat.mod_eq_of_lt left, Nat.mod_eq_of_lt right] at steps

theorem probe_covers (lgSize : ℕ) : Covers (probe lgSize) (2 ^ lgSize) := by
  intro key position bound
  have onto := Finset.surjOn_of_injOn_of_card_le (s := Finset.range (2 ^ lgSize))
    (t := Finset.range (2 ^ lgSize)) (probe lgSize key)
    (fun step _ => Finset.mem_coe.mpr (Finset.mem_range.mpr (probe_lt lgSize key step)))
    (fun first left second right same => probe_injective (Finset.mem_range.mp left)
      (Finset.mem_range.mp right) same) le_rfl
  obtain ⟨step, member, lands⟩ := onto (Finset.mem_coe.mpr (Finset.mem_range.mpr bound))
  exact ⟨step, Finset.mem_range.mp member, lands⟩

theorem probe_zero (lgSize key : ℕ) : key &&& (2 ^ lgSize - 1) = probe lgSize key 0 := by
  rw [Nat.and_two_pow_sub_one_eq_mod, probe, Nat.zero_mul, Nat.add_zero]

theorem probe_succ (lgSize key step : ℕ) :
    (probe lgSize key step + HashTable.getStride key lgSize) &&& (2 ^ lgSize - 1) =
      probe lgSize key (step + 1) := by
  rw [Nat.and_two_pow_sub_one_eq_mod, probe, probe, Nat.mod_add_mod, Nat.succ_mul, Nat.add_assoc]

theorem findLoop_landing {lgSize key steps : ℕ} {entries : List ℕ}
    (landing : Landing 0 (probe lgSize) entries key steps) (bound : steps < 2 ^ lgSize)
    {step : ℕ} (before : step ≤ steps) {fuel : ℕ} (enough : steps - step < fuel) :
    HashTable.findLoop entries key (2 ^ lgSize - 1) (HashTable.getStride key lgSize)
        (probe lgSize key 0) fuel (probe lgSize key step) =
      .ok (probe lgSize key steps,
        decide (key ≠ 0 ∧ entries[probe lgSize key steps]? = some key)) := by
  induction fuel generalizing step with
  | zero => omega
  | succ fuel ih =>
    rcases before.eq_or_lt with rfl | before
    · rcases landing.2 with free | found
      · have unequal : ¬ (key ≠ 0 ∧ (some 0 : Option ℕ) = some key) := by
          rintro ⟨proper, same⟩
          exact proper (Option.some.inj same).symm
        simp only [HashTable.findLoop, free, if_true, decide_eq_false unequal]
      · rcases eq_or_ne key 0 with rfl | proper
        · simp [HashTable.findLoop, found]
        · simp [HashTable.findLoop, found, proper]
    · obtain ⟨other, held, occupied, different⟩ := landing.1 step before
      have onward : probe lgSize key (step + 1) ≠ probe lgSize key 0 := by
        intro back
        have := probe_injective (by omega) (Nat.two_pow_pos lgSize) back
        omega
      simp only [HashTable.findLoop, held, if_neg occupied, if_neg different, probe_succ,
        if_neg onward]
      exact ih before (by omega)

/-- What a block of slots owes to `find`: its size, and that keys are where
their probe sequences lead. -/
structure Slots (lgSize : ℕ) (entries : List ℕ) : Prop where
  length : entries.length = 2 ^ lgSize
  placed : WellPlaced 0 (probe lgSize) entries

theorem slots_replicate (lgSize : ℕ) : Slots lgSize (List.replicate (2 ^ lgSize) 0) :=
  ⟨List.length_replicate, wellPlaced_replicate _⟩

theorem Slots.landing {lgSize : ℕ} {entries : List ℕ} (slots : Slots lgSize entries)
    (room : (keys 0 entries).card < 2 ^ lgSize) (key : ℕ) :
    ∃ steps, Landing 0 (probe lgSize) entries key steps ∧ HashTable.findIn entries lgSize key =
      .ok (probe lgSize key steps, decide (key ∈ keys 0 entries)) := by
  have free := slots.placed.exists_empty (slots.length ▸ room)
  obtain ⟨steps, bound, landing⟩ := @exists_landing _ _ _ _ key (slots.length ▸ probe_covers lgSize)
    (fun step => slots.length ▸ probe_lt lgSize key step) free
  rw [slots.length] at bound
  refine ⟨steps, landing, ?_⟩
  simp only [HashTable.findIn, probe_zero]
  rw [findLoop_landing landing bound (Nat.zero_le _) (by omega)]
  congr 2
  rw [decide_eq_decide, mem_keys]
  refine and_congr_right fun proper => ⟨fun held => List.mem_of_getElem? held, fun stored => ?_⟩
  rcases landing.2 with empty | held
  · exact absurd stored (slots.placed.absent landing.1 empty proper)
  · exact held

theorem Slots.find_slot {lgSize : ℕ} {entries : List ℕ} (slots : Slots lgSize entries)
    (room : (keys 0 entries).card < 2 ^ lgSize) {key : ℕ} (proper : key ≠ 0) :
    ∃ slot, HashTable.findIn entries lgSize key = .ok (slot, decide (key ∈ keys 0 entries)) ∧
      entries[slot]? = some (if key ∈ keys 0 entries then key else 0) := by
  obtain ⟨steps, landing, run⟩ := slots.landing room key
  refine ⟨_, run, ?_⟩
  split_ifs with known
  · refine landing.2.resolve_left fun empty => ?_
    exact slots.placed.absent landing.1 empty proper (mem_keys.mp known).2
  · refine landing.2.resolve_right fun held => known ?_
    exact mem_keys.mpr ⟨proper, List.mem_of_getElem? held⟩

/-- `find` answers whether the key is stored, and the slot it returns is the one
to write: writing a new key keeps the slots in order, and writing a stored key
or the reserved zero changes nothing. -/
theorem Slots.find {lgSize : ℕ} {entries : List ℕ} (slots : Slots lgSize entries)
    (room : (keys 0 entries).card < 2 ^ lgSize) (key : ℕ) :
    ∃ slot, HashTable.findIn entries lgSize key = .ok (slot, decide (key ∈ keys 0 entries)) ∧
      Slots lgSize (entries.set slot key) ∧
      keys 0 (entries.set slot key) = (insert key (keys 0 entries)).erase 0 := by
  obtain ⟨steps, landing, run⟩ := slots.landing room key
  have unchanged : entries[probe lgSize key steps]? = some key →
      entries.set (probe lgSize key steps) key = entries := by
    intro held
    obtain ⟨within, same⟩ := List.getElem?_eq_some_iff.mp held
    have written := List.set_getElem_self within
    rwa [same] at written
  refine ⟨probe lgSize key steps, run, ?_⟩
  rcases landing.2 with empty | held
  · by_cases proper : key = 0
    · subst proper
      rw [unchanged empty]
      exact ⟨slots, by simp [keys]⟩
    · refine ⟨⟨by rw [List.length_set, slots.length], slots.placed.set landing.1 empty⟩, ?_⟩
      rw [keys_set empty proper, Finset.erase_eq_of_notMem]
      simp [Ne.symm proper]
  · rw [unchanged held]
    refine ⟨slots, ?_⟩
    ext x
    simp only [mem_keys, Finset.mem_erase, Finset.mem_insert]
    have stored : key ∈ entries := List.mem_of_getElem? held
    constructor
    · rintro ⟨proper, member⟩
      exact ⟨proper, Or.inr ⟨proper, member⟩⟩
    · rintro ⟨proper, rfl | ⟨_, member⟩⟩
      · exact ⟨proper, stored⟩
      · exact ⟨proper, member⟩

theorem Slots.place {lgSize : ℕ} {entries : List ℕ} (slots : Slots lgSize entries)
    (room : (keys 0 entries).card < 2 ^ lgSize) (key : ℕ) :
    ∃ next, HashTable.place lgSize entries key = .ok next ∧ Slots lgSize next ∧
      keys 0 next = (insert key (keys 0 entries)).erase 0 := by
  obtain ⟨slot, run, next, stored⟩ := slots.find room key
  exact ⟨_, by simp only [HashTable.place, run, Run.ok_bind]; rfl, next, stored⟩

theorem Slots.placeAll {lgSize : ℕ} {entries : List ℕ} (slots : Slots lgSize entries)
    (added : List ℕ) (room : (keys 0 entries ∪ added.toFinset).card < 2 ^ lgSize) :
    ∃ next, added.foldlM (HashTable.place lgSize) entries = .ok next ∧ Slots lgSize next ∧
      keys 0 next = (keys 0 entries ∪ added.toFinset).erase 0 := by
  induction added generalizing entries with
  | nil => exact ⟨entries, rfl, slots, by simp [keys]⟩
  | cons key rest ih =>
    have start : (keys 0 entries).card < 2 ^ lgSize :=
      lt_of_le_of_lt (Finset.card_le_card Finset.subset_union_left) room
    obtain ⟨next, run, nextSlots, stored⟩ := slots.place start key
    have sub : keys 0 next ∪ rest.toFinset ⊆ keys 0 entries ∪ (key :: rest).toFinset := by
      intro x
      simp only [stored, Finset.mem_union, Finset.mem_erase, Finset.mem_insert,
        List.toFinset_cons]
      tauto
    obtain ⟨final, rest, finalSlots, finalKeys⟩ :=
      ih nextSlots (lt_of_le_of_lt (Finset.card_le_card sub) room)
    refine ⟨final, by rw [List.foldlM_cons, run, Run.ok_bind, rest], finalSlots, ?_⟩
    rw [finalKeys, stored]
    ext x
    simp only [Finset.mem_union, Finset.mem_erase, Finset.mem_insert, List.toFinset_cons]
    tauto

end ThetaSketch
