import Mathlib.Data.Finset.Card
import Mathlib.Data.Finset.Lattice.Basic
import Mathlib.Data.List.Nodup
import Mathlib.Data.Nat.Find

/-! Open addressing over a list of slots.

A slot holds a key or the designated empty value. Every key has its own probe
sequence of slot positions. A key is well placed when the slots probed before
its own are all occupied by other keys, so that a search cannot stop early.
-/

set_option autoImplicit false

namespace OpenAddressing

variable {α : Type*}

/-- The slots probed for `key` in the first `steps` steps all hold other keys. -/
def Path (empty : α) (probe : α → ℕ → ℕ) (slots : List α) (key : α) (steps : ℕ) : Prop :=
  ∀ step < steps, ∃ other, slots[probe key step]? = some other ∧ other ≠ empty ∧ other ≠ key

/-- A search for `key` stops after `steps` steps: at the key or at an empty slot. -/
def Landing (empty : α) (probe : α → ℕ → ℕ) (slots : List α) (key : α) (steps : ℕ) : Prop :=
  Path empty probe slots key steps ∧
    (slots[probe key steps]? = some empty ∨ slots[probe key steps]? = some key)

def WellPlaced (empty : α) (probe : α → ℕ → ℕ) (slots : List α) : Prop :=
  ∀ position key, slots[position]? = some key → key ≠ empty →
    ∃ steps, probe key steps = position ∧ Path empty probe slots key steps

/-- Every position of the table occurs in the probe sequence of every key. -/
def Covers (probe : α → ℕ → ℕ) (size : ℕ) : Prop :=
  ∀ key, ∀ position < size, ∃ steps < size, probe key steps = position

variable {empty : α} {probe : α → ℕ → ℕ} {slots : List α} {key : α} {steps : ℕ}

theorem exists_landing (covers : Covers probe slots.length)
    (within : ∀ step, probe key step < slots.length) (room : empty ∈ slots) :
    ∃ steps < slots.length, Landing empty probe slots key steps := by
  classical
  obtain ⟨position, bound, free⟩ := List.mem_iff_getElem.mp room
  obtain ⟨last, lastBound, lands⟩ := covers key position bound
  have stops : ∃ step, slots[probe key step]? = some empty ∨ slots[probe key step]? = some key :=
    ⟨last, Or.inl (by rw [lands, List.getElem?_eq_getElem bound, free])⟩
  refine ⟨Nat.find stops, lt_of_le_of_lt (Nat.find_min' stops ?_) lastBound, ?_, Nat.find_spec stops⟩
  · exact Or.inl (by rw [lands, List.getElem?_eq_getElem bound, free])
  · intro step earlier
    have goesOn := Nat.find_min stops earlier
    refine ⟨_, List.getElem?_eq_getElem (within step), ?_, ?_⟩
    · exact fun same => goesOn (Or.inl (by rw [List.getElem?_eq_getElem (within step), same]))
    · exact fun same => goesOn (Or.inr (by rw [List.getElem?_eq_getElem (within step), same]))

theorem WellPlaced.absent (placed : WellPlaced empty probe slots)
    (path : Path empty probe slots key steps) (free : slots[probe key steps]? = some empty)
    (proper : key ≠ empty) : key ∉ slots := by
  intro member
  obtain ⟨position, bound, holds⟩ := List.mem_iff_getElem.mp member
  have found : slots[position]? = some key := by rw [List.getElem?_eq_getElem bound, holds]
  obtain ⟨own, reaches, ownPath⟩ := placed position key found proper
  rcases lt_trichotomy own steps with earlier | same | later
  · obtain ⟨other, held, _, different⟩ := path own earlier
    rw [reaches, found] at held
    exact different (Option.some.inj held).symm
  · rw [← same, reaches, found] at free
    exact proper (Option.some.inj free)
  · obtain ⟨other, held, occupied, _⟩ := ownPath steps later
    rw [free] at held
    exact occupied (Option.some.inj held).symm

theorem WellPlaced.position_unique (placed : WellPlaced empty probe slots) {first second : ℕ}
    (left : slots[first]? = some key) (right : slots[second]? = some key) (proper : key ≠ empty) :
    first = second := by
  obtain ⟨firstSteps, firstReach, firstPath⟩ := placed first key left proper
  obtain ⟨secondSteps, secondReach, secondPath⟩ := placed second key right proper
  rcases lt_trichotomy firstSteps secondSteps with earlier | same | later
  · obtain ⟨other, held, _, different⟩ := secondPath firstSteps earlier
    rw [firstReach, left] at held
    exact absurd (Option.some.inj held).symm different
  · rw [← firstReach, ← secondReach, same]
  · obtain ⟨other, held, _, different⟩ := firstPath secondSteps later
    rw [secondReach, right] at held
    exact absurd (Option.some.inj held).symm different

/-- Filling an empty slot leaves every path intact: a path crosses occupied slots only. -/
theorem Path.set (path : Path empty probe slots key steps) {position : ℕ} {added : α}
    (free : slots[position]? = some empty) :
    Path empty probe (slots.set position added) key steps := by
  intro step earlier
  obtain ⟨other, held, occupied, different⟩ := path step earlier
  have elsewhere : position ≠ probe key step := by
    rintro rfl
    rw [held] at free
    exact occupied (Option.some.inj free)
  exact ⟨other, by rw [List.getElem?_set_ne elsewhere, held], occupied, different⟩

theorem WellPlaced.set (placed : WellPlaced empty probe slots)
    (path : Path empty probe slots key steps) (free : slots[probe key steps]? = some empty) :
    WellPlaced empty probe (slots.set (probe key steps) key) := by
  intro position held found proper
  by_cases same : probe key steps = position
  · subst same
    have bound := (List.getElem?_eq_some_iff.mp free).1
    rw [List.getElem?_set_self bound] at found
    cases found
    exact ⟨steps, rfl, path.set free⟩
  · rw [List.getElem?_set_ne same] at found
    obtain ⟨own, reaches, ownPath⟩ := placed position held found proper
    exact ⟨own, reaches, ownPath.set free⟩

theorem wellPlaced_replicate (size : ℕ) : WellPlaced empty probe (List.replicate size empty) := by
  intro position held found proper
  exact absurd (List.eq_of_mem_replicate (List.mem_of_getElem? found)) proper

variable [DecidableEq α]

def keys (empty : α) (slots : List α) : Finset α := slots.toFinset.erase empty

@[simp] theorem mem_keys : key ∈ keys empty slots ↔ key ≠ empty ∧ key ∈ slots := by
  simp [keys]

theorem keys_replicate (size : ℕ) : keys empty (List.replicate size empty) = ∅ := by
  ext x
  simp only [mem_keys, List.mem_replicate, Finset.notMem_empty, iff_false]
  rintro ⟨proper, _, same⟩
  exact proper same

theorem keys_set {position : ℕ} (free : slots[position]? = some empty) (proper : key ≠ empty) :
    keys empty (slots.set position key) = insert key (keys empty slots) := by
  ext x
  have bound := (List.getElem?_eq_some_iff.mp free).1
  simp only [mem_keys, Finset.mem_insert]
  constructor
  · rintro ⟨occupied, member⟩
    rcases List.mem_or_eq_of_mem_set member with member | rfl
    · exact Or.inr ⟨occupied, member⟩
    · exact Or.inl rfl
  · rintro (rfl | ⟨occupied, member⟩)
    · exact ⟨proper, List.mem_set bound _⟩
    · refine ⟨occupied, ?_⟩
      obtain ⟨other, held⟩ := List.mem_iff_getElem?.mp member
      have elsewhere : position ≠ other := by
        rintro rfl
        rw [free] at held
        exact occupied (Option.some.inj held).symm
      exact List.mem_iff_getElem?.mpr ⟨other, by rw [List.getElem?_set_ne elsewhere, held]⟩

theorem WellPlaced.nodup (placed : WellPlaced empty probe slots) :
    (slots.filter (· ≠ empty)).Nodup := by
  rw [List.Nodup, List.pairwise_filter, List.pairwise_iff_getElem]
  intro first second firstBound secondBound earlier occupied _ same
  have proper : slots[first] ≠ empty := by simpa using occupied
  exact absurd (placed.position_unique (List.getElem?_eq_getElem firstBound)
    (by rw [List.getElem?_eq_getElem secondBound, same]) proper) earlier.ne

theorem toFinset_filter : (slots.filter (· ≠ empty)).toFinset = keys empty slots := by
  ext x
  simp [and_comm]

theorem WellPlaced.card_keys (placed : WellPlaced empty probe slots) :
    (keys empty slots).card = (slots.filter (· ≠ empty)).length := by
  rw [← toFinset_filter, List.toFinset_card_of_nodup placed.nodup]

theorem WellPlaced.exists_empty (placed : WellPlaced empty probe slots)
    (room : (keys empty slots).card < slots.length) : empty ∈ slots := by
  by_contra full
  have all : slots.filter (· ≠ empty) = slots := by
    rw [List.filter_eq_self]
    intro x member
    have proper : x ≠ empty := fun same => full (same ▸ member)
    simpa using proper
  rw [placed.card_keys, all] at room
  exact lt_irrefl _ room

end OpenAddressing
