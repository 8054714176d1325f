import ThetaSketch.Table.Growth

/-! Update sketches and compact sketches.

A set operation reads any sketch through the same few members; `SketchView`
collects them. The entries of a view are reads that may fail, because a wrapped
sketch decodes its bytes while it is iterated.
-/

set_option autoImplicit false

namespace ThetaSketch

open OpenAddressing Threshold

/-- The members of a sketch that set operations and conversions call. -/
structure SketchView where
  isEmpty : Bool
  isOrdered : Bool
  seedHash : ℕ
  theta : ℕ
  numRetained : ℕ
  entries : List (Run ℕ)

/-- `std::sort` over distinct keys. -/
def sort (entries : List ℕ) : List ℕ := entries.insertionSort (· ≤ ·)

structure CompactSketch where
  isEmpty : Bool
  isOrdered : Bool
  seedHash : ℕ
  theta : ℕ
  entries : List ℕ
  deriving DecidableEq, Repr

namespace CompactSketch

def new (isEmpty isOrdered : Bool) (seedHash theta : ℕ) (entries : List ℕ) : CompactSketch where
  isEmpty := isEmpty
  isOrdered := isOrdered || decide (entries.length ≤ 1)
  seedHash := seedHash
  theta := theta
  entries := entries

def ofSketch (other : SketchView) (ordered : Bool) : Run CompactSketch := do
  let entries ← if other.isEmpty then pure [] else do
    let entries ← other.entries.mapM id
    pure (if ordered && !other.isOrdered then sort entries else entries)
  return {
    isEmpty := other.isEmpty
    isOrdered := other.isOrdered || ordered
    seedHash := other.seedHash
    theta := other.theta
    entries := entries }

def getNumRetained (sketch : CompactSketch) : ℕ := sketch.entries.length

def isEstimationMode (sketch : CompactSketch) : Bool :=
  decide (sketch.theta < maxTheta) && !sketch.isEmpty

/-- The iterator skips zeros, as that of an update sketch does. -/
def view (sketch : CompactSketch) : SketchView where
  isEmpty := sketch.isEmpty
  isOrdered := sketch.isOrdered
  seedHash := sketch.seedHash
  theta := sketch.theta
  numRetained := sketch.getNumRetained
  entries := (keyNotZero sketch.entries).map .ok

end CompactSketch

structure UpdateSketch where
  table : HashTable
  deriving Repr

namespace UpdateSketch

def new (builder : ThetaBaseBuilder) : UpdateSketch := ⟨builder.table⟩

def isEmpty (sketch : UpdateSketch) : Bool := sketch.table.isEmpty

def isOrdered (sketch : UpdateSketch) : Bool := !decide (1 < sketch.table.numEntries)

def getTheta64 (sketch : UpdateSketch) : ℕ :=
  if sketch.isEmpty then maxTheta else sketch.table.theta

def getNumRetained (sketch : UpdateSketch) : ℕ := sketch.table.numEntries

def getSeedHash (sketch : UpdateSketch) : ℕ := computeSeedHash sketch.table.seed

def update (sketch : UpdateSketch) (data : List UInt8) : Run UpdateSketch := do
  let (table, hash) := sketch.table.hashAndScreen data
  if hash = 0 then return ⟨table⟩
  let table ← table.findOrInsert hash
  return ⟨table⟩

def updateByHash (sketch : UpdateSketch) (hash : ℕ) : Run UpdateSketch := do
  let (table, hash) := sketch.table.screen hash
  if hash = 0 then return ⟨table⟩
  let table ← table.findOrInsert hash
  return ⟨table⟩

def view (sketch : UpdateSketch) : SketchView where
  isEmpty := sketch.isEmpty
  isOrdered := sketch.isOrdered
  seedHash := sketch.getSeedHash
  theta := sketch.getTheta64
  numRetained := sketch.getNumRetained
  entries := sketch.table.iterate.map .ok

def compact (sketch : UpdateSketch) (ordered : Bool) : Run CompactSketch :=
  CompactSketch.ofSketch sketch.view ordered

end UpdateSketch

/-! What a well-formed sketch shows to a set operation. -/

/-- A view that reads the distinct entries `E` in `(0, theta)`, in increasing
order when it is flagged ordered. A non-empty one carries the default seed. -/
structure SketchView.Valid (view : SketchView) (E : List ℕ) : Prop where
  reads : view.entries = E.map .ok
  count : view.numRetained = E.length
  distinct : E.Nodup
  range : ∀ hash ∈ E, 0 < hash ∧ hash < view.theta
  ordered : view.isOrdered = true → E.Pairwise (· < ·)
  seed : view.isEmpty = false → view.seedHash = computeSeedHash defaultSeed
  empty : view.isEmpty = true → E = []

/-- The shape of every sketch that the extension produces. -/
structure CompactSketch.Sound (sketch : CompactSketch) : Prop where
  sorted : sketch.entries.Pairwise (· < ·)
  range : ∀ hash ∈ sketch.entries, 0 < hash ∧ hash < sketch.theta
  bound : sketch.theta ≤ maxTheta
  ordered : sketch.isOrdered = true
  seed : sketch.seedHash = computeSeedHash defaultSeed
  empty : sketch.isEmpty = true → sketch.entries = [] ∧ sketch.theta = maxTheta

theorem nodup_of_sorted {entries : List ℕ} (sorted : entries.Pairwise (· < ·)) : entries.Nodup :=
  sorted.imp fun below => ne_of_lt below

theorem pairwise_of_short {E : List ℕ} (short : E.length ≤ 1) : E.Pairwise (· < ·) := by
  match E, short with
  | [], _ => exact List.Pairwise.nil
  | [entry], _ => exact List.pairwise_singleton _ _

theorem keyNotZero_eq_self {entries : List ℕ} (proper : ∀ entry ∈ entries, entry ≠ 0) :
    keyNotZero entries = entries :=
  List.filter_eq_self.mpr fun entry member => decide_eq_true (proper entry member)

theorem CompactSketch.view_entries {sketch : CompactSketch} (proper : ∀ hash ∈ sketch.entries, 0 < hash) :
    sketch.view.entries = sketch.entries.map .ok := by
  rw [view, keyNotZero_eq_self fun hash member => (proper hash member).ne']

theorem CompactSketch.Sound.valid {sketch : CompactSketch} (sound : sketch.Sound) :
    sketch.view.Valid sketch.entries where
  reads := sketch.view_entries fun hash member => (sound.range hash member).1
  count := rfl
  distinct := nodup_of_sorted sound.sorted
  range := sound.range
  ordered := fun _ => sound.sorted
  seed := fun _ => sound.seed
  empty := fun flagged => (sound.empty flagged).1

/-! Sorting distinct keys. -/

theorem sort_perm (entries : List ℕ) : (sort entries).Perm entries :=
  List.perm_insertionSort _ _

theorem sort_sorted {entries : List ℕ} (distinct : entries.Nodup) :
    (sort entries).Pairwise (· < ·) := by
  have sorted : (sort entries).Pairwise (· ≤ ·) := List.pairwise_insertionSort _ _
  have apart : (sort entries).Pairwise (· ≠ ·) := (sort_perm entries).nodup_iff.mpr distinct
  exact (sorted.and apart).imp fun ⟨le, ne⟩ => lt_of_le_of_ne le ne

theorem toFinset_sort (entries : List ℕ) : (sort entries).toFinset = entries.toFinset :=
  List.toFinset_eq_of_perm _ _ (sort_perm entries)

theorem sorted_unique {first second : List ℕ} (left : first.Pairwise (· < ·))
    (right : second.Pairwise (· < ·)) (same : first.toFinset = second.toFinset) :
    first = second := by
  have permuted : first.Perm second := List.perm_of_nodup_nodup_toFinset_eq
    (nodup_of_sorted left) (nodup_of_sorted right) same
  exact permuted.eq_of_pairwise (fun a b _ _ low high => absurd low (lt_asymm high)) left right

theorem mapM_map_ok (entries : List ℕ) :
    ((entries.map .ok : List (Run ℕ)).mapM id : Run (List ℕ)) = .ok entries := by
  induction entries with
  | nil => rfl
  | cons entry rest ih => simp [ih]

theorem CompactSketch.ofSketch_ordered {view : SketchView} {E : List ℕ} (valid : view.Valid E) :
    ∃ entries, CompactSketch.ofSketch view true = .ok {
        isEmpty := view.isEmpty, isOrdered := true, seedHash := view.seedHash
        theta := view.theta, entries := entries } ∧
      entries.Pairwise (· < ·) ∧ entries.toFinset = E.toFinset := by
  unfold CompactSketch.ofSketch
  cases flagged : view.isEmpty with
  | true =>
    refine ⟨[], by simp, List.Pairwise.nil, ?_⟩
    rw [valid.empty flagged]
  | false =>
    rw [valid.reads, mapM_map_ok]
    cases order : view.isOrdered with
    | true => exact ⟨E, by simp, valid.ordered order, rfl⟩
    | false => exact ⟨sort E, by simp, sort_sorted valid.distinct, toFinset_sort E⟩

/-! Runs of an update sketch. -/

theorem Absorbs.trims {table next : HashTable} {added A : Finset ℕ} {bound : ℕ}
    (step : Absorbs table added next) (proper : 0 ∉ added)
    (exact_count : table.stored.card = table.numEntries)
    (trims : Trims (2 ^ table.lgNomSize) bound A table.theta table.stored) :
    Trims (2 ^ table.lgNomSize) bound (A ∪ added) next.theta next.stored := by
  have zero : 0 ∉ table.stored ∪ added := by
    rw [Finset.notMem_union]
    exact ⟨by simp [HashTable.stored], proper⟩
  have grown := @Trims.lower _ _ _ _ _ _ _ next.theta (trims.add added) (by
    intro below
    obtain ⟨_, same | ⟨member, full⟩⟩ := step.exact proper exact_count
    · omega
    · rw [step.stored, Finset.erase_eq_of_notMem zero] at full
      exact ⟨member, full⟩)
  rwa [min_eq_right step.lower, ← Finset.erase_eq_of_notMem zero, ← step.stored] at grown

/-- An update sketch that was fed the hashes `S`, the zeros left out. -/
structure Gathers (sketch : UpdateSketch) (bound : ℕ) (S : Finset ℕ) : Prop where
  grows : Grows sketch.table
  counted : sketch.table.stored.card = sketch.table.numEntries
  proper : 0 ∉ S
  trims : Trims (2 ^ sketch.table.lgNomSize) bound S sketch.table.theta sketch.table.stored

theorem gathers_new (builder : ThetaBaseBuilder) (large : minLgK ≤ builder.lgK) :
    Gathers (UpdateSketch.new builder) builder.startingTheta ∅ := by
  have none_stored : builder.table.stored = ∅ := stored_new ..
  refine ⟨builder.table_grows large, ?_, Finset.notMem_empty 0, ?_⟩
  · change builder.table.stored.card = 0
    rw [none_stored, Finset.card_empty]
  · change Trims _ _ _ builder.startingTheta builder.table.stored
    rw [none_stored]
    exact Trims.refl _ _ _

theorem UpdateSketch.update_eq (sketch : UpdateSketch) (data : List UInt8) :
    sketch.update data = sketch.updateByHash (computeHash data sketch.table.seed) := rfl

/-- One row never fails: the table absorbs the hash unless it is zero. -/
theorem UpdateSketch.updateByHash_spec (sketch : UpdateSketch) (grows : Grows sketch.table)
    (hash : ℕ) :
    ∃ next, sketch.updateByHash hash = .ok ⟨next⟩ ∧
      Absorbs { sketch.table with isEmpty := false } (({hash} : Finset ℕ).erase 0) next := by
  have start := grows.opened
  unfold updateByHash HashTable.screen
  dsimp only
  by_cases under : sketch.table.theta ≤ hash
  · refine ⟨{ sketch.table with isEmpty := false }, by simp [under], Absorbs.refl start ?_⟩
    intro x member below
    rw [Finset.mem_erase, Finset.mem_singleton] at member
    exact absurd (member.2 ▸ below) (not_lt.mpr under)
  · by_cases zero : hash = 0
    · refine ⟨{ sketch.table with isEmpty := false }, by simp [zero], Absorbs.refl start ?_⟩
      simp [zero]
    · obtain ⟨next, run, step⟩ := @Grows.findOrInsert _ start hash (by simpa using under)
      refine ⟨next, by simp [under, zero, run], ?_⟩
      rwa [Finset.erase_eq_of_notMem (by simpa using Ne.symm zero)]

namespace Gathers

variable {sketch : UpdateSketch} {bound : ℕ} {S : Finset ℕ}

theorem updateByHash (gathers : Gathers sketch bound S) (hash : ℕ) :
    ∃ next, sketch.updateByHash hash = .ok next ∧
      Gathers next bound (S ∪ ({hash} : Finset ℕ).erase 0) ∧
      next.table.isEmpty = false ∧ next.table.lgNomSize = sketch.table.lgNomSize ∧
      next.table.seed = sketch.table.seed := by
  obtain ⟨next, run, step⟩ := sketch.updateByHash_spec gathers.grows hash
  have proper : 0 ∉ ({hash} : Finset ℕ).erase 0 := Finset.notMem_erase _ _
  have nominal : next.lgNomSize = sketch.table.lgNomSize := step.lgNomSize
  refine ⟨⟨next⟩, run, ⟨step.grows, (step.exact proper gathers.counted).1, ?_, ?_⟩,
    step.isEmpty, nominal, step.seed⟩
  · rw [Finset.notMem_union]
    exact ⟨gathers.proper, proper⟩
  · have trims := step.trims proper gathers.counted gathers.trims
    change Trims (2 ^ next.lgNomSize) _ _ _ _
    rw [nominal]
    exact trims

theorem valid (gathers : Gathers sketch bound S) (seed : sketch.table.seed = defaultSeed)
    (fed : sketch.table.isEmpty = false) : sketch.view.Valid sketch.table.iterate where
  reads := rfl
  count := by
    have size := gathers.grows.slots.placed.card_keys
    exact gathers.counted.symm.trans size
  distinct := gathers.grows.slots.placed.nodup
  range := by
    intro hash member
    obtain ⟨inside, proper⟩ := mem_keyNotZero.mp member
    have below := gathers.grows.below hash (mem_keys.mpr ⟨proper, inside⟩)
    have theta : sketch.view.theta = sketch.table.theta := by
      simp [UpdateSketch.view, UpdateSketch.getTheta64, UpdateSketch.isEmpty, fed]
    exact ⟨Nat.pos_of_ne_zero proper, theta ▸ below⟩
  ordered := by
    -- Only a sketch of at most one entry is flagged ordered.
    intro flagged
    have size := gathers.grows.slots.placed.card_keys
    have few : ¬ 1 < sketch.table.numEntries := by
      simpa [UpdateSketch.view, UpdateSketch.isOrdered] using flagged
    have short : sketch.table.iterate.length ≤ 1 := by
      have count := gathers.counted.symm.trans size
      change sketch.table.numEntries = sketch.table.iterate.length at count
      omega
    exact pairwise_of_short short
  seed := fun _ => congrArg computeSeedHash seed
  empty := fun flagged => by
    change sketch.table.isEmpty = true at flagged
    rw [fed] at flagged
    cases flagged

/-- The compact form holds exactly the gathered hashes below `theta`. -/
theorem compact (gathers : Gathers sketch bound S) (seed : sketch.table.seed = defaultSeed)
    (fed : sketch.table.isEmpty = false) (small : bound ≤ maxTheta) :
    ∃ result, sketch.compact true = .ok result ∧ result.Sound ∧ result.isEmpty = false ∧
      Trims (2 ^ sketch.table.lgNomSize) bound S result.theta result.entries.toFinset ∧
      result.entries.length < 2 ^ (sketch.table.lgNomSize + 1) := by
  have valid := gathers.valid seed fed
  obtain ⟨entries, run, sorted, same⟩ := CompactSketch.ofSketch_ordered valid
  have theta : sketch.view.theta = sketch.table.theta := by
    simp [UpdateSketch.view, UpdateSketch.getTheta64, UpdateSketch.isEmpty, fed]
  have stored : entries.toFinset = sketch.table.stored := by
    rw [same]
    exact toFinset_keyNotZero _
  have range : ∀ hash ∈ entries, 0 < hash ∧ hash < sketch.table.theta := by
    intro hash member
    rw [← List.mem_toFinset, same, List.mem_toFinset] at member
    exact theta ▸ valid.range hash member
  have flagged : sketch.view.isEmpty = false := fed
  rw [theta, flagged] at run
  refine ⟨_, run, ⟨sorted, range, gathers.trims.le.trans small, rfl, ?_, ?_⟩, rfl, ?_, ?_⟩
  · exact congrArg computeSeedHash seed
  · rintro ⟨⟩
  · exact stored ▸ gathers.trims
  · have size : entries.length = sketch.table.numEntries := by
      rw [← List.toFinset_card_of_nodup (nodup_of_sorted sorted), stored, gathers.counted]
    exact size ▸ gathers.grows.numEntries_lt

end Gathers

end ThetaSketch
