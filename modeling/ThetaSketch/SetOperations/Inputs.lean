import ThetaSketch.SetOperations.Difference
import ThetaSketch.SetOperations.MeetOrder

/-! The sketches that a set operation can be given, under any seed.

A seed decides nothing but whether a sketch is accepted: a table that carries
another one searches, stores and grows in the same way.
-/

set_option autoImplicit false

namespace ThetaSketch

/-- A sketch for an operation under `seed`: it shows the distinct entries `E` in
`(0, theta)`, in increasing order if it says so, and no more of them than 32 bits
can address. -/
structure ValidInput (seed : UInt64) (view : SketchView) (E : List ℕ) : Prop where
  reads : view.entries = E.map .ok
  count : view.numRetained = E.length
  few : E.length < 2 ^ 29
  distinct : E.Nodup
  range : ∀ hash ∈ E, 0 < hash ∧ hash < view.theta
  bound : view.theta ≤ maxTheta
  ordered : view.isOrdered = true → E.Pairwise (· < ·)
  seedHash : view.seedHash = computeSeedHash seed
  empty : view.isEmpty = true → E = [] ∧ view.theta = maxTheta

def HashTable.reseed (table : HashTable) (seed : UInt64) : HashTable := { table with seed := seed }

def SketchView.rehash (view : SketchView) (seedHash : ℕ) : SketchView :=
  { view with seedHash := seedHash }

def CompactSketch.rehash (sketch : CompactSketch) (seedHash : ℕ) : CompactSketch :=
  { sketch with seedHash := seedHash }

def ThetaIntersection.reseed (intersection : ThetaIntersection) (seed : UInt64) :
    ThetaIntersection :=
  { intersection with table := intersection.table.reseed seed }

section Fields

variable (seed : UInt64) (seedHash : ℕ)

@[simp] theorem SketchView.rehash_isEmpty (view : SketchView) :
    (view.rehash seedHash).isEmpty = view.isEmpty := rfl

@[simp] theorem SketchView.rehash_isOrdered (view : SketchView) :
    (view.rehash seedHash).isOrdered = view.isOrdered := rfl

@[simp] theorem SketchView.rehash_seedHash (view : SketchView) :
    (view.rehash seedHash).seedHash = seedHash := rfl

@[simp] theorem SketchView.rehash_theta (view : SketchView) :
    (view.rehash seedHash).theta = view.theta := rfl

@[simp] theorem SketchView.rehash_numRetained (view : SketchView) :
    (view.rehash seedHash).numRetained = view.numRetained := rfl

@[simp] theorem SketchView.rehash_entries (view : SketchView) :
    (view.rehash seedHash).entries = view.entries := rfl

@[simp] theorem HashTable.reseed_isEmpty (table : HashTable) :
    (table.reseed seed).isEmpty = table.isEmpty := rfl

@[simp] theorem HashTable.reseed_theta (table : HashTable) :
    (table.reseed seed).theta = table.theta := rfl

@[simp] theorem HashTable.reseed_numEntries (table : HashTable) :
    (table.reseed seed).numEntries = table.numEntries := rfl

@[simp] theorem HashTable.reseed_find (table : HashTable) (hash : ℕ) :
    (table.reseed seed).find hash = table.find hash := rfl

end Fields

namespace ValidInput

variable {seed : UInt64} {view : SketchView} {E : List ℕ}

theorem rehash (valid : ValidInput seed view E) :
    (view.rehash (computeSeedHash defaultSeed)).Valid E where
  reads := valid.reads
  count := valid.count
  distinct := valid.distinct
  range := valid.range
  ordered := valid.ordered
  seed := fun _ => rfl
  empty := fun flagged => (valid.empty flagged).1

theorem proper (valid : ValidInput seed view E) : (view.meet E).Proper where
  bound := valid.bound
  range := by
    intro hash member
    exact valid.range hash (List.mem_toFinset.mp member)
  void := by
    intro flagged
    change view.isEmpty = true at flagged
    obtain ⟨bare, whole⟩ := valid.empty flagged
    rw [SketchView.meet, flagged, whole, bare]
    rfl

end ValidInput

/-! Tables. -/

section Reseed

variable (seed : UInt64)

theorem HashTable.resize_reseed (table : HashTable) :
    (table.reseed seed).resize = (fun next : HashTable => next.reseed seed) <$> table.resize := by
  simp only [HashTable.resize, HashTable.reseed]
  cases (keyNotZero table.entries).foldlM (place (min (table.lgCurSize + table.rf.toNat)
      (table.lgNomSize + 1))) (List.replicate (2 ^ min (table.lgCurSize + table.rf.toNat)
      (table.lgNomSize + 1)) 0) <;> rfl

theorem HashTable.rebuild_reseed (table : HashTable) :
    (table.reseed seed).rebuild = (fun next : HashTable => next.reseed seed) <$> table.rebuild := by
  simp only [HashTable.rebuild, HashTable.reseed]
  split
  · rfl
  · cases ((nthElement ((consolidateNonEmpty table.entries table.numEntries).take
        table.numEntries)).take (2 ^ table.lgNomSize)).foldlM (place table.lgCurSize)
        (List.replicate (2 ^ table.lgCurSize) 0) <;> rfl

theorem HashTable.insert_reseed (table : HashTable) (slot entry : ℕ) :
    (table.reseed seed).insert slot entry =
      (fun next : HashTable => next.reseed seed) <$> table.insert slot entry := by
  simp only [HashTable.insert]
  rw [apply_ite (fun run : Run HashTable => (fun next : HashTable => next.reseed seed) <$> run),
    apply_ite (fun run : Run HashTable => (fun next : HashTable => next.reseed seed) <$> run),
    ← HashTable.resize_reseed, ← HashTable.rebuild_reseed]
  rfl

theorem HashTable.put_reseed (table : HashTable) (hash : ℕ) :
    (table.reseed seed).put hash =
      (fun next : HashTable => next.reseed seed) <$> table.put hash := by
  simp only [HashTable.put]
  change (table.find hash >>= fun result => (table.reseed seed).insert result.1 hash) = _
  cases table.find hash with
  | error exit => rfl
  | ok result => exact table.insert_reseed seed result.1 hash

theorem HashTable.putAll_reseed (table : HashTable) (hashes : List ℕ) :
    hashes.foldlM HashTable.put (table.reseed seed) =
      (fun next : HashTable => next.reseed seed) <$> hashes.foldlM HashTable.put table := by
  induction hashes generalizing table with
  | nil => rfl
  | cons hash rest ih =>
    rw [List.foldlM_cons, List.foldlM_cons, HashTable.put_reseed]
    cases table.put hash with
    | error exit => rfl
    | ok next => exact ih next

/-! Intersections. -/

namespace ThetaIntersection

theorem fillLoop_reseed (table : HashTable) (entries : List (Run ℕ)) :
    fillLoop (table.reseed seed) entries =
      (fun next : HashTable => next.reseed seed) <$> fillLoop table entries := by
  induction entries generalizing table with
  | nil => rfl
  | cons entry rest ih =>
    cases entry with
    | error exit => rfl
    | ok hash =>
      simp only [fillLoop, Run.ok_bind]
      change (table.find hash >>= fun result => _) = _
      cases table.find hash with
      | error exit => rfl
      | ok result =>
        simp only [Run.ok_bind]
        rw [HashTable.insert_reseed]
        split
        · rfl
        · cases table.insert result.1 hash with
          | error exit => rfl
          | ok next => exact ih next

theorem matchLoop_reseed (table : HashTable) (ordered : Bool) (maxMatches : ℕ) (matched : List ℕ)
    (count : ℕ) (entries : List (Run ℕ)) :
    matchLoop (table.reseed seed) ordered maxMatches matched count entries =
      matchLoop table ordered maxMatches matched count entries := by
  induction entries generalizing matched count with
  | nil => rfl
  | cons entry rest ih =>
    simp only [matchLoop, ih]
    rfl

end ThetaIntersection

end Reseed

end ThetaSketch
