import ThetaSketch.Extension.BuildPlans
import ThetaSketch.Extension.Scalars

/-! The second family of functions, in which an empty argument stands for NULL.

Hashing blobs first and building from the hashes gives what building from the blobs
gives, except that in this family a hash of zero stands for NULL as well.
-/

set_option autoImplicit false

namespace ThetaSketch

/-- An empty list is replaced by a null pointer. -/
def emptyIsNull (list : Blob) : Option Blob := if list.length = 0 then none else some list

def extensionSketchHandleBuildAccumEmptyIsNull (handle : Handle) (input : Blob) : HeapM Handle :=
  extensionSketchHandleBuildAccum handle (emptyIsNull input)

def extensionSketchHandleBuildAccumByHashEmptyIsNull (handle : Handle) (input : UInt64) :
    HeapM Handle :=
  if input = 0 then return handle
  else extensionSketchHandleBuildAccumByHash handle input

def extensionSketchHandleUnionAccumEmptyIsNull (handle : Handle) (input : Blob) : HeapM Handle :=
  extensionSketchHandleUnionAccum handle (emptyIsNull input)

def extensionSketchHandleIntersectionAccumEmptyIsNull (handle : Handle) (input : Blob) : HeapM Handle :=
  extensionSketchHandleIntersectionAccum handle (emptyIsNull input)

def extensionSketchGetEstimateEmptyIsNull (data : Blob) : HeapM ℚ :=
  extensionSketchGetEstimate (emptyIsNull data)

def extensionSketchUnionEmptyIsNull (left right : Blob) (malloc : ℕ → UInt8) : HeapM Blob :=
  extensionSketchUnion (emptyIsNull left) (emptyIsNull right) malloc

def extensionSketchIntersectionEmptyIsNull (left right : Blob) (malloc : ℕ → UInt8) : HeapM Blob :=
  extensionSketchIntersection (emptyIsNull left) (emptyIsNull right) malloc

def extensionSketchANotBEmptyIsNull (left right : Blob) (malloc : ℕ → UInt8) : HeapM Blob :=
  extensionSketchANotB (emptyIsNull left) (emptyIsNull right) malloc

def extensionSketchToStringEmptyIsNull (doubles : Doubles) (data : Blob) : HeapM (Option String) :=
  extensionSketchToString doubles (emptyIsNull data)

def extensionSketchHashEmptyIsNull (data : Blob) : UInt64 := extensionSketchHash (emptyIsNull data)

/-! Folds that skip rows. -/

section Fold

variable {Row State : Type} {M : Type → Type} [Monad M] [LawfulMonad M]

theorem foldlM_skip {step other : State → Row → M State} {keeps : Row → Bool} {rows : List Row}
    (skip : ∀ row ∈ rows, keeps row = false → ∀ state, step state row = pure state)
    (keep : ∀ row ∈ rows, keeps row = true → ∀ state, step state row = other state row) (start : State) :
    rows.foldlM step start = (rows.filter keeps).foldlM other start := by
  induction rows generalizing start with
  | nil => rfl
  | cons row rest ih =>
    have ih := ih (fun row member => skip row (.tail _ member)) fun row member => keep row (.tail _ member)
    rw [List.foldlM_cons]
    cases kept : keeps row with
    | false =>
      rw [List.filter_cons_of_neg (by simp [kept]), skip row (.head _) kept, pure_bind]
      exact ih start
    | true =>
      rw [List.filter_cons_of_pos kept, List.foldlM_cons, keep row (.head _) kept]
      exact bind_congr ih

end Fold

/-! Building a sketch. -/

def buildBlob {Row : Type} (accum : Handle → Row → HeapM Handle) (rows : List Row) (malloc : ℕ → UInt8) :
    HeapM Blob := do
  let handle ← rows.foldlM accum extensionSketchHandleInit
  extensionSketchHandleSerialize handle malloc

def HeapM.outcomeFrom {A : Type} (heap : Heap) (code : HeapM A) : Run A :=
  match code heap with
  | .ok value _ => .ok value
  | .error exit _ => .error exit

/-- Hashing first makes no difference, in either family. -/
structure HashingTransparent (blobs : List Blob) (heap : Heap) (malloc : ℕ → UInt8) : Prop where
  ordinary :
    (buildBlob (fun handle blob => extensionSketchHandleBuildAccum handle (some blob)) blobs
        malloc).outcomeFrom heap =
      (buildBlob extensionSketchHandleBuildAccumByHash (blobs.map fun blob => extensionSketchHash (some blob))
        malloc).outcomeFrom heap
  emptyIsNull :
    (buildBlob extensionSketchHandleBuildAccumEmptyIsNull blobs malloc).outcomeFrom heap =
      (buildBlob extensionSketchHandleBuildAccumByHashEmptyIsNull
        (blobs.map extensionSketchHashEmptyIsNull) malloc).outcomeFrom heap

/-- The hashes of the rows, fed one after the other to a new sketch. -/
def fedSketch (hashes : List ℕ) : Run UpdateSketch :=
  hashes.foldlM UpdateSketch.updateByHash (UpdateSketch.new {})

/-- The state holds the sketch to which the rows were fed. -/
def FollowsRows (rows : List BuildRow) (object : Object) : Prop :=
  ∃ sketch, object = .updateThetaSketch sketch ∧ fedSketch (rows.map BuildRow.fed) = .ok sketch ∧
    rows ≠ [] ∧ FedRows sketch rows

theorem FollowsRows.collects {rows : List BuildRow} {object : Object} (follows : FollowsRows rows object) :
    CollectsRows rows object := by
  obtain ⟨sketch, same, _, some_row, fed⟩ := follows
  exact ⟨sketch, same, some_row, fed⟩

theorem fedSketch_append {rows : List BuildRow} {row : BuildRow} {sketch next : UpdateSketch}
    (before : fedSketch (rows.map BuildRow.fed) = .ok sketch)
    (run : sketch.updateByHash row.fed = .ok next) :
    fedSketch ((rows ++ [row]).map BuildRow.fed) = .ok next := by
  unfold fedSketch at before ⊢
  rw [List.map_append, List.foldlM_append, before]
  simp [run]

theorem buildAggregate_follows : buildAggregate.Tracks (fun _ => True) FollowsRows ShowsRows where
  accum := by
    intro heap handle state rows row owns shown _
    obtain ⟨sketch, same, before, fed⟩ : ∃ sketch,
        state.getD (.updateThetaSketch (UpdateSketch.new {})) = .updateThetaSketch sketch ∧
          fedSketch (rows.map BuildRow.fed) = .ok sketch ∧ FedRows sketch rows := by
      cases state with
      | none =>
        cases shown
        exact ⟨_, rfl, rfl, fedRows_new⟩
      | some object =>
        obtain ⟨sketch, rfl, before, _, fed⟩ := shown.2
        exact ⟨sketch, rfl, before, fed⟩
    obtain ⟨next, run, after⟩ := fed.accumulate row
    exact ⟨.updateThetaSketch next, ⟨next, rfl, fedSketch_append before run, by simp, after⟩,
      returns_buildRow owns same fed.seed run⟩
  collected := fun follows => follows.collects.shows
  merge := buildAggregate_tracks.merge
  nothing := rfl
  hop := buildAggregate_tracks.hop

/-- The blob of some rows, of either kind, is that of the sketch to which their hashes
were fed. -/
theorem returns_rows {rows : List BuildRow} (some_row : rows ≠ []) (heap : Heap) (malloc : ℕ → UInt8) :
    Returns (buildBlob buildAggregate.accum rows malloc) heap [] fun blob _ => ∃ sketch compact,
      fedSketch (rows.map BuildRow.fed) = .ok sketch ∧ sketch.compact true = .ok compact ∧
      blob = compact.serialize2 malloc := by
  refine (buildAggregate_follows.output_rows some_row (fun _ _ => trivial) heap malloc).imp ?_
  rintro blob after - ⟨object, compact, ⟨sketch, rfl, fed, _⟩, finished, _, same⟩
  exact ⟨sketch, compact, fed, finished, same⟩

theorem Returns.outcomeFrom {A : Type} {code : HeapM A} {heap : Heap} {owned : List ℕ}
    {post : A → Heap → Prop} (returns : Returns code heap owned post) :
    ∃ value after, code.outcomeFrom heap = .ok value ∧ post value after := by
  obtain ⟨value, after, run, _, holds⟩ := returns
  exact ⟨value, after, by rw [HeapM.outcomeFrom, run], holds⟩

theorem outcome_of_fed_eq {rows others : List BuildRow} (some_row : rows ≠ []) (some_other : others ≠ [])
    (same : fedSketch (rows.map BuildRow.fed) = fedSketch (others.map BuildRow.fed)) (heap : Heap)
    (malloc : ℕ → UInt8) :
    (buildBlob buildAggregate.accum rows malloc).outcomeFrom heap =
      (buildBlob buildAggregate.accum others malloc).outcomeFrom heap := by
  obtain ⟨_, _, first, sketch, compact, fed, finished, rfl⟩ :=
    (returns_rows some_row heap malloc).outcomeFrom
  obtain ⟨_, _, second, other, compacted, fedToo, finishedToo, rfl⟩ :=
    (returns_rows some_other heap malloc).outcomeFrom
  cases fed.symm.trans (same.trans fedToo)
  cases finished.symm.trans finishedToo
  rw [first, second]

theorem buildBlob_nil {Row : Type} (accum : Handle → Row → HeapM Handle) (heap : Heap)
    (malloc : ℕ → UInt8) : (buildBlob accum [] malloc).outcomeFrom heap = .ok [] := rfl

theorem outcome_ne_nil {rows : List BuildRow} (some_row : rows ≠ []) (heap : Heap) (malloc : ℕ → UInt8) :
    (buildBlob buildAggregate.accum rows malloc).outcomeFrom heap ≠ .ok [] := by
  obtain ⟨_, _, run, sketch, compact, _, _, rfl⟩ := (returns_rows some_row heap malloc).outcomeFrom
  rw [run]
  intro same
  exact compact.serialize2_ne_nil malloc (Except.ok.inj same)

/-! Both ways of feeding blobs as rows. -/

theorem hash_toNat (blob : Blob) :
    (extensionSketchHash (some blob)).toNat = computeHash blob defaultSeed := rfl

theorem outcome_bytes (blobs : List Blob) (malloc : ℕ → UInt8) :
    buildBlob (fun handle blob => extensionSketchHandleBuildAccum handle (some blob)) blobs malloc =
      buildBlob buildAggregate.accum (blobs.map BuildRow.bytes) malloc := by
  rw [buildBlob, buildBlob, List.foldlM_map]
  rfl

theorem outcome_hashes (blobs : List Blob) (malloc : ℕ → UInt8) :
    buildBlob extensionSketchHandleBuildAccumByHash (blobs.map fun blob => extensionSketchHash (some blob))
        malloc =
      buildBlob buildAggregate.accum (blobs.map fun blob => .hash (extensionSketchHash (some blob)))
        malloc := by
  rw [buildBlob, buildBlob, List.foldlM_map, List.foldlM_map]
  rfl

def filled (blobs : List Blob) : List Blob := blobs.filter fun blob => decide (blob ≠ [])

def hashed (blobs : List Blob) : List Blob :=
  blobs.filter fun blob => decide (extensionSketchHashEmptyIsNull blob ≠ 0)

theorem outcome_bytes_emptyIsNull (blobs : List Blob) (malloc : ℕ → UInt8) :
    buildBlob extensionSketchHandleBuildAccumEmptyIsNull blobs malloc =
      buildBlob buildAggregate.accum ((filled blobs).map BuildRow.bytes) malloc := by
  rw [← outcome_bytes, buildBlob, buildBlob, filled]
  refine congrArg (· >>= _) (foldlM_skip (fun blob _ dropped handle => ?_) (fun blob _ kept handle => ?_) _)
  · have none_left : blob = [] := by simpa using dropped
    subst none_left
    rfl
  · have some_byte : blob ≠ [] := by simpa using kept
    rw [extensionSketchHandleBuildAccumEmptyIsNull, emptyIsNull,
      if_neg fun none_left => some_byte (List.length_eq_zero_iff.mp none_left)]

theorem hash_emptyIsNull {blob : Blob} (some_byte : blob ≠ []) :
    extensionSketchHashEmptyIsNull blob = extensionSketchHash (some blob) := by
  rw [extensionSketchHashEmptyIsNull, emptyIsNull,
    if_neg fun none_left => some_byte (List.length_eq_zero_iff.mp none_left)]

theorem hash_emptyIsNull_nil : extensionSketchHashEmptyIsNull [] = 0 := rfl

theorem outcome_hashes_emptyIsNull (blobs : List Blob) (malloc : ℕ → UInt8) :
    buildBlob extensionSketchHandleBuildAccumByHashEmptyIsNull
        (blobs.map extensionSketchHashEmptyIsNull) malloc =
      buildBlob buildAggregate.accum
        ((hashed blobs).map fun blob => .hash (extensionSketchHash (some blob))) malloc := by
  rw [← outcome_hashes, buildBlob, buildBlob, List.foldlM_map, List.foldlM_map, hashed]
  refine congrArg (· >>= _) (foldlM_skip (fun blob _ dropped handle => ?_) (fun blob _ kept handle => ?_) _)
  · have zero : extensionSketchHashEmptyIsNull blob = 0 := by simpa using dropped
    rw [extensionSketchHandleBuildAccumByHashEmptyIsNull, if_pos zero]
  · have nonzero : extensionSketchHashEmptyIsNull blob ≠ 0 := by simpa using kept
    have some_byte : blob ≠ [] := fun none_left => nonzero (none_left ▸ hash_emptyIsNull_nil)
    rw [extensionSketchHandleBuildAccumByHashEmptyIsNull, if_neg nonzero, hash_emptyIsNull some_byte]

/-! A zero among the hashes only marks the sketch as non-empty. -/

namespace UpdateSketch

def opened (sketch : UpdateSketch) : UpdateSketch := ⟨{ sketch.table with isEmpty := false }⟩

theorem updateByHash_opened (sketch : UpdateSketch) (hash : ℕ) :
    sketch.opened.updateByHash hash = sketch.updateByHash hash := rfl

theorem updateByHash_zero (sketch : UpdateSketch) : sketch.updateByHash 0 = .ok sketch.opened := by
  unfold updateByHash HashTable.screen
  split_ifs <;> rfl

end UpdateSketch

theorem Absorbs.opened {table next : HashTable} {added : Finset ℕ}
    (step : Absorbs { table with isEmpty := false } added next) :
    UpdateSketch.opened ⟨next⟩ = ⟨next⟩ := by
  have flag : next.isEmpty = false := congrArg HashTable.isEmpty step.config
  rw [UpdateSketch.opened]
  cases next
  cases flag
  rfl

theorem foldlM_nonzero (sketch : UpdateSketch) (grows : Grows sketch.table) (hashes : List ℕ) :
    hashes.foldlM UpdateSketch.updateByHash sketch.opened =
      (hashes.filter fun hash => decide (hash ≠ 0)).foldlM UpdateSketch.updateByHash sketch.opened := by
  induction hashes generalizing sketch with
  | nil => rfl
  | cons hash rest ih =>
    obtain ⟨next, run, step⟩ := sketch.updateByHash_spec grows hash
    by_cases zero : hash = 0
    · subst zero
      rw [List.filter_cons_of_neg (by simp), List.foldlM_cons, sketch.opened.updateByHash_zero]
      exact ih sketch grows
    · rw [List.filter_cons_of_pos (by simpa using zero), List.foldlM_cons, List.foldlM_cons,
        sketch.updateByHash_opened, run, Run.ok_bind, Run.ok_bind, ← step.opened]
      exact ih ⟨next⟩ step.grows

/-- So zeros can be left out, as long as something is fed. -/
theorem fedSketch_nonzero {hashes : List ℕ} (some_hash : ∃ hash ∈ hashes, hash ≠ 0) :
    fedSketch hashes = fedSketch (hashes.filter fun hash => decide (hash ≠ 0)) := by
  have open_first : ∀ {hashes : List ℕ}, hashes ≠ [] →
      fedSketch hashes = hashes.foldlM UpdateSketch.updateByHash (UpdateSketch.new {}).opened := by
    intro hashes some_hash
    obtain ⟨hash, rest, rfl⟩ := List.exists_cons_of_ne_nil some_hash
    rw [fedSketch, List.foldlM_cons, List.foldlM_cons, UpdateSketch.updateByHash_opened]
  obtain ⟨hash, member, nonzero⟩ := some_hash
  have kept : hash ∈ hashes.filter fun hash => decide (hash ≠ 0) := by simp [member, nonzero]
  rw [open_first (List.ne_nil_of_mem member), open_first (List.ne_nil_of_mem kept),
    foldlM_nonzero _ fedRows_new.gathers.grows]

/-! Where the families agree. -/

theorem hashed_eq (blobs : List Blob) :
    hashed blobs = (filled blobs).filter fun blob => decide (extensionSketchHash (some blob) ≠ 0) := by
  rw [hashed, filled, List.filter_filter]
  refine List.filter_congr fun blob _ => ?_
  by_cases empty : blob = []
  · subst empty
    simp [hash_emptyIsNull_nil]
  · simp [hash_emptyIsNull empty, empty]

theorem fed_hash (blob : Blob) :
    (BuildRow.hash (extensionSketchHash (some blob))).fed = computeHash blob defaultSeed :=
  hash_toNat blob

theorem fed_bytes (blob : Blob) : (BuildRow.bytes blob).fed = computeHash blob defaultSeed := by
  rw [BuildRow.fed]

theorem fed_hashed (blobs : List Blob) :
    ((hashed blobs).map fun blob => BuildRow.hash (extensionSketchHash (some blob))).map BuildRow.fed =
      (((filled blobs).map BuildRow.bytes).map BuildRow.fed).filter fun hash => decide (hash ≠ 0) := by
  have zero : ∀ blob, extensionSketchHash (some blob) ≠ 0 ↔ computeHash blob defaultSeed ≠ 0 := by
    intro blob
    rw [← hash_toNat, Ne, ← UInt64.toNat_inj, UInt64.toNat_zero]
  simp only [hashed_eq, List.map_map, Function.comp_def, fed_hash, fed_bytes, List.filter_map, zero]

theorem ordinary_agree (blobs : List Blob) (heap : Heap) (malloc : ℕ → UInt8) :
    (buildBlob (fun handle blob => extensionSketchHandleBuildAccum handle (some blob)) blobs
        malloc).outcomeFrom heap =
      (buildBlob extensionSketchHandleBuildAccumByHash (blobs.map fun blob => extensionSketchHash (some blob))
        malloc).outcomeFrom heap := by
  rw [outcome_bytes, outcome_hashes]
  by_cases none_left : blobs = []
  · subst none_left
    rfl
  · refine outcome_of_fed_eq (by simpa using none_left) (by simpa using none_left) ?_ heap malloc
    simp only [List.map_map, Function.comp_def, fed_hash, fed_bytes]

theorem emptyIsNull_agree_iff (blobs : List Blob) (heap : Heap) (malloc : ℕ → UInt8) :
    (buildBlob extensionSketchHandleBuildAccumEmptyIsNull blobs malloc).outcomeFrom heap =
        (buildBlob extensionSketchHandleBuildAccumByHashEmptyIsNull
          (blobs.map extensionSketchHashEmptyIsNull) malloc).outcomeFrom heap ↔
      ¬ ((∃ blob ∈ blobs, blob ≠ []) ∧
        ∀ blob ∈ blobs, blob ≠ [] → extensionSketchHash (some blob) = 0) := by
  have filled_iff : filled blobs = [] ↔ ¬ ∃ blob ∈ blobs, blob ≠ [] := by
    simp [filled, List.filter_eq_nil_iff]
  have hashed_iff : hashed blobs = [] ↔
      ∀ blob ∈ blobs, blob ≠ [] → extensionSketchHash (some blob) = 0 := by
    simp only [hashed_eq, filled, List.filter_filter, List.filter_eq_nil_iff, Bool.and_eq_true,
      decide_eq_true_eq, not_and, not_not]
    exact ⟨fun none_left blob member some_byte => Classical.byContradiction fun nonzero =>
      some_byte (none_left blob member nonzero), fun zeros blob member nonzero =>
      Classical.byContradiction fun some_byte => nonzero (zeros blob member some_byte)⟩
  rw [outcome_bytes_emptyIsNull, outcome_hashes_emptyIsNull, ← hashed_iff]
  by_cases none_filled : filled blobs = []
  · have none_hashed : hashed blobs = [] := by rw [hashed_eq, none_filled, List.filter_nil]
    rw [none_filled, none_hashed]
    exact iff_of_true rfl fun fails => filled_iff.mp none_filled fails.1
  · have some_filled := not_not.mp fun none_there => none_filled (filled_iff.mpr none_there)
    by_cases none_hashed : hashed blobs = []
    · rw [none_hashed, List.map_nil, buildBlob_nil]
      exact iff_of_false (outcome_ne_nil (by simpa using none_filled) heap malloc)
        fun agree => agree ⟨some_filled, rfl⟩
    · refine iff_of_true ?_ fun fails => none_hashed fails.2
      refine outcome_of_fed_eq (by simpa using none_filled) (by simpa using none_hashed) ?_ heap malloc
      rw [fed_hashed]
      refine fedSketch_nonzero ?_
      obtain ⟨blob, member⟩ := List.exists_mem_of_ne_nil _ none_hashed
      rw [hashed_eq, List.mem_filter] at member
      refine ⟨computeHash blob defaultSeed, ?_, ?_⟩
      · simp only [List.map_map, Function.comp_def, fed_bytes]
        exact List.mem_map_of_mem member.1
      · rw [← hash_toNat]
        exact fun zero => of_decide_eq_true member.2 (UInt64.toNat_inj.mp zero)

/-- Hashing first is transparent unless some blob is there to be fed and all such
blobs hash to zero. -/
theorem hashing_transparent_iff (blobs : List Blob) (heap : Heap) (malloc : ℕ → UInt8) :
    HashingTransparent blobs heap malloc ↔
      ¬ ((∃ blob ∈ blobs, blob ≠ []) ∧
        ∀ blob ∈ blobs, blob ≠ [] → extensionSketchHash (some blob) = 0) := by
  rw [← emptyIsNull_agree_iff blobs heap malloc]
  exact ⟨HashingTransparent.emptyIsNull, fun agree => ⟨ordinary_agree blobs heap malloc, agree⟩⟩

def zeroHashBlob : Blob := [182, 37, 202, 211, 61, 148, 238, 91, 111, 208, 29, 16, 40, 252, 129, 86]

theorem zeroHashBlob_hash : extensionSketchHash (some zeroHashBlob) = 0 := by decide +kernel

theorem zeroHashBlob_not_transparent : ¬ HashingTransparent [zeroHashBlob] Heap.empty fun _ => 0 := by
  intro transparent
  refine (emptyIsNull_agree_iff _ _ _).mp transparent.emptyIsNull ⟨⟨zeroHashBlob, by simp, by decide⟩, ?_⟩
  intro blob member _
  rw [List.mem_singleton.mp member]
  exact zeroHashBlob_hash

end ThetaSketch
