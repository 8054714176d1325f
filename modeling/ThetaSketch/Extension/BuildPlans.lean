import ThetaSketch.Extension.Plan

/-! The build aggregate samples the hashes that were fed, however the rows are
distributed.

A partial state is an update sketch; merging turns partial states into a union,
which holds fewer hashes. Both trim the same set of hashes.
-/

set_option autoImplicit false

namespace ThetaSketch

open Threshold

/-- A row of the build aggregate: bytes to hash, or a hash. -/
inductive BuildRow where
  | bytes (data : Blob)
  | hash (value : UInt64)

def BuildRow.fed : BuildRow → ℕ
  | bytes data => computeHash data defaultSeed
  | hash value => value.toNat

def buildAggregate : Aggregate BuildRow where
  accum := fun handle row => match row with
    | .bytes data => extensionSketchHandleBuildAccum handle (some data)
    | .hash value => extensionSketchHandleBuildAccumByHash handle value
  merge := extensionSketchHandleUnionMerge

/-- The fed hashes, apart from zero, which marks empty slots. -/
def nonzeroHashes (rows : List BuildRow) : Finset ℕ := (rows.map BuildRow.fed).toFinset.erase 0

def fedHashes (rows : List BuildRow) : Finset ℕ :=
  (rows.map BuildRow.fed).toFinset.filter fun hash => 0 < hash ∧ hash < maxTheta

section Rows

variable {rows others : List BuildRow}

theorem nonzeroHashes_append :
    nonzeroHashes (rows ++ others) = nonzeroHashes rows ∪ nonzeroHashes others := by
  rw [nonzeroHashes, List.map_append, List.toFinset_append, Finset.erase_union_distrib]
  rfl

theorem zero_notMem_nonzeroHashes (rows : List BuildRow) : 0 ∉ nonzeroHashes rows :=
  Finset.notMem_erase _ _

theorem fedHashes_eq (rows : List BuildRow) : fedHashes rows = sample (nonzeroHashes rows) maxTheta := by
  ext hash
  rw [fedHashes, Finset.mem_filter, mem_sample, nonzeroHashes, Finset.mem_erase, Nat.pos_iff_ne_zero]
  tauto

theorem fedHashes_perm (same : rows.Perm others) : fedHashes rows = fedHashes others := by
  rw [fedHashes, fedHashes, List.toFinset_eq_of_perm _ _ (same.map BuildRow.fed)]

end Rows

/-! States. -/

structure FedRows (sketch : UpdateSketch) (rows : List BuildRow) : Prop where
  gathers : Gathers sketch maxTheta (nonzeroHashes rows)
  seed : sketch.table.seed = defaultSeed
  nominal : sketch.table.lgNomSize = defaultLgK
  fed : rows ≠ [] → sketch.table.isEmpty = false

theorem fedRows_new : FedRows (UpdateSketch.new {}) [] where
  gathers := gathers_new {} (by decide)
  seed := rfl
  nominal := rfl
  fed := fun some => absurd rfl some

theorem FedRows.accumulate {sketch : UpdateSketch} {rows : List BuildRow} (fed : FedRows sketch rows)
    (row : BuildRow) :
    ∃ next, sketch.updateByHash row.fed = .ok next ∧ FedRows next (rows ++ [row]) := by
  obtain ⟨next, run, gathers, full, nominal, seed⟩ := fed.gathers.updateByHash row.fed
  have one : ({row.fed} : Finset ℕ).erase 0 = nonzeroHashes [row] := by simp [nonzeroHashes]
  rw [one, ← nonzeroHashes_append] at gathers
  exact ⟨next, run, gathers, seed.trans fed.seed, nominal.trans fed.nominal, fun _ => full⟩

structure UnitesRows (union : ThetaUnion) (rows : List BuildRow) : Prop where
  unites : Unites union maxTheta (nonzeroHashes rows)
  nominal : union.table.lgNomSize = defaultLgK
  fed : rows ≠ [] → union.table.isEmpty = false

theorem unitesRows_new : UnitesRows (ThetaUnion.new {}) [] where
  unites := unites_new {} (by decide) rfl rfl
  nominal := rfl
  fed := fun some => absurd rfl some

/-- A non-empty sketch whose entries are the fed hashes below its `theta`. -/
structure SamplesRows (view : SketchView) (E : List ℕ) (rows : List BuildRow) : Prop where
  valid : view.Valid E
  fed : view.isEmpty = false
  trims : Trims (2 ^ defaultLgK) maxTheta (nonzeroHashes rows) view.theta E.toFinset

theorem UnitesRows.join {union : ThetaUnion} {rows others : List BuildRow}
    (unites : UnitesRows union rows) {view : SketchView} {E : List ℕ}
    (samples : SamplesRows view E others) :
    ∃ next, union.update view = .ok next ∧ UnitesRows next (rows ++ others) := by
  have trims := samples.trims
  rw [← unites.nominal] at trims
  obtain ⟨next, run, after, full, nominal⟩ := unites.unites.update_trimmed samples.valid samples.fed
    (zero_notMem_nonzeroHashes others) trims
  rw [min_self, ← nonzeroHashes_append] at after
  exact ⟨next, run, after, nominal.trans unites.nominal, fun _ => full⟩

/-! Plans. -/

/-- The result of a state: a sound sketch that samples the rows. -/
structure ShowsRows (rows : List BuildRow) (object : Object) : Prop where
  finished : ∃ sketch, object.finished = .ok sketch ∧ sketch.Sound ∧
    sketch.entries.length + 3 < 2 ^ 29 ∧ SamplesRows sketch.view sketch.entries rows
  shown : ∃ view E, object.shown = .ok view ∧ SamplesRows view E rows

def CollectsRows (rows : List BuildRow) (object : Object) : Prop :=
  ∃ sketch, object = .updateThetaSketch sketch ∧ rows ≠ [] ∧ FedRows sketch rows

theorem CollectsRows.shows {rows : List BuildRow} {object : Object}
    (collects : CollectsRows rows object) : ShowsRows rows object := by
  obtain ⟨sketch, rfl, some_row, rows_fed⟩ := collects
  have full := rows_fed.fed some_row
  have nominal := rows_fed.nominal
  have valid := rows_fed.gathers.valid rows_fed.seed full
  obtain ⟨result, run, sound, open_flag, trims, few⟩ :=
    rows_fed.gathers.compact rows_fed.seed full le_rfl
  rw [nominal] at trims few
  refine ⟨⟨result, run, sound, ?_, sound.valid, open_flag, trims⟩, _, _, rfl, valid, full, ?_⟩
  · exact lt_of_le_of_lt (Nat.add_le_add_right few.le 3) (by decide)
  · have theta : sketch.view.theta = sketch.table.theta := by
      simp [UpdateSketch.view, UpdateSketch.getTheta64, UpdateSketch.isEmpty, full]
    have stored : sketch.table.iterate.toFinset = sketch.table.stored := toFinset_keyNotZero _
    rw [theta, stored, ← nominal]
    exact rows_fed.gathers.trims

theorem UnitesRows.shows {union : ThetaUnion} {rows : List BuildRow} (unites : UnitesRows union rows)
    (some_row : rows ≠ []) : ShowsRows rows (.thetaUnion union) := by
  have result := unites.unites.getResult_eq
  have cut := isCut_cut (2 ^ union.table.lgNomSize) maxTheta (nonzeroHashes rows)
  have few := length_cutKeys_le (2 ^ union.table.lgNomSize) maxTheta (nonzeroHashes rows)
  have full := unites.fed some_row
  have sound : (union.getResult true).Sound := by
    rw [result]
    refine ⟨cutKeys_pairwise _ _ _, fun hash member => ?_, cut.le, rfl, rfl, fun flagged => ?_⟩
    · obtain ⟨inside, below⟩ := mem_cutKeys.mp member
      exact ⟨Nat.pos_of_ne_zero (Finset.ne_of_mem_erase inside), below⟩
    · rw [full] at flagged
      cases flagged
  have samples : SamplesRows (union.getResult true).view (union.getResult true).entries rows := by
    refine ⟨sound.valid, by rw [result]; exact full, ?_⟩
    rw [result, ← unites.nominal]
    exact cut.trims
  refine ⟨⟨_, rfl, sound, ?_, samples⟩, _, _, rfl, samples⟩
  rw [result]
  rw [unites.nominal] at few ⊢
  exact lt_of_le_of_lt (Nat.add_le_add_right few 3) (by decide)

theorem contributes_rows {union : ThetaUnion} {rows others : List BuildRow}
    (unites : UnitesRows union rows) {side : Option Object} (shown : Shown ShowsRows others side) :
    ∃ next, UnitesRows next (rows ++ others) ∧
      Contributes thetaUnionUpdateWithSketch (.thetaUnion union) side (.thetaUnion next) := by
  cases side with
  | none =>
    cases shown
    refine ⟨union, ?_, rfl⟩
    rwa [List.append_nil]
  | some object =>
    obtain ⟨view, E, shows, samples⟩ := shown.2.shown
    obtain ⟨next, run, after⟩ := unites.join samples
    exact ⟨next, after, contributes_union shows run⟩

theorem returns_buildRow {heap : Heap} {handle : Handle} {state : Option Object}
    {sketch next : UpdateSketch} {row : BuildRow} (owns : heap.OwnsHandle handle state)
    (start : state.getD (.updateThetaSketch (UpdateSketch.new {})) = .updateThetaSketch sketch)
    (seed : sketch.table.seed = defaultSeed) (run : sketch.updateByHash row.fed = .ok next) :
    Returns (buildAggregate.accum handle row) heap handle.toList
      (Accumulated heap handle (.updateThetaSketch next)) := by
  cases row with
  | bytes data =>
    refine returns_buildAccum owns start ?_
    rw [UpdateSketch.update_eq, seed]
    exact run
  | hash value => exact returns_buildAccumByHash owns start run

theorem buildAggregate_tracks :
    buildAggregate.Tracks (fun _ => True) CollectsRows ShowsRows where
  accum := by
    intro heap handle state rows row owns shown _
    obtain ⟨sketch, same, fed⟩ : ∃ sketch,
        state.getD (.updateThetaSketch (UpdateSketch.new {})) = .updateThetaSketch sketch ∧
          FedRows sketch rows := by
      cases state with
      | none =>
        cases shown
        exact ⟨_, rfl, fedRows_new⟩
      | some object =>
        obtain ⟨sketch, rfl, _, fed⟩ := shown.2
        exact ⟨sketch, rfl, fed⟩
    obtain ⟨next, run, after⟩ := fed.accumulate row
    exact ⟨.updateThetaSketch next, ⟨next, rfl, by simp, after⟩, returns_buildRow owns same fed.seed run⟩
  collected := CollectsRows.shows
  merge := by
    intro heap left right x y rows others ownsLeft ownsRight apart some_side shownLeft shownRight
    obtain ⟨middle, unites, first⟩ := contributes_rows unitesRows_new shownLeft
    obtain ⟨final, unites, second⟩ := contributes_rows unites shownRight
    have some_row := shown_append_ne_nil ownsLeft ownsRight some_side shownLeft shownRight
    exact ⟨.thetaUnion final, unites.shows some_row,
      returns_unionMerge ownsLeft ownsRight apart some_side first second⟩
  nothing := rfl
  hop := by
    intro rows object _ shows
    obtain ⟨sketch, finished, sound, few, samples⟩ := shows.finished
    exact ⟨sketch, finished, sound.serializable few, ⟨sketch, rfl, sound, few, samples⟩,
      sketch.view, sketch.entries, rfl, samples⟩

theorem SamplesRows.entries_eq {sketch : CompactSketch} {rows : List BuildRow}
    (samples : SamplesRows sketch.view sketch.entries rows) (sound : sketch.Sound) :
    sketch.entries.toFinset = sample (fedHashes rows) sketch.theta := by
  have trims := samples.trims
  change Trims _ _ _ sketch.theta _ at trims
  have below : sample sketch.entries.toFinset sketch.theta = sketch.entries.toFinset := by
    ext hash
    rw [mem_sample, List.mem_toFinset]
    exact ⟨fun member => member.1, fun member => ⟨member, (sound.range hash member).2⟩⟩
  rw [← below, trims.kept, fedHashes_eq, sample_sample, min_eq_right sound.bound]

/-- Every plan over the rows ends in a sample of the fed hashes, and in all of them
as long as they are no more than the nominal number. -/
theorem build_samples (rows : List BuildRow) (some_row : rows ≠ []) (plan : Plan BuildRow)
    (same : plan.inputs.Perm rows) (heap : Heap) (malloc : ℕ → UInt8) :
    Returns (plan.output buildAggregate malloc) heap [] fun blob _ => ∃ theta E,
      Decodes blob ⟨false, true, computeSeedHash defaultSeed, theta, E⟩ ∧
      E.Pairwise (· < ·) ∧ E.toFinset = sample (fedHashes rows) theta ∧
      (theta = maxTheta ∨ theta ∈ fedHashes rows) ∧ (theta < maxTheta → 4096 ≤ E.length) ∧
      ((fedHashes rows).card ≤ 4096 → theta = maxTheta ∧ E = (fedHashes rows).sort (· ≤ ·) ∧
        (E.length : ℚ) / (theta / maxTheta) = (fedHashes rows).card) := by
  have reads : plan.inputs ≠ [] := fun none => some_row (List.nil_perm.mp (none ▸ same))
  refine (buildAggregate_tracks.output plan reads (fun _ _ => trivial) heap malloc).imp ?_
  rintro blob after - ⟨object, sketch, shows, finished, fits, rfl⟩
  obtain ⟨_, again, sound, _, samples⟩ := shows.finished
  cases finished.symm.trans again
  have shape : sketch = ⟨false, true, computeSeedHash defaultSeed, sketch.theta, sketch.entries⟩ := by
    rw [← sound.ordered, ← sound.seed, ← samples.fed]
    rfl
  have distinct := nodup_of_sorted sound.sorted
  have trims := samples.trims
  change Trims _ _ _ sketch.theta _ at trims
  have fed := samples.entries_eq sound
  rw [fedHashes_perm same] at fed
  refine ⟨sketch.theta, sketch.entries, shape ▸ fits.decodes malloc, sound.sorted, fed, ?_, ?_, ?_⟩
  · rcases trims.crowded with whole | ⟨lower, member, _⟩
    · exact .inl whole
    · exact .inr (by rw [← fedHashes_perm same, fedHashes_eq]; exact mem_sample.mpr ⟨member, lower⟩)
  · intro lower
    obtain ⟨_, _, full⟩ := trims.crowded.resolve_left lower.ne
    have size := congrArg Finset.card trims.kept
    rw [fed, sample_sample, min_self, ← fed, List.toFinset_card_of_nodup distinct] at size
    exact size ▸ full
  · intro few
    rw [← fedHashes_perm same, fedHashes_eq] at few
    have whole : sketch.theta = maxTheta := trims.eq_of_card_le few
    have all : sketch.entries = (fedHashes rows).sort (· ≤ ·) := by
      refine sorted_unique sound.sorted (Finset.sortedLT_sort _).pairwise ?_
      rw [Finset.sort_toFinset, fed, whole, fedHashes_eq, sample_sample, min_self]
    refine ⟨whole, all, ?_⟩
    have nonzero : (maxTheta : ℚ) ≠ 0 := by norm_num [maxTheta]
    rw [whole, div_self nonzero, div_one, all, Finset.length_sort]

theorem build_samples_five :
    Returns ((Plan.merge (.hop (fun _ => 0) (.rows [BuildRow.hash 5])) (.rows [])).output buildAggregate
        fun _ => 0) Heap.empty [] fun blob _ => ∃ theta E,
      Decodes blob ⟨false, true, computeSeedHash defaultSeed, theta, E⟩ ∧
      theta = maxTheta ∧ E = (fedHashes [.hash 5]).sort (· ≤ ·) := by
  have sampled := build_samples [.hash 5] (List.cons_ne_nil _ _)
    (.merge (.hop (fun _ => 0) (.rows [.hash 5])) (.rows [])) (List.Perm.refl _) Heap.empty fun _ => 0
  refine sampled.imp ?_
  rintro blob after - ⟨theta, E, decodes, _, _, _, _, exact⟩
  obtain ⟨whole, all, _⟩ := exact (by decide)
  exact ⟨theta, E, decodes, whole, all⟩

end ThetaSketch
