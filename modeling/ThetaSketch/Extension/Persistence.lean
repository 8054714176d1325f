import ThetaSketch.Extension.Callbacks
import ThetaSketch.SetOperations.Reachable

/-! Storing a sketch and loading it again.

A blob is loaded into a sketch of its own, into a view of the bytes, or behind a
handle. Nothing is lost on the way for any sketch that a program can get hold of,
unless it comes from a sampling union that saw nothing: that one is flagged empty
with a `theta` that the bytes of an empty sketch have no room for.
-/

set_option autoImplicit false

namespace ThetaSketch

namespace CompactSketch

/-- Each way to load the bytes of the sketch shows the sketch. A handle is loaded
under the default seed, which only an empty sketch need not have. -/
structure RoundTrips (sketch : CompactSketch) (seed : UInt64) : Prop where
  deserialize : ∀ malloc, CompactSketch.deserialize (sketch.serialize2 malloc) seed = .ok sketch
  wrap : ∀ malloc dumpOnError,
    ThetaSketch.wrap (sketch.serialize2 malloc) seed dumpOnError = .ok sketch.view
  handle : (sketch.isEmpty = false → sketch.seedHash = computeSeedHash defaultSeed) →
    ∀ malloc again heap, ∃ after, (do
      let handle ← extensionSketchHandleDeserialize (sketch.serialize2 malloc)
      extensionSketchHandleSerialize handle again) heap = .ok (sketch.serialize2 again) after

variable {sketch : CompactSketch} {seed : UInt64}

theorem Serializable.reseed (fits : sketch.Serializable seed) {other : UInt64}
    (same : sketch.isEmpty = false → sketch.seedHash = computeSeedHash other) :
    sketch.Serializable other :=
  { fits with seed := same }

theorem Serializable.roundTrips (fits : sketch.Serializable seed) : sketch.RoundTrips seed where
  deserialize := fits.deserialize_eq
  wrap := fits.wrap_eq
  handle := by
    intro same malloc again heap
    have read := (fits.reseed same).deserialize_eq malloc
    have loaded := returns_handleDeserialize (sketch.serialize2_ne_nil malloc) read heap
    have stored : Returns (do
        let handle ← extensionSketchHandleDeserialize (sketch.serialize2 malloc)
        extensionSketchHandleSerialize handle again) heap [] fun blob _ =>
          blob = sketch.serialize2 again := by
      refine loaded.bind Option.toList ?_
      rintro handle middle - ⟨address, rfl, new, owns⟩
      exact ⟨fun other member => .inr ((List.mem_singleton.mp member).symm ▸ new),
        returns_handleSerialize owns rfl again⟩
    obtain ⟨blob, after, run, _, isBlob⟩ := stored
    exact ⟨after, isBlob ▸ run⟩

theorem not_roundTrips (fits : sketch.Writable seed) (empty : sketch.isEmpty = true)
    (lost : sketch.theta ≠ maxTheta) : ¬ sketch.RoundTrips seed := by
  intro roundTrips
  have read := roundTrips.deserialize fun _ => 0
  have exact : sketch.isEstimationMode = false := by simp [isEstimationMode, empty]
  rw [serialize2, deserialize_image fits, exact] at read
  have same := congrArg CompactSketch.theta (Except.ok.inj read)
  exact lost same.symm

end CompactSketch

section Unions

variable {seed : UInt64} {builder : ThetaBaseBuilder} {inputs : List CompactSketch} {state : ThetaUnion}

theorem union_roundTrips_iff (builds : builder.Builds seed)
    (shaped : ∀ input ∈ inputs, Shaped seed input.view input.entries)
    (fed : (inputs.map CompactSketch.view).foldlM ThetaUnion.update (ThetaUnion.new builder) =
      .ok state) (ordered : Bool) :
    (state.getResult ordered).RoundTrips seed ↔ Anchored builder inputs := by
  obtain ⟨pooled, flag⟩ := (Pooled.new builds.large).foldlM_update shaped fed
  constructor
  · intro roundTrips
    by_contra loose
    rw [Anchored, not_or] at loose
    have bare : state.table.isEmpty = true := by
      refine flag.mpr ⟨rfl, fun input inside => ?_⟩
      by_contra full
      exact loose.2 ⟨input, inside, by simpa using full⟩
    rw [pooled.getResult_blank bare, builds.seed] at roundTrips
    refine CompactSketch.not_roundTrips ?_ rfl loose.1 roundTrips
    exact ⟨by simp [CompactSketch.new], (startingTheta_le builder).trans_lt (by decide),
      computeSeedHash_lt _, fun _ => rfl, by simp [CompactSketch.new], fun _ => rfl⟩
  · intro anchored
    refine (pooled.getResult_shaped builds (fun bare => ?_) ordered).serializable.roundTrips
    refine anchored.resolve_right ?_
    rintro ⟨input, inside, full⟩
    rw [(flag.mp bare).2 input inside] at full
    cases full

end Unions

/-- Nothing is lost of any sketch that was derived without a sampling union that saw
nothing. -/
theorem reachable_roundTrips {seed : UInt64} {sketch : CompactSketch}
    (reachable : CompactSketch.Reachable Anchored seed sketch) : sketch.RoundTrips seed :=
  reachable.shaped.serializable.roundTrips

theorem reachable_roundTrips_sampled :
    ∃ sketch : CompactSketch, sketch.isEmpty = false ∧ sketch.RoundTrips defaultSeed := by
  obtain ⟨next, run, gathers, full, _, seed⟩ := (gathers_new { p := 1 / 2 } (by decide)).updateByHash 5
  obtain ⟨sketch, compact, _, flagged, _⟩ := gathers.compact seed full (startingTheta_le _)
  have fed : (UpdateSketch.new { p := 1 / 2 }).callAll [.updateByHash 5] = .ok next := by
    rw [UpdateSketch.callAll, List.foldlM_cons, UpdateSketch.call, run]
    rfl
  exact ⟨sketch, flagged, reachable_roundTrips (.compact true ⟨by decide, by decide, rfl⟩ fed compact)⟩

theorem sampling_union_loses_theta : ∃ sketch,
    CompactSketch.Reachable (fun _ _ => True) defaultSeed sketch ∧
      sketch = (ThetaUnion.new { p := 1 / 2 }).getResult true ∧ ¬ sketch.RoundTrips defaultSeed := by
  have half : (ThetaBaseBuilder.startingTheta { p := 1 / 2 }) ≠ maxTheta := by
    norm_num [ThetaBaseBuilder.startingTheta, startingThetaFromP, maxTheta]
    omega
  have builds : ThetaBaseBuilder.Builds { p := 1 / 2 } defaultSeed := ⟨by decide, by decide, rfl⟩
  refine ⟨_, @CompactSketch.Reachable.union _ _ _ [] _ true builds (by simp) trivial rfl, rfl, fun roundTrips => ?_⟩
  rcases (@union_roundTrips_iff _ _ [] _ builds (by simp) rfl true).mp roundTrips with
    whole | ⟨input, inside, _⟩
  · exact half whole
  · cases inside

end ThetaSketch
