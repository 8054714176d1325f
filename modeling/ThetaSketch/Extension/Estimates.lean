import ThetaSketch.Extension.ExactExpressions
import ThetaSketch.Extension.Outputs

/-! How the estimates of the set functions relate.

Both differences, the intersection and the union of two sketches count the same
entries below the same bound, unless the union has to be cut.
-/

set_option autoImplicit false

namespace ThetaSketch

open Threshold

def estimateOf (code : HeapM Blob) : HeapM ℚ := do
  let blob ← code
  extensionSketchGetEstimate (some blob)

theorem returns_estimateOf {code : HeapM Blob} {sketch : CompactSketch} {heap : Heap}
    (returns : Returns code heap [] fun blob _ => Decodes blob sketch) :
    Returns (estimateOf code) heap [] fun estimate _ => estimate = sketch.view.getEstimate :=
  returns.andThen fun _ middle _ decodes => returns_getEstimate_decoded decodes middle

theorem CompactSketch.getEstimate_eq {sketch : CompactSketch} {part : Finset ℕ} {low : ℕ}
    (count : sketch.entries.length = part.card) (bound : part = ∅ ∨ sketch.theta = low) :
    sketch.view.getEstimate = part.card / (low / maxTheta) := by
  have retained : sketch.view.numRetained = part.card := count
  have theta : sketch.view.theta = sketch.theta := rfl
  rw [SketchView.getEstimate, SketchView.getTheta, retained, theta]
  rcases bound with rfl | rfl
  · simp
  · rfl

theorem card_parts (A B : Finset ℕ) (low : ℕ) :
    (sample (A \ B) low).card + (sample (A ∩ B) low).card + (sample (B \ A) low).card =
      (sample (A ∪ B) low).card := by
  have left : sample (A \ B) low = sample A low \ sample B low := by
    ext hash
    simp only [mem_sample, Finset.mem_sdiff]
    tauto
  have right : sample (B \ A) low = sample B low \ sample A low := by
    ext hash
    simp only [mem_sample, Finset.mem_sdiff]
    tauto
  have both : sample (A ∩ B) low = sample A low ∩ sample B low := Finset.filter_inter_distrib _ _ _
  have whole := Finset.card_union_add_card_inter (sample A low) (sample B low)
  have first := Finset.card_sdiff_add_card_inter (sample A low) (sample B low)
  have second := Finset.card_sdiff_add_card_inter (sample B low) (sample A low)
  rw [Finset.inter_comm] at second
  rw [left, right, both, sample_union]
  omega

def BoundedBlob.read {blob : Blob} {sketch : CompactSketch} (decodes : Decodes blob sketch)
    (shaped : Shaped defaultSeed sketch.view sketch.entries) : BoundedBlob where
  bytes := blob
  view := sketch.view
  entries := sketch.entries
  wrapped := decodes.wrap
  valid := shaped.plain
  bounded := shaped.valid.bound
  blank := fun flagged => (shaped.valid.empty flagged).2
  few := shaped.fits

section Parts

variable {left right : Blob} {a b : CompactSketch} {heap : Heap}

/-- An empty sketch does not lower the bound. -/
theorem leastTheta_pair (x y : BoundedBlob) :
    leastTheta [x.toValidBlob, y.toValidBlob] = min x.view.theta y.view.theta := by
  have boundX := x.bounded
  have boundY := y.bounded
  cases flagged : x.view.isEmpty with
  | true =>
    have whole := x.blank flagged
    cases flaggedToo : y.view.isEmpty with
    | true => simp [leastTheta, flagged, flaggedToo, whole, y.blank flaggedToo]
    | false => simp [leastTheta, flagged, flaggedToo, whole, boundY]
  | false =>
    cases flaggedToo : y.view.isEmpty with
    | true => simp [leastTheta, flagged, flaggedToo, y.blank flaggedToo]
    | false => simp [leastTheta, flagged, flaggedToo, boundY]

theorem unionOf_pair (x y : BoundedBlob)
    (uncut : (sample (x.entries.toFinset ∪ y.entries.toFinset) (min x.view.theta y.view.theta)).card ≤
      2 ^ defaultLgK) :
    (unionOf [x.toValidBlob, y.toValidBlob]).theta = min x.view.theta y.view.theta ∧
      (unionOf [x.toValidBlob, y.toValidBlob]).entries.length =
        (sample (x.entries.toFinset ∪ y.entries.toFinset) (min x.view.theta y.view.theta)).card := by
  have entries : allEntries [x.toValidBlob, y.toValidBlob] = x.entries.toFinset ∪ y.entries.toFinset := by
    simp [allEntries]
  have few : ((sample (x.entries.toFinset ∪ y.entries.toFinset)
      (min x.view.theta y.view.theta)).sort (· ≤ ·)).length ≤ 2 ^ defaultLgK := by
    rwa [Finset.length_sort]
  rw [unionOf_theta, unionOf_entries, leastTheta_pair, entries]
  constructor
  · rw [cutBound, List.getElem?_eq_none few, Option.getD_none]
  · rw [cutKeys, List.take_of_length_le few, Finset.length_sort]

theorem meet_pair (x y : BoundedBlob) :
    (Meet.update (some x.meet) y.meet).result.entries.length =
        (sample (x.entries.toFinset ∩ y.entries.toFinset) (min x.view.theta y.view.theta)).card ∧
      (sample (x.entries.toFinset ∩ y.entries.toFinset) (min x.view.theta y.view.theta) = ∅ ∨
        (Meet.update (some x.meet) y.meet).result.theta = min x.view.theta y.view.theta) := by
  have shared : sample (x.entries.toFinset ∩ y.entries.toFinset) (min x.view.theta y.view.theta) =
      x.entries.toFinset ∩ y.entries.toFinset := by
    refine Finset.filter_true_of_mem fun hash member => lt_min ?_ ?_
    · exact (x.valid.range hash (List.mem_toFinset.mp (Finset.mem_inter.mp member).1)).2
    · exact (y.valid.range hash (List.mem_toFinset.mp (Finset.mem_inter.mp member).2)).2
  have keys : (Meet.update (some x.meet) y.meet).keys = x.entries.toFinset ∩ y.entries.toFinset :=
    Meet.keys_update x.proper y.proper
  rw [shared, ← keys]
  refine ⟨Finset.length_sort _, ?_⟩
  cases closed : (Meet.update (some x.meet) y.meet).isEmpty with
  | true =>
    rw [(Meet.proper_update x.proper y.proper).void closed]
    exact .inl rfl
  | false => exact .inr (Meet.theta_update x.proper y.proper closed)

theorem difference_pair (first : Shaped defaultSeed a.view a.entries)
    (second : Shaped defaultSeed b.view b.entries) :
    ∃ sketch, (ThetaANotB.new defaultSeed).compute a.view b.view true = .ok sketch ∧
      sketch.entries.length =
        (sample (a.entries.toFinset \ b.entries.toFinset) (min a.theta b.theta)).card ∧
      (sample (a.entries.toFinset \ b.entries.toFinset) (min a.theta b.theta) = ∅ ∨
        sketch.theta = min a.theta b.theta) := by
  obtain ⟨entries, run, sorted, kept⟩ := ThetaANotB.compute_valid first.valid second.valid
  refine ⟨_, run, ?_⟩
  have counted := List.toFinset_card_of_nodup (nodup_of_sorted sorted)
  cases flagged : a.view.isEmpty with
  | true =>
    have nothing : ∀ low, sample (a.entries.toFinset \ b.entries.toFinset) low = ∅ := fun low => by
      rw [(first.valid.empty flagged).1, List.toFinset_nil, Finset.empty_sdiff]
      rfl
    rw [nothing] at kept
    rw [nothing, ← counted, kept]
    exact ⟨rfl, .inl rfl⟩
  | false =>
    have low : ThetaANotB.boundOf a.view b.view = min a.theta b.theta := by
      rw [ThetaANotB.boundOf, flagged]
      rfl
    rw [low] at kept
    rw [← counted, kept]
    exact ⟨rfl, .inr low⟩

/-- The entries below a bound, scaled up by the part of all hashes that lies below it. -/
def scaledUp (A : Finset ℕ) (low : ℕ) : ℚ := (sample A low).card / (low / maxTheta)

theorem estimate_union (x y : BoundedBlob)
    (uncut : (sample (x.entries.toFinset ∪ y.entries.toFinset) (min x.view.theta y.view.theta)).card ≤
      2 ^ defaultLgK) (malloc : ℕ → UInt8) (heap : Heap) :
    Returns (estimateOf (extensionSketchUnion (some x.bytes) (some y.bytes) malloc)) heap []
      fun estimate _ => estimate =
        scaledUp (x.entries.toFinset ∪ y.entries.toFinset) (min x.view.theta y.view.theta) := by
  obtain ⟨theta, count⟩ := unionOf_pair x y uncut
  have read := (unionOf_serializable [x.toValidBlob, y.toValidBlob]).decodes malloc
  have returns : Returns (extensionSketchUnion (some x.bytes) (some y.bytes) malloc) heap [] fun blob _ =>
      Decodes blob (unionOf [x.toValidBlob, y.toValidBlob]) :=
    (returns_unionOf _ _ malloc).imp fun _ _ _ same => same ▸ read
  refine (returns_estimateOf returns).imp fun estimate _ _ same => same.trans ?_
  exact CompactSketch.getEstimate_eq count (.inr theta)

theorem estimate_intersection (x y : BoundedBlob) (malloc : ℕ → UInt8) (heap : Heap) :
    Returns (estimateOf (extensionSketchIntersection (some x.bytes) (some y.bytes) malloc)) heap []
      fun estimate _ => estimate =
        scaledUp (x.entries.toFinset ∩ y.entries.toFinset) (min x.view.theta y.view.theta) := by
  obtain ⟨count, bound⟩ := meet_pair x y
  have some_input : [x, y] ≠ [] := List.cons_ne_nil _ _
  have agrees := @agrees_of_combines [x, y] _ (.join (.one x.meet) (.one y.meet))
  have read := (agrees.proper.sound.serializable (result_few some_input agrees)).decodes malloc
  have returns : Returns (extensionSketchIntersection (some x.bytes) (some y.bytes) malloc) heap []
      fun blob _ => Decodes blob (Meet.update (some x.meet) y.meet).result :=
    (returns_meetOf x y malloc).imp fun _ _ _ same => same ▸ read
  refine (returns_estimateOf returns).imp fun estimate _ _ same => same.trans ?_
  exact CompactSketch.getEstimate_eq count bound

theorem estimate_difference (decodesLeft : Decodes left a) (decodesRight : Decodes right b)
    (first : Shaped defaultSeed a.view a.entries) (second : Shaped defaultSeed b.view b.entries)
    (malloc : ℕ → UInt8) (heap : Heap) :
    Returns (estimateOf (extensionSketchANotB (some left) (some right) malloc)) heap []
      fun estimate _ => estimate =
        scaledUp (a.entries.toFinset \ b.entries.toFinset) (min a.theta b.theta) := by
  obtain ⟨sketch, run, count, bound⟩ := difference_pair first second
  have read := (aNotB_shaped first second run).serializable.decodes malloc
  have returns : Returns (extensionSketchANotB (some left) (some right) malloc) heap [] fun blob _ =>
      Decodes blob sketch :=
    (returns_extensionSketchANotB decodesLeft.wrap decodesRight.wrap run malloc).imp
      fun _ _ _ same => same ▸ read
  refine (returns_estimateOf returns).imp fun estimate _ _ same => same.trans ?_
  exact CompactSketch.getEstimate_eq count bound

theorem scaledUp_parts (A B : Finset ℕ) (low : ℕ) :
    scaledUp (A ∪ B) low = scaledUp (A \ B) low + scaledUp (A ∩ B) low + scaledUp (B \ A) low := by
  rw [scaledUp, ← card_parts, Nat.cast_add, Nat.cast_add, add_div, add_div]
  rfl

end Parts

/-- As long as the union is not cut, its estimate is the sum of those of both differences
and of the intersection, whatever the bounds of the sketches are. At the bound zero the code
divides by zero. -/
theorem estimates_partition {left right : Blob} {a b : CompactSketch} (decodesLeft : Decodes left a)
    (decodesRight : Decodes right b) (shapedLeft : Shaped defaultSeed a.view a.entries)
    (shapedRight : Shaped defaultSeed b.view b.entries) (_positive : 0 < a.theta ∧ 0 < b.theta)
    (uncut : (sample (a.entries.toFinset ∪ b.entries.toFinset) (min a.theta b.theta)).card ≤
      2 ^ defaultLgK) (malloc : ℕ → UInt8) :
    ∃ onlyLeft both onlyRight : ℚ,
      (∀ heap, Returns (estimateOf (extensionSketchANotB (some left) (some right) malloc)) heap []
        fun estimate _ => estimate = onlyLeft) ∧
      (∀ heap, Returns (estimateOf (extensionSketchIntersection (some left) (some right) malloc)) heap []
        fun estimate _ => estimate = both) ∧
      (∀ heap, Returns (estimateOf (extensionSketchANotB (some right) (some left) malloc)) heap []
        fun estimate _ => estimate = onlyRight) ∧
      ∀ heap, Returns (estimateOf (extensionSketchUnion (some left) (some right) malloc)) heap []
        fun estimate _ => estimate = onlyLeft + both + onlyRight := by
  refine ⟨_, scaledUp (a.entries.toFinset ∩ b.entries.toFinset) (min a.theta b.theta), _,
    estimate_difference decodesLeft decodesRight shapedLeft shapedRight malloc, ?_,
    estimate_difference decodesRight decodesLeft shapedRight shapedLeft malloc, ?_⟩
  · exact fun heap => estimate_intersection (.read decodesLeft shapedLeft)
      (.read decodesRight shapedRight) malloc heap
  · intro heap
    refine (estimate_union (.read decodesLeft shapedLeft) (.read decodesRight shapedRight) uncut malloc
      heap).imp fun estimate _ _ same => same.trans ?_
    rw [scaledUp_parts, min_comm b.theta]
    rfl

def CompactSketch.ofEntries (theta : ℕ) (entries : List ℕ) : CompactSketch :=
  ⟨false, true, computeSeedHash defaultSeed, theta, entries⟩

theorem estimates_partition_five :
    ∃ onlyLeft both onlyRight : ℚ, ∃ left right : Blob,
      Decodes left (.ofEntries maxTheta [5]) ∧ Decodes right (.ofEntries (maxTheta - 1) [5, 9]) ∧
      Returns (estimateOf (extensionSketchIntersection (some left) (some right) fun _ => 0)) Heap.empty []
        (fun estimate _ => estimate = both) ∧
      Returns (estimateOf (extensionSketchUnion (some left) (some right) fun _ => 0)) Heap.empty []
        fun estimate _ => estimate = onlyLeft + both + onlyRight := by
  have soundLeft : (CompactSketch.ofEntries maxTheta [5]).Sound :=
    sound_of_entries (by decide) (by decide) le_rfl
  have soundRight : (CompactSketch.ofEntries (maxTheta - 1) [5, 9]).Sound :=
    sound_of_entries (by decide) (by decide) (Nat.sub_le _ _)
  have shapedLeft := soundLeft.shaped (by decide)
  have shapedRight := soundRight.shaped (by decide)
  have decodesLeft := shapedLeft.serializable.decodes fun _ => 0
  have decodesRight := shapedRight.serializable.decodes fun _ => 0
  obtain ⟨onlyLeft, both, onlyRight, _, inBoth, _, inAny⟩ := estimates_partition decodesLeft decodesRight
    shapedLeft shapedRight (by decide) ((Finset.card_filter_le _ _).trans (by decide)) fun _ => 0
  exact ⟨onlyLeft, both, onlyRight, _, _, decodesLeft, decodesRight, inBoth _, inAny _⟩

end ThetaSketch
