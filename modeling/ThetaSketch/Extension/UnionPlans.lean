import ThetaSketch.Extension.Plan

/-! The union aggregate returns the same sketch for every plan.

A union state that saw some inputs may have been cut before, at any moment; it
stands for them all the same, because `Trims` relates what it kept to what it saw.
-/

set_option autoImplicit false

namespace ThetaSketch

open Threshold

/-- A blob that decodes to a valid sketch. -/
structure ValidBlob where
  bytes : Blob
  view : SketchView
  entries : List ℕ
  wrapped : wrap bytes defaultSeed false = .ok view
  valid : view.Valid entries
  bounded : view.theta ≤ maxTheta

def ValidBlob.written (sketch : CompactSketch) (sound : sketch.Sound)
    (few : sketch.entries.length + 3 < 2 ^ 29) (malloc : ℕ → UInt8) : ValidBlob where
  bytes := sketch.serialize2 malloc
  view := sketch.view
  entries := sketch.entries
  wrapped := (sound.serializable few).wrap_eq malloc false
  valid := sound.valid
  bounded := sound.bound

def unionAggregate : Aggregate ValidBlob where
  accum := fun handle input => extensionSketchHandleUnionAccum handle (some input.bytes)
  merge := extensionSketchHandleUnionMerge

/-! What the inputs amount to. -/

def allEmpty (inputs : List ValidBlob) : Bool := inputs.all fun input => input.view.isEmpty

def leastTheta (inputs : List ValidBlob) : ℕ :=
  ((inputs.filter fun input => !input.view.isEmpty).map fun input => input.view.theta).foldr min maxTheta

def allEntries (inputs : List ValidBlob) : Finset ℕ :=
  (inputs.flatMap fun input => input.entries).toFinset

/-- The union of all inputs: their entries below the smallest `theta`, the first
`k` of them if there are more. -/
def unionOf (inputs : List ValidBlob) : CompactSketch :=
  let k := 2 ^ defaultLgK
  let theta0 := leastTheta inputs
  let U := (sample (allEntries inputs) theta0).sort (· ≤ ·)
  { isEmpty := allEmpty inputs
    isOrdered := true
    seedHash := computeSeedHash defaultSeed
    theta := if U.length ≤ k then theta0 else U.getD k theta0
    entries := if U.length ≤ k then U else U.take k }

section Inputs

variable (inputs others : List ValidBlob)

theorem allEmpty_append : allEmpty (inputs ++ others) = (allEmpty inputs && allEmpty others) :=
  List.all_append

theorem foldr_min_append (first second : List ℕ) (bound : ℕ) :
    (first ++ second).foldr min bound = min (first.foldr min bound) (second.foldr min bound) := by
  induction first with
  | nil =>
    have below : second.foldr min bound ≤ bound := by
      induction second with
      | nil => exact le_rfl
      | cons theta rest ih => exact (min_le_right _ _).trans ih
    rw [List.nil_append, List.foldr_nil, min_eq_right below]
  | cons theta rest ih => rw [List.cons_append, List.foldr_cons, List.foldr_cons, ih, min_assoc]

theorem leastTheta_append :
    leastTheta (inputs ++ others) = min (leastTheta inputs) (leastTheta others) := by
  rw [leastTheta, List.filter_append, List.map_append, foldr_min_append]
  rfl

theorem allEntries_append : allEntries (inputs ++ others) = allEntries inputs ∪ allEntries others := by
  rw [allEntries, List.flatMap_append, List.toFinset_append]
  rfl

theorem leastTheta_le : leastTheta inputs ≤ maxTheta := by
  have all := leastTheta_append inputs []
  rw [List.append_nil] at all
  rw [all]
  exact min_le_right _ _

variable {inputs others}

theorem unionOf_perm (same : inputs.Perm others) : unionOf inputs = unionOf others := by
  have empties : allEmpty inputs = allEmpty others := same.all_eq
  have thetas : leastTheta inputs = leastTheta others :=
    ((same.filter _).map _).foldr_eq _
  have entries : allEntries inputs = allEntries others :=
    List.toFinset_eq_of_perm _ _ (same.flatMap_right _)
  rw [unionOf, unionOf, empties, thetas, entries]

theorem unionOf_theta :
    (unionOf inputs).theta = cutBound (2 ^ defaultLgK) (leastTheta inputs) (allEntries inputs) := by
  simp only [unionOf, cutBound]
  split_ifs with few
  · rw [List.getElem?_eq_none few, Option.getD_none]
  · rw [List.getD_eq_getElem?_getD]

theorem unionOf_entries :
    (unionOf inputs).entries = cutKeys (2 ^ defaultLgK) (leastTheta inputs) (allEntries inputs) := by
  simp only [unionOf, cutKeys]
  split_ifs with few
  · rw [List.take_of_length_le few]
  · rfl

theorem mem_allEntries {hash : ℕ} :
    hash ∈ allEntries inputs ↔ ∃ input ∈ inputs, hash ∈ input.entries := by
  simp [allEntries]

theorem zero_notMem_allEntries (inputs : List ValidBlob) : 0 ∉ allEntries inputs := by
  intro member
  obtain ⟨input, _, inside⟩ := mem_allEntries.mp member
  exact absurd (input.valid.range 0 inside).1 (lt_irrefl 0)

/-- Inputs that are all flagged empty have no entries and no `theta` of their own. -/
theorem blank_of_allEmpty (blank : allEmpty inputs = true) :
    leastTheta inputs = maxTheta ∧ allEntries inputs = ∅ := by
  rw [allEmpty, List.all_eq_true] at blank
  constructor
  · rw [leastTheta, List.filter_eq_nil_iff.mpr]
    · rfl
    · intro input member
      simp [blank input member]
  · ext hash
    simp only [mem_allEntries, Finset.notMem_empty, iff_false, not_exists, not_and]
    intro input member
    rw [input.valid.empty (blank input member)]
    exact List.not_mem_nil

theorem unionOf_sound (inputs : List ValidBlob) : (unionOf inputs).Sound where
  sorted := unionOf_entries ▸ cutKeys_pairwise _ _ _
  range := by
    intro hash member
    rw [unionOf_entries, mem_cutKeys] at member
    obtain ⟨input, _, inside⟩ := mem_allEntries.mp member.1
    exact ⟨(input.valid.range hash inside).1, unionOf_theta ▸ member.2⟩
  bound := unionOf_theta ▸ (cutBound_le _ _ _).trans (leastTheta_le inputs)
  ordered := rfl
  seed := rfl
  empty := by
    intro flagged
    obtain ⟨whole, none⟩ := blank_of_allEmpty flagged
    have nothing : sample (∅ : Finset ℕ) maxTheta = ∅ := rfl
    rw [unionOf_theta, unionOf_entries, whole, none, cutBound, cutKeys, nothing]
    simp

theorem length_unionOf_le (inputs : List ValidBlob) :
    (unionOf inputs).entries.length ≤ 2 ^ defaultLgK :=
  unionOf_entries ▸ length_cutKeys_le _ _ _

end Inputs

/-! States of a union. -/

/-- The state stands for the inputs, whatever was cut on the way. -/
structure Carries (union : ThetaUnion) (inputs : List ValidBlob) : Prop where
  unites : Unites union (leastTheta inputs) (allEntries inputs)
  isEmpty : union.table.isEmpty = allEmpty inputs
  nominal : union.table.lgNomSize = defaultLgK

namespace Carries

variable {union : ThetaUnion} {inputs : List ValidBlob}

theorem new : Carries (ThetaUnion.new {}) [] where
  unites := unites_new {} (by decide) rfl rfl
  isEmpty := rfl
  nominal := rfl

/-- A sketch that was trimmed out of further inputs brings them in. -/
theorem update (carries : Carries union inputs) (others : List ValidBlob) {view : SketchView}
    {E : List ℕ} (valid : view.Valid E) (flag : view.isEmpty = allEmpty others)
    (trims : view.isEmpty = false →
      Trims (2 ^ defaultLgK) (leastTheta others) (allEntries others) view.theta E.toFinset) :
    ∃ next, union.update view = .ok next ∧ Carries next (inputs ++ others) := by
  cases flagged : view.isEmpty with
  | true =>
    -- An empty sketch is passed over.
    obtain ⟨whole, none⟩ := blank_of_allEmpty (flag.symm.trans flagged)
    refine ⟨union, Unites.update_empty flagged, ?_, ?_, carries.nominal⟩
    · rw [leastTheta_append, allEntries_append, whole, none, Finset.union_empty,
        min_eq_left (leastTheta_le inputs)]
      exact carries.unites
    · rw [allEmpty_append, ← flag, flagged, Bool.and_true, carries.isEmpty]
  | false =>
    have step := trims flagged
    rw [← carries.nominal] at step
    obtain ⟨next, run, unites, full, nominal⟩ :=
      carries.unites.update_trimmed valid flagged (zero_notMem_allEntries others) step
    refine ⟨next, run, ?_, ?_, nominal.trans carries.nominal⟩
    · rwa [leastTheta_append, allEntries_append]
    · rw [allEmpty_append, ← flag, flagged, Bool.and_false, full]

theorem accumulate (carries : Carries union inputs) (input : ValidBlob) :
    ∃ next, union.update input.view = .ok next ∧ Carries next (inputs ++ [input]) := by
  refine carries.update [input] input.valid (by simp [allEmpty]) fun full => ?_
  have entries : allEntries [input] = input.entries.toFinset := by simp [allEntries]
  have least : leastTheta [input] = input.view.theta := by simp [leastTheta, full, input.bounded]
  rw [entries, least]
  exact Trims.refl _ _ _

theorem join (carries : Carries union inputs) (others : List ValidBlob) :
    ∃ next, union.update (unionOf others).view = .ok next ∧ Carries next (inputs ++ others) := by
  refine carries.update others (unionOf_sound others).valid rfl fun _ => ?_
  have trims := (isCut_cut (2 ^ defaultLgK) (leastTheta others) (allEntries others)).trims
  rwa [← unionOf_theta, ← unionOf_entries] at trims

theorem getResult_eq (carries : Carries union inputs) : union.getResult true = unionOf inputs := by
  rw [carries.unites.getResult_eq, carries.nominal, carries.isEmpty, ← unionOf_theta,
    ← unionOf_entries]
  rfl

end Carries

/-! Plans. -/

def CollectsUnion (inputs : List ValidBlob) (object : Object) : Prop :=
  ∃ union, object = .thetaUnion union ∧ Carries union inputs

def ShowsUnion (inputs : List ValidBlob) (object : Object) : Prop :=
  object.finished = .ok (unionOf inputs) ∧ object.shown = .ok (unionOf inputs).view

theorem CollectsUnion.shows {inputs : List ValidBlob} {object : Object}
    (collects : CollectsUnion inputs object) : ShowsUnion inputs object := by
  obtain ⟨union, rfl, carries⟩ := collects
  have finished : (Object.thetaUnion union).finished = .ok (unionOf inputs) :=
    congrArg Except.ok carries.getResult_eq
  refine ⟨finished, ?_⟩
  change (Object.thetaUnion union).finished.map CompactSketch.view = _
  rw [finished]
  rfl

theorem unionOf_serializable (inputs : List ValidBlob) :
    (unionOf inputs).Serializable defaultSeed := by
  have few := length_unionOf_le inputs
  exact (unionOf_sound inputs).serializable (lt_of_le_of_lt (Nat.add_le_add_right few 3) (by decide))

theorem contributes_shown {union : ThetaUnion} {inputs others : List ValidBlob}
    (carries : Carries union inputs) {side : Option Object} (shown : Shown ShowsUnion others side) :
    ∃ next, Carries next (inputs ++ others) ∧
      Contributes thetaUnionUpdateWithSketch (.thetaUnion union) side (.thetaUnion next) := by
  cases side with
  | none =>
    cases shown
    refine ⟨union, ?_, rfl⟩
    rwa [List.append_nil]
  | some object =>
    obtain ⟨next, run, after⟩ := carries.join others
    exact ⟨next, after, contributes_union shown.2.2 run⟩

theorem unionAggregate_tracks :
    unionAggregate.Tracks (fun _ => True) CollectsUnion ShowsUnion where
  accum := by
    intro heap handle state inputs row owns shown _
    -- A handle that is not there is a fresh union.
    obtain ⟨union, same, carries⟩ :
        CollectsUnion inputs (state.getD (.thetaUnion (ThetaUnion.new {}))) := by
      cases state with
      | none =>
        cases shown
        exact ⟨_, rfl, Carries.new⟩
      | some object => exact shown.2
    obtain ⟨next, run, after⟩ := carries.accumulate row
    exact ⟨.thetaUnion next, ⟨next, rfl, after⟩, returns_unionAccum owns same row.wrapped run⟩
  collected := CollectsUnion.shows
  merge := by
    intro heap left right x y inputs others ownsLeft ownsRight apart some_side shownLeft shownRight
    obtain ⟨middle, carries, first⟩ := contributes_shown Carries.new shownLeft
    obtain ⟨final, carries, second⟩ := contributes_shown carries shownRight
    exact ⟨.thetaUnion final, CollectsUnion.shows ⟨final, rfl, carries⟩,
      returns_unionMerge ownsLeft ownsRight apart some_side first second⟩
  nothing := rfl
  hop := by
    intro inputs object _ shows
    exact ⟨unionOf inputs, shows.1, unionOf_serializable inputs, rfl, rfl⟩

/-- Every plan over the inputs, in any order, ends in their union, and so does the
scalar function on two of them. -/
theorem union_canonical (inputs : List ValidBlob) (heap : Heap) (malloc : ℕ → UInt8) :
    (∀ plan : Plan ValidBlob, inputs ≠ [] → plan.inputs.Perm inputs →
      Returns (plan.output unionAggregate malloc) heap [] fun blob _ =>
        Decodes blob (unionOf inputs)) ∧
    ∀ left right : ValidBlob, inputs = [left, right] →
      Returns (extensionSketchUnion (some left.bytes) (some right.bytes) malloc) heap []
        fun blob _ => Decodes blob (unionOf inputs) := by
  constructor
  · intro plan some_input same
    have reads : plan.inputs ≠ [] := fun none => some_input (List.nil_perm.mp (none ▸ same))
    refine (unionAggregate_tracks.output plan reads (fun _ _ => trivial) heap malloc).imp ?_
    rintro blob after - ⟨object, sketch, shows, finished, fits, rfl⟩
    cases finished.symm.trans shows.1
    rw [← unionOf_perm same]
    exact fits.decodes malloc
  · rintro left right rfl
    obtain ⟨first, runLeft, carries⟩ := Carries.new.accumulate left
    obtain ⟨second, runRight, carries⟩ := carries.accumulate right
    refine (returns_extensionSketchUnion left.wrapped right.wrapped runLeft runRight malloc).imp ?_
    rintro blob after - rfl
    rw [carries.getResult_eq]
    exact (unionOf_serializable _).decodes malloc

theorem sound_of_entries {theta : ℕ} {entries : List ℕ} (sorted : entries.Pairwise (· < ·))
    (range : ∀ hash ∈ entries, 0 < hash ∧ hash < theta) (bound : theta ≤ maxTheta) :
    CompactSketch.Sound ⟨false, true, computeSeedHash defaultSeed, theta, entries⟩ :=
  ⟨sorted, range, bound, rfl, rfl, by rintro ⟨⟩⟩

def fiveBlob : ValidBlob :=
  .written ⟨false, true, computeSeedHash defaultSeed, maxTheta, [5]⟩
    (sound_of_entries (by decide) (by decide) le_rfl) (by decide) fun _ => 0

theorem union_canonical_five :
    Returns ((Plan.merge (.rows [fiveBlob]) (.hop (fun _ => 0) (.rows [fiveBlob]))).output
        unionAggregate fun _ => 0) Heap.empty [] (fun blob _ =>
      Decodes blob (unionOf [fiveBlob, fiveBlob])) ∧
    Returns (extensionSketchUnion (some fiveBlob.bytes) (some fiveBlob.bytes) fun _ => 0) Heap.empty []
      fun blob _ => Decodes blob (unionOf [fiveBlob, fiveBlob]) := by
  obtain ⟨aggregate, scalar⟩ := union_canonical [fiveBlob, fiveBlob] Heap.empty fun _ => 0
  exact ⟨aggregate _ (List.cons_ne_nil _ _) (List.Perm.refl _), scalar _ _ rfl⟩

end ThetaSketch
