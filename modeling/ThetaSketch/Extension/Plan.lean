import ThetaSketch.Extension.Callbacks
import ThetaSketch.Format.RoundTrip

/-! Ways to evaluate an aggregate.

A database accumulates rows into partial states, ships states as blobs and merges
them in some tree. What holds of every plan is proved once, from what one
accumulating step, one merge and one hop preserve.
-/

set_option autoImplicit false

namespace ThetaSketch

/-- Partial states, and what is done to them. Fresh memory may hold anything at
each hop. -/
inductive Plan (Row : Type) where
  | rows (input : List Row)
  | merge (left right : Plan Row)
  | hop (malloc : ℕ → UInt8) (plan : Plan Row)

structure Aggregate (Row : Type) where
  accum : Handle → Row → HeapM Handle
  merge : Handle → Handle → HeapM Handle

namespace Plan

variable {Row : Type}

def inputs : Plan Row → List Row
  | rows input => input
  | merge left right => left.inputs ++ right.inputs
  | hop _ plan => plan.inputs

def run (aggregate : Aggregate Row) : Plan Row → HeapM Handle
  | rows input => input.foldlM aggregate.accum extensionSketchHandleInit
  | merge left right => do
    let left ← left.run aggregate
    let right ← right.run aggregate
    aggregate.merge left right
  | hop malloc plan => do
    let handle ← plan.run aggregate
    let blob ← extensionSketchHandleSerialize handle malloc
    extensionSketchHandleDeserialize blob

def output (aggregate : Aggregate Row) (plan : Plan Row) (malloc : ℕ → UInt8) : HeapM Blob := do
  let handle ← plan.run aggregate
  extensionSketchHandleSerialize handle malloc

end Plan

/-- What a state shows of the rows behind it; no handle means no rows. -/
def Shown {Row : Type} (shows : List Row → Object → Prop) (inputs : List Row) :
    Option Object → Prop
  | none => inputs = []
  | some object => inputs ≠ [] ∧ shows inputs object

/-- The steps of an aggregate keep track of the rows. `collects` is about states
that rows are accumulated into, `shows` about all states. -/
structure Aggregate.Tracks {Row : Type} (aggregate : Aggregate Row) (accepts : Row → Prop)
    (collects shows : List Row → Object → Prop) : Prop where
  accum : ∀ {heap handle state inputs row}, Heap.OwnsHandle heap handle state →
    Shown collects inputs state → accepts row →
    ∃ object, collects (inputs ++ [row]) object ∧
      Returns (aggregate.accum handle row) heap handle.toList (Accumulated heap handle object)
  collected : ∀ {inputs object}, collects inputs object → shows inputs object
  merge : ∀ {heap left right x y inputs others}, Heap.OwnsHandle heap left x →
    Heap.OwnsHandle heap right y → (∀ address ∈ left, address ∉ right) → (left ≠ none ∨ right ≠ none) →
    Shown shows inputs x → Shown shows others y →
    ∃ object, shows (inputs ++ others) object ∧
      Returns (aggregate.merge left right) heap (left.toList ++ right.toList) fun handle after =>
        ∃ address, handle = some address ∧ heap.next ≤ address ∧ after.Owns address object
  nothing : aggregate.merge none none = pure none
  hop : ∀ {inputs object}, inputs ≠ [] → shows inputs object →
    ∃ sketch, object.finished = .ok sketch ∧ sketch.Serializable defaultSeed ∧
      shows inputs (.compactThetaSketch sketch)

section Tracks

variable {Row : Type} {aggregate : Aggregate Row} {accepts : Row → Prop}
  {collects shows : List Row → Object → Prop}

def Tracked (shows : List Row → Object → Prop) (inputs : List Row) (before : Heap) (handle : Handle)
    (after : Heap) : Prop :=
  ∃ state, after.OwnsHandle handle state ∧ (∀ address ∈ handle, before.next ≤ address) ∧
    Shown shows inputs state

theorem shown_append_ne_nil {heap : Heap} {left right : Handle} {x y : Option Object}
    {inputs others : List Row} (ownsLeft : heap.OwnsHandle left x) (ownsRight : heap.OwnsHandle right y)
    (some_side : left ≠ none ∨ right ≠ none) (shownLeft : Shown shows inputs x)
    (shownRight : Shown shows others y) : inputs ++ others ≠ [] := by
  intro none_read
  obtain ⟨noLeft, noRight⟩ := List.append_eq_nil_iff.mp none_read
  rcases some_side with there | there
  · cases ownsLeft with
    | none => exact there rfl
    | some => exact shownLeft.1 noLeft
  · cases ownsRight with
    | none => exact there rfl
    | some => exact shownRight.1 noRight

theorem Aggregate.Tracks.rows (tracks : aggregate.Tracks accepts collects shows) (more : List Row)
    (accepted : ∀ row ∈ more, accepts row) {heap base : Heap} {handle : Handle} {inputs : List Row}
    (tracked : Tracked collects inputs base handle heap) (below : base.next ≤ heap.next) :
    Returns (more.foldlM aggregate.accum handle) heap handle.toList fun handle after =>
      Tracked collects (inputs ++ more) base handle after := by
  induction more generalizing heap handle inputs with
  | nil =>
    rw [List.append_nil]
    exact .pure tracked
  | cons row rest ih =>
    obtain ⟨state, owns, new, shown⟩ := tracked
    obtain ⟨object, collected, step⟩ := tracks.accum owns shown (accepted row List.mem_cons_self)
    rw [List.foldlM_cons]
    refine step.bind (fun handle => handle.toList) ?_
    rintro _ middle frame ⟨address, rfl, place, there⟩
    refine ⟨by simpa using place, ?_⟩
    have tracked : Tracked collects (inputs ++ [row]) base (some address) middle := by
      refine ⟨some object, .some there, ?_, by simp, collected⟩
      rintro visited member
      cases member
      rcases place with old | fresh
      · exact new address (by simpa using old)
      · exact below.trans fresh
    have tail := ih (fun other member => accepted other (List.mem_cons_of_mem _ member)) tracked
      (below.trans frame.next)
    rwa [List.append_assoc, List.singleton_append] at tail

theorem Aggregate.Tracks.plan (tracks : aggregate.Tracks accepts collects shows) (plan : Plan Row)
    (accepted : ∀ row ∈ plan.inputs, accepts row) (heap : Heap) :
    Returns (plan.run aggregate) heap [] (Tracked shows plan.inputs heap) := by
  induction plan generalizing heap with
  | rows input =>
    have start : Tracked collects [] heap none heap :=
      ⟨none, .none, by rintro _ ⟨⟩, rfl⟩
    refine (tracks.rows input accepted start (Nat.le_refl _)).imp ?_
    rintro handle after - ⟨state, owns, new, shown⟩
    refine ⟨state, owns, new, ?_⟩
    cases state with
    | none => exact shown
    | some object => exact ⟨shown.1, tracks.collected shown.2⟩
  | merge left right ihLeft ihRight =>
    refine (ihLeft (fun row member => accepted row (List.mem_append_left _ member)) heap).bind
      (fun left => left.toList) ?_
    rintro left first frame ⟨x, ownsLeft, newLeft, shownLeft⟩
    refine ⟨fun address member => .inr (newLeft address (by simpa using member)), ?_⟩
    have second : Returns (right.run aggregate) first left.toList fun handle after =>
        Frame [] first after ∧ Tracked shows right.inputs first handle after :=
      (ihRight (fun row member => accepted row (List.mem_append_right _ member)) first).weaken
        (by simp) fun _ _ step tracked => ⟨step, tracked⟩
    refine second.bind (fun right => left.toList ++ right.toList) ?_
    rintro right middle - ⟨step, y, ownsRight, newRight, shownRight⟩
    refine ⟨fun address member => ?_, ?_⟩
    · rcases List.mem_append.mp member with old | new
      · exact .inl old
      · exact .inr (newRight address (by simpa using new))
    have below := ownsLeft.below
    have ownsLeft := ownsLeft.frame step (by simp)
    -- The right side was run later, so its cells lie beyond those of the left side.
    have apart : ∀ address ∈ left, address ∉ right := by
      intro address inLeft inRight
      have := newRight address inRight
      have := below address inLeft
      omega
    -- Without rows on either side `merge` returns null.
    by_cases sides : left = none ∧ right = none
    · obtain ⟨rfl, rfl⟩ := sides
      cases ownsLeft
      cases ownsRight
      rw [tracks.nothing]
      refine .pure ⟨none, .none, by rintro _ ⟨⟩, ?_⟩
      exact List.append_eq_nil_iff.mpr ⟨shownLeft, shownRight⟩
    · have some_side : left ≠ none ∨ right ≠ none := by tauto
      obtain ⟨object, shown, merged⟩ :=
        tracks.merge ownsLeft ownsRight apart some_side shownLeft shownRight
      refine merged.imp ?_
      rintro _ after - ⟨address, rfl, new, there⟩
      refine ⟨some object, .some there, ?_,
        shown_append_ne_nil ownsLeft ownsRight some_side shownLeft shownRight, shown⟩
      rintro visited member
      cases member
      exact (frame.next.trans step.next).trans new
  | hop malloc plan ih =>
    refine (ih accepted heap).bind (fun handle => handle.toList) ?_
    rintro handle first frame ⟨state, owns, new, shown⟩
    refine ⟨fun address member => .inr (new address (by simpa using member)), ?_⟩
    cases owns with
    | none =>
      exact .pure ⟨none, .none, by rintro _ ⟨⟩, shown⟩
    | @some address object owns =>
      obtain ⟨some_input, shown⟩ := shown
      -- Between two nodes the state is written out and read back.
      obtain ⟨sketch, finished, fits, kept⟩ := tracks.hop some_input shown
      refine (returns_handleSerialize owns finished malloc).andThen ?_
      rintro _ second secondFrame rfl
      have read := fits.deserialize_eq malloc
      refine (returns_handleDeserialize (sketch.serialize2_ne_nil malloc) read second).weaken
        (by simp) ?_
      rintro _ after last ⟨fresh, rfl, place, there⟩
      refine ⟨_, .some there, ?_, some_input, kept⟩
      rintro visited member
      cases member
      exact (frame.next.trans secondFrame.next).trans place

theorem Aggregate.Tracks.written (tracks : aggregate.Tracks accepts collects shows)
    {holds : List Row → Object → Prop} (imp : ∀ inputs object, holds inputs object → shows inputs object)
    {plan : Plan Row} (some_input : plan.inputs ≠ []) {heap : Heap}
    (run : Returns (plan.run aggregate) heap [] (Tracked holds plan.inputs heap)) (malloc : ℕ → UInt8) :
    Returns (plan.output aggregate malloc) heap [] fun blob _ => ∃ object sketch,
      holds plan.inputs object ∧ object.finished = .ok sketch ∧ sketch.Serializable defaultSeed ∧
      blob = sketch.serialize2 malloc := by
  refine run.bind (fun handle => handle.toList) ?_
  rintro handle middle - ⟨state, owns, new, shown⟩
  refine ⟨fun address member => .inr (new address (by simpa using member)), ?_⟩
  cases owns with
  | none => exact absurd shown some_input
  | @some address object owns =>
    obtain ⟨_, shown⟩ := shown
    obtain ⟨sketch, finished, fits, _⟩ := tracks.hop some_input (imp _ _ shown)
    refine (returns_handleSerialize owns finished malloc).imp ?_
    rintro blob after - rfl
    exact ⟨object, sketch, shown, finished, fits, rfl⟩

theorem Aggregate.Tracks.output (tracks : aggregate.Tracks accepts collects shows) (plan : Plan Row)
    (some_input : plan.inputs ≠ []) (accepted : ∀ row ∈ plan.inputs, accepts row) (heap : Heap)
    (malloc : ℕ → UInt8) :
    Returns (plan.output aggregate malloc) heap [] fun blob _ => ∃ object sketch,
      shows plan.inputs object ∧ object.finished = .ok sketch ∧ sketch.Serializable defaultSeed ∧
      blob = sketch.serialize2 malloc :=
  tracks.written (fun _ _ => id) some_input (tracks.plan plan accepted heap) malloc

/-- A plan without merges and hops ends in the very state that collected the rows. -/
theorem Aggregate.Tracks.output_rows (tracks : aggregate.Tracks accepts collects shows)
    {input : List Row} (some_input : input ≠ []) (accepted : ∀ row ∈ input, accepts row) (heap : Heap)
    (malloc : ℕ → UInt8) :
    Returns ((Plan.rows input).output aggregate malloc) heap [] fun blob _ => ∃ object sketch,
      collects input object ∧ object.finished = .ok sketch ∧ sketch.Serializable defaultSeed ∧
      blob = sketch.serialize2 malloc := by
  have start : Tracked collects [] heap none heap :=
    ⟨none, .none, by rintro _ ⟨⟩, rfl⟩
  have run := tracks.rows input accepted start (Nat.le_refl _)
  exact @Aggregate.Tracks.written _ _ _ _ _ tracks _ (fun _ _ => tracks.collected) (.rows input)
    some_input _ run malloc

end Tracks

def HeapM.outcome {A : Type} (code : HeapM A) : Run A :=
  match code Heap.empty with
  | .ok value _ => .ok value
  | .error exit _ => .error exit

theorem Returns.outcome {A : Type} {code : HeapM A} {owned : List ℕ} {post : A → Heap → Prop}
    (returns : Returns code Heap.empty owned post) :
    ∃ value after, code.outcome = .ok value ∧ post value after := by
  obtain ⟨value, after, run, _, holds⟩ := returns
  exact ⟨value, after, by rw [HeapM.outcome, run], holds⟩

end ThetaSketch
