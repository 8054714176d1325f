import Mathlib.Data.List.ReduceOption
import ThetaSketch.Extension.EmptyIsNull
import ThetaSketch.Extension.Expression

/-! Whole query expressions in the family of functions for which no bytes are NULL.

An aggregate that sees NULL only returns NULL, and a set function passes over it; but a
difference needs both of its arguments and an intersection one of them. So the
meaning of an expression is a set, NULL or the exit with which its evaluation ends.
-/

set_option autoImplicit false

namespace ThetaSketch

/-! Code that may fail. -/

/-- The code exits as the run does, or it returns what stands for the result of the run. -/
def Mirrors {A M : Type} (code : HeapM A) (heap : Heap) (owned : List ℕ) (run : Run M)
    (stands : M → A → Heap → Prop) : Prop :=
  match run with
  | .ok meaning => Returns code heap owned (stands meaning)
  | .error exit => ∃ after, code heap = .error exit after

section Mirrors

variable {A B M N : Type} {code : HeapM A} {heap : Heap} {owned : List ℕ} {run : Run M}
  {stands : M → A → Heap → Prop}

theorem Mirrors.bind {next : A → HeapM B} {later : M → Run N} {final : N → B → Heap → Prop}
    (mirrors : Mirrors code heap owned run stands) (more : A → List ℕ)
    (rest : ∀ meaning value middle, Frame owned heap middle → stands meaning value middle →
      (∀ address ∈ more value, address ∈ owned ∨ heap.next ≤ address) ∧
        Mirrors (next value) middle (more value) (later meaning) final) :
    Mirrors (code >>= next) heap owned (run >>= later) final := by
  cases run with
  | error exit =>
    obtain ⟨after, failed⟩ := mirrors
    refine ⟨after, ?_⟩
    simp only [Bind.bind, EStateM.bind, failed]
  | ok meaning =>
    obtain ⟨value, middle, done, frame, holds⟩ := mirrors
    obtain ⟨new, rest⟩ := rest meaning value middle frame holds
    have joined : (code >>= next) heap = next value middle := by
      simp only [Bind.bind, EStateM.bind, done]
    rw [Run.ok_bind]
    cases ends : later meaning with
    | error exit =>
      rw [ends] at rest
      obtain ⟨after, failed⟩ := rest
      exact ⟨after, joined.trans failed⟩
    | ok result =>
      rw [ends] at rest
      obtain ⟨value, after, returned, step, holds⟩ := rest
      exact ⟨value, after, joined.trans returned, frame.trans step new, holds⟩

theorem Mirrors.andReturns {next : A → HeapM B} {final : M → B → Heap → Prop}
    (mirrors : Mirrors code heap owned run stands) (more : A → List ℕ)
    (rest : ∀ meaning value middle, Frame owned heap middle → stands meaning value middle →
      (∀ address ∈ more value, address ∈ owned ∨ heap.next ≤ address) ∧
        Returns (next value) middle (more value) (final meaning)) :
    Mirrors (code >>= next) heap owned run final := by
  have same : (run >>= fun meaning => (.ok meaning : Run M)) = run := by cases run <;> rfl
  rw [← same]
  exact mirrors.bind more rest

theorem Returns.andMirrors {next : A → HeapM B} {later : Run N} {post : A → Heap → Prop}
    {final : N → B → Heap → Prop} (returns : Returns code heap owned post) (more : A → List ℕ)
    (rest : ∀ value middle, Frame owned heap middle → post value middle →
      (∀ address ∈ more value, address ∈ owned ∨ heap.next ≤ address) ∧
        Mirrors (next value) middle (more value) later final) :
    Mirrors (code >>= next) heap owned later final := by
  have mirrors : Mirrors code heap owned (.ok ()) fun _ => post := returns
  exact @Mirrors.bind _ _ _ _ _ _ _ _ _ _ (fun _ => later) _ mirrors more fun _ => rest

theorem Mirrors.imp {other : M → A → Heap → Prop} (mirrors : Mirrors code heap owned run stands)
    (imp : ∀ meaning value after, Frame owned heap after → stands meaning value after →
      other meaning value after) : Mirrors code heap owned run other := by
  cases run with
  | error exit => exact mirrors
  | ok meaning => exact Returns.imp mirrors (imp meaning)

theorem Mirrors.keep (mirrors : Mirrors code heap [] run stands) (owned : List ℕ) :
    Mirrors code heap owned run fun meaning value after =>
      Frame [] heap after ∧ stands meaning value after := by
  cases run with
  | error exit => exact mirrors
  | ok meaning => exact Returns.weaken mirrors (by simp) fun _ _ frame holds => ⟨frame, holds⟩

theorem Mirrors.map {other : N → A → Heap → Prop} (mirrors : Mirrors code heap owned run stands)
    (image : M → N) (imp : ∀ meaning value after, stands meaning value after →
      other (image meaning) value after) :
    Mirrors code heap owned (run >>= fun meaning => pure (image meaning)) other := by
  cases run with
  | error exit => exact mirrors
  | ok meaning => exact Returns.imp mirrors fun value after _ => imp meaning value after

end Mirrors

/-! Aggregates that pass over NULL. -/

def Aggregate.skipping {Inner : Type} (aggregate : Aggregate Inner) (handle : Handle) :
    Option Inner → HeapM Handle
  | none => pure handle
  | some input => aggregate.accum handle input

/-- Accumulating a row exits as its meaning does, or it passes over NULL, or it accumulates an
input of that meaning. -/
def FeedsRow {Row Inner M : Type} (aggregate : Aggregate Inner) (accepts : Inner → Prop)
    (means : Inner → M) (accum : Handle → Row → HeapM Handle) (meaning : Row → Run (Option M))
    (row : Row) : Prop :=
  ∀ heap, match meaning row with
    | .error exit => ∀ handle, ∃ after, accum handle row heap = .error exit after
    | .ok value => ∃ (input : Option Inner) (middle : Heap), input.map means = value ∧
        (∀ inner ∈ input, accepts inner) ∧ Frame [] heap middle ∧
        ∀ handle, accum handle row heap = aggregate.skipping handle input middle

section Skipping

variable {Row Inner M : Type} {aggregate : Aggregate Inner} {accepts : Inner → Prop}
  {collects shows : List Inner → Object → Prop} {means : Inner → M}
  {accum : Handle → Row → HeapM Handle} {meaning : Row → Run (Option M)}

theorem Returns.after_frame {A : Type} {code other : HeapM A} {heap middle : Heap} {owned : List ℕ}
    {post : A → Heap → Prop} (same : other heap = code middle) (frame : Frame [] heap middle)
    (returns : Returns code middle owned post) : Returns other heap owned post := by
  obtain ⟨value, after, run, step, holds⟩ := returns
  refine ⟨value, after, same.trans run, ?_, holds⟩
  exact Frame.trans ((Frame.refl owned heap).trans frame (by simp)) step fun _ => Or.inl

theorem Tracked.new {before heap : Heap} {handle : Handle} {inputs : List Inner}
    (tracked : Tracked shows inputs before handle heap) : ∀ address ∈ handle, before.next ≤ address := by
  obtain ⟨_, _, new, _⟩ := tracked
  exact new

theorem Tracked.below {before heap : Heap} {handle : Handle} {inputs : List Inner}
    (tracked : Tracked shows inputs before handle heap) : ∀ address ∈ handle, address < heap.next := by
  obtain ⟨_, owns, _⟩ := tracked
  exact owns.below

theorem Tracked.since {before later heap : Heap} {handle : Handle} {inputs : List Inner}
    (tracked : Tracked shows inputs later handle heap) (earlier : before.next ≤ later.next) :
    Tracked shows inputs before handle heap := by
  obtain ⟨state, owns, new, shown⟩ := tracked
  exact ⟨state, owns, fun address member => earlier.trans (new address member), shown⟩

theorem Tracked.frame {before heap middle : Heap} {handle : Handle} {inputs : List Inner}
    (tracked : Tracked shows inputs before handle heap) (frame : Frame [] heap middle) :
    Tracked shows inputs before handle middle := by
  obtain ⟨state, owns, new, shown⟩ := tracked
  exact ⟨state, owns.frame frame (by simp), new, shown⟩

theorem Aggregate.Tracks.feed (tracks : aggregate.Tracks accepts collects shows) {row : Row}
    (feeds : FeedsRow aggregate accepts means accum meaning row) {heap base : Heap} {handle : Handle}
    {inputs : List Inner} (tracked : Tracked collects inputs base handle heap)
    (below : base.next ≤ heap.next) :
    Mirrors (accum handle row) heap handle.toList (meaning row) fun value result after =>
      ∃ input : Option Inner, input.map means = value ∧
        Tracked collects (inputs ++ input.toList) base result after ∧
        ∀ address ∈ result, address ∈ handle.toList ∨ heap.next ≤ address := by
  have fed := feeds heap
  cases meant : meaning row with
  | error exit =>
    rw [meant] at fed
    exact fed handle
  | ok value =>
    rw [meant] at fed
    obtain ⟨input, middle, stands, accepted, frame, same⟩ := fed
    have tracked := tracked.frame frame
    refine Returns.after_frame (same handle) frame ?_
    cases input with
    | none =>
      refine .pure ⟨none, stands, ?_, fun address member => .inl (by simpa using member)⟩
      simpa using tracked
    | some inner =>
      obtain ⟨state, owns, new, shown⟩ := tracked
      obtain ⟨object, collected, step⟩ := tracks.accum owns shown (accepted inner rfl)
      refine step.imp ?_
      rintro _ after - ⟨address, rfl, place, there⟩
      have place : address ∈ handle.toList ∨ heap.next ≤ address := place.imp id frame.next.trans
      refine ⟨some inner, stands, ⟨some object, .some there, ?_, by simp, collected⟩, by simpa using place⟩
      rintro visited member
      cases member
      exact place.elim (fun old => new address (by simpa using old)) below.trans

theorem Aggregate.Tracks.rows_skipping (tracks : aggregate.Tracks accepts collects shows) (rows : List Row)
    (feeds : ∀ row ∈ rows, FeedsRow aggregate accepts means accum meaning row) {heap base : Heap}
    {handle : Handle} {inputs : List Inner} (tracked : Tracked collects inputs base handle heap)
    (below : base.next ≤ heap.next) :
    Mirrors (rows.foldlM accum handle) heap handle.toList (rows.mapM meaning) fun values result after =>
      ∃ more, more.map means = values.reduceOption ∧
        Tracked collects (inputs ++ more) base result after := by
  induction rows generalizing heap handle inputs with
  | nil => exact .pure ⟨[], rfl, by rwa [List.append_nil]⟩
  | cons row rest ih =>
    rw [List.foldlM_cons, List.mapM_cons]
    refine (tracks.feed (feeds row List.mem_cons_self) tracked below).bind (fun handle => handle.toList) ?_
    rintro value result middle frame ⟨input, stands, tracked, place⟩
    refine ⟨by simpa using place, ?_⟩
    refine (ih (fun other member => feeds other (.tail _ member)) tracked (below.trans frame.next)).map
      (fun values => value :: values) ?_
    rintro values final after ⟨more, same, tracked⟩
    refine ⟨input.toList ++ more, ?_, by rwa [← List.append_assoc]⟩
    cases input with
    | none =>
      cases stands
      exact same
    | some inner =>
      cases stands
      exact congrArg (means inner :: ·) same

theorem Aggregate.Tracks.merge_tracked (tracks : aggregate.Tracks accepts collects shows) {base heap : Heap}
    {left right : Handle} {inputs others : List Inner} (trackedLeft : Tracked shows inputs base left heap)
    (trackedRight : Tracked shows others base right heap) (apart : ∀ address ∈ left, address ∉ right)
    (below : base.next ≤ heap.next) :
    Returns (aggregate.merge left right) heap (left.toList ++ right.toList)
      (Tracked shows (inputs ++ others) base) := by
  obtain ⟨x, ownsLeft, _, shownLeft⟩ := trackedLeft
  obtain ⟨y, ownsRight, _, shownRight⟩ := trackedRight
  by_cases sides : left = none ∧ right = none
  · obtain ⟨rfl, rfl⟩ := sides
    cases ownsLeft
    cases ownsRight
    rw [tracks.nothing]
    exact .pure ⟨none, .none, by rintro _ ⟨⟩, List.append_eq_nil_iff.mpr ⟨shownLeft, shownRight⟩⟩
  · have some_side : left ≠ none ∨ right ≠ none := by tauto
    obtain ⟨object, shown, merged⟩ :=
      tracks.merge ownsLeft ownsRight apart some_side shownLeft shownRight
    refine merged.imp ?_
    rintro _ after - ⟨address, rfl, new, there⟩
    refine ⟨some object, .some there, ?_,
      shown_append_ne_nil ownsLeft ownsRight some_side shownLeft shownRight, shown⟩
    rintro visited member
    cases member
    exact below.trans new

/-- A state that is shipped; the state of no rows is shipped as no bytes. -/
theorem Aggregate.Tracks.hop_tracked (tracks : aggregate.Tracks accepts collects shows) {base heap : Heap}
    {handle : Handle} {inputs : List Inner} (tracked : Tracked shows inputs base handle heap)
    (below : base.next ≤ heap.next) (malloc : ℕ → UInt8) :
    Returns (do
      let blob ← extensionSketchHandleSerialize handle malloc
      extensionSketchHandleDeserialize blob) heap handle.toList (Tracked shows inputs base) := by
  obtain ⟨state, owns, _, shown⟩ := tracked
  cases owns with
  | none => exact .pure ⟨none, .none, by rintro _ ⟨⟩, shown⟩
  | @some address object owns =>
    obtain ⟨some_input, shown⟩ := shown
    obtain ⟨sketch, finished, fits, kept⟩ := tracks.hop some_input shown
    refine (returns_handleSerialize owns finished malloc).andThen ?_
    rintro _ middle frame rfl
    have read := fits.deserialize_eq malloc
    refine (returns_handleDeserialize (sketch.serialize2_ne_nil malloc) read middle).weaken (by simp) ?_
    rintro _ after last ⟨fresh, rfl, place, there⟩
    refine ⟨_, .some there, ?_, some_input, kept⟩
    rintro visited member
    cases member
    exact (below.trans frame.next).trans place

theorem Aggregate.Tracks.plan_skipping (tracks : aggregate.Tracks accepts collects shows) (plan : Plan Row)
    (feeds : ∀ row ∈ plan.inputs, FeedsRow aggregate accepts means accum meaning row) (heap : Heap) :
    Mirrors (plan.run ⟨accum, aggregate.merge⟩) heap [] (plan.inputs.mapM meaning)
      fun values handle after => ∃ inputs, inputs.map means = values.reduceOption ∧
        Tracked shows inputs heap handle after := by
  induction plan generalizing heap with
  | rows input =>
    have start : Tracked collects [] heap none heap := ⟨none, .none, by rintro _ ⟨⟩, rfl⟩
    refine (tracks.rows_skipping input feeds start (Nat.le_refl _)).imp ?_
    rintro values handle after - ⟨more, same, state, owns, new, shown⟩
    refine ⟨more, same, state, owns, new, ?_⟩
    cases state with
    | none => exact shown
    | some object => exact ⟨shown.1, tracks.collected shown.2⟩
  | merge left right ihLeft ihRight =>
    rw [Plan.inputs, List.mapM_append]
    refine (ihLeft (fun row member => feeds row (List.mem_append_left _ member)) heap).bind
      (fun left => left.toList) ?_
    rintro values left first frame ⟨inputs, same, trackedLeft⟩
    have newLeft := trackedLeft.new
    refine ⟨fun address member => .inr (newLeft address (by simpa using member)), ?_⟩
    refine ((ihRight (fun row member => feeds row (List.mem_append_right _ member)) first).keep left.toList).bind
      (fun right => left.toList ++ right.toList) ?_
    rintro others right middle - ⟨step, more, sameToo, trackedRight⟩
    have newRight := trackedRight.new
    refine ⟨fun address member => ?_, ?_⟩
    · rcases List.mem_append.mp member with old | new
      · exact .inl old
      · exact .inr (newRight address (by simpa using new))
    -- The right side was run later, so its cells lie beyond those of the left side.
    have apart : ∀ address ∈ left, address ∉ right := fun address inLeft inRight =>
      absurd (trackedLeft.below address inLeft) (newRight address inRight).not_gt
    have merged := tracks.merge_tracked (trackedLeft.frame step) (trackedRight.since frame.next) apart
      (frame.next.trans step.next)
    refine Returns.imp merged fun handle after _ tracked => ⟨inputs ++ more, ?_, tracked⟩
    rw [List.map_append, same, sameToo, List.reduceOption_append]
  | hop malloc plan ih =>
    refine (ih feeds heap).andReturns (fun handle => handle.toList) ?_
    rintro values handle middle frame ⟨inputs, same, tracked⟩
    have new := tracked.new
    refine ⟨fun address member => .inr (new address (by simpa using member)), ?_⟩
    exact (tracks.hop_tracked tracked frame.next malloc).imp fun _ _ _ shipped => ⟨inputs, same, shipped⟩

theorem Aggregate.Tracks.output_skipping (tracks : aggregate.Tracks accepts collects shows) (plan : Plan Row)
    (feeds : ∀ row ∈ plan.inputs, FeedsRow aggregate accepts means accum meaning row) (heap : Heap)
    (malloc : ℕ → UInt8) :
    Mirrors (plan.output ⟨accum, aggregate.merge⟩ malloc) heap [] (plan.inputs.mapM meaning)
      fun values blob _ => ∃ inputs, inputs.map means = values.reduceOption ∧
        (inputs = [] → blob = []) ∧ (inputs ≠ [] → ∃ object sketch, shows inputs object ∧
          object.finished = .ok sketch ∧ blob = sketch.serialize2 malloc) := by
  refine (tracks.plan_skipping plan feeds heap).andReturns (fun handle => handle.toList) ?_
  rintro values handle middle - ⟨inputs, same, tracked⟩
  have new := tracked.new
  refine ⟨fun address member => .inr (new address (by simpa using member)), ?_⟩
  obtain ⟨state, owns, _, shown⟩ := tracked
  cases owns with
  | none => exact .pure ⟨inputs, same, fun _ => rfl, fun some_input => absurd shown some_input⟩
  | @some address object owns =>
    obtain ⟨some_input, shown⟩ := shown
    obtain ⟨sketch, finished, _⟩ := tracks.hop some_input shown
    refine (returns_handleSerialize owns finished malloc).imp ?_
    rintro blob after - rfl
    exact ⟨inputs, same, fun none_left => absurd none_left some_input,
      fun _ => ⟨object, sketch, shown, finished, rfl⟩⟩

end Skipping

/-! What a blob stands for. -/

/-- No bytes stand for NULL, the blob of a sketch for its set. -/
def StandsFor : Option (Finset ℕ) → Blob → Prop
  | none, blob => blob = []
  | some D, blob => Yields D blob

structure Given where
  set : Finset ℕ
  blob : Blob
  yields : Yields set blob

theorem Yields.ne_nil {D : Finset ℕ} {blob : Blob} (yields : Yields D blob) : blob ≠ [] := by
  obtain ⟨sketch, decodes, _⟩ := yields
  have long := length_of_wrap decodes.wrap
  rintro rfl
  exact absurd long (by decide)

theorem Yields.emptyIsNull_eq {D : Finset ℕ} {blob : Blob} (yields : Yields D blob) :
    emptyIsNull blob = some blob := by
  rw [emptyIsNull, if_neg fun none_left => yields.ne_nil (List.length_eq_zero_iff.mp none_left)]

def unlessNone {A : Type} (combine : List A → Finset ℕ) (values : List A) : Option (Finset ℕ) :=
  if values.isEmpty then none else some (combine values)

section Aggregates

variable {Row : Type} (evaluate : Row → HeapM Blob)

def unionOverEmptyIsNull : Aggregate Row where
  accum := fun handle row => do
    let blob ← evaluate row
    extensionSketchHandleUnionAccumEmptyIsNull handle blob
  merge := extensionSketchHandleUnionMerge

def intersectionOverEmptyIsNull : Aggregate Row where
  accum := fun handle row => do
    let blob ← evaluate row
    extensionSketchHandleIntersectionAccumEmptyIsNull handle blob
  merge := extensionSketchHandleIntersectionMerge

variable {evaluate} {meaning : Row → Run (Option (Finset ℕ))} {row : Row}

def MirrorsRow (evaluate : Row → HeapM Blob) (meaning : Row → Run (Option (Finset ℕ))) (row : Row) : Prop :=
  ∀ heap, Mirrors (evaluate row) heap [] (meaning row) fun value blob _ => StandsFor value blob

theorem MirrorsRow.feeds (mirrors : MirrorsRow evaluate meaning row)
    (accum : Handle → Option Blob → HeapM Handle) (merge : Handle → Handle → HeapM Handle)
    (skips : ∀ handle, accum handle none = pure handle) :
    FeedsRow ⟨fun handle given => do
      let blob ← pure given.blob
      accum handle (some blob), merge⟩ (YieldsRow (fun given => pure given.blob) Given.set) Given.set
      (fun handle row => do
        let blob ← evaluate row
        accum handle (emptyIsNull blob)) meaning row := by
  intro heap
  have mirrored := mirrors heap
  cases meant : meaning row with
  | error exit =>
    rw [meant] at mirrored
    obtain ⟨after, failed⟩ := mirrored
    refine fun handle => ⟨after, ?_⟩
    simp only [Bind.bind, EStateM.bind, failed]
  | ok value =>
    rw [meant] at mirrored
    obtain ⟨blob, middle, run, frame, stands⟩ := mirrored
    have step : ∀ handle, (do
        let blob ← evaluate row
        accum handle (emptyIsNull blob)) heap = accum handle (emptyIsNull blob) middle := fun handle => by
      simp only [Bind.bind, EStateM.bind, run]
    cases value with
    | none =>
      cases stands
      refine ⟨none, middle, rfl, by rintro _ ⟨⟩, frame, fun handle => (step handle).trans ?_⟩
      exact congrFun (skips handle) middle
    | some D =>
      have given : Yields D blob := stands
      refine ⟨some ⟨D, blob, given⟩, middle, rfl, fun given _ _ => .pure given.yields, frame, fun handle => ?_⟩
      refine (step handle).trans ?_
      rw [given.emptyIsNull_eq]
      rfl

/-- An aggregate whose states stand for sets writes the set of the rows that are not NULL. -/
theorem mirrors_aggregate {Inner M : Type} {aggregate : Aggregate Inner} {accepts : Inner → Prop}
    {collects shows : List Inner → Object → Prop} {combine : List M → Finset ℕ} {means : Inner → M}
    {accum : Handle → Row → HeapM Handle} {meaning : Row → Run (Option M)}
    (tracks : aggregate.Tracks accepts collects shows)
    (denotes : ∀ {inputs object sketch}, shows inputs object → object.finished = .ok sketch →
      sketch.Denotes (combine (inputs.map means)))
    (plan : Plan Row) (feeds : ∀ row ∈ plan.inputs, FeedsRow aggregate accepts means accum meaning row)
    (heap : Heap) (malloc : ℕ → UInt8) :
    Mirrors (plan.output ⟨accum, aggregate.merge⟩ malloc) heap []
      (plan.inputs.mapM meaning >>= fun values => pure (unlessNone combine values.reduceOption))
      fun value blob _ => StandsFor value blob := by
  refine (tracks.output_skipping plan feeds heap malloc).map
    (fun values => unlessNone combine values.reduceOption) ?_
  rintro values blob after ⟨inputs, same, unseen, seen⟩
  rw [← same]
  cases inputs with
  | nil => exact unseen rfl
  | cons first rest =>
    obtain ⟨object, sketch, shown, finished, rfl⟩ := seen (List.cons_ne_nil _ _)
    exact (denotes shown finished).yields malloc

theorem ShowsSet.denotes {D : Finset ℕ} {object : Object} {sketch : CompactSketch}
    (shows : ShowsSet D object) (finished : object.finished = .ok sketch) : sketch.Denotes D := by
  obtain ⟨_, again, _, denotes⟩ := shows
  cases finished.symm.trans again
  exact denotes

theorem mirrors_unionAggregate (plan : Plan Row)
    (mirrors : ∀ row ∈ plan.inputs, MirrorsRow evaluate meaning row) (heap : Heap) (malloc : ℕ → UInt8) :
    Mirrors (plan.output (unionOverEmptyIsNull evaluate) malloc) heap []
      (plan.inputs.mapM meaning >>= fun values => pure (unlessNone unionAll values.reduceOption))
      fun value blob _ => StandsFor value blob :=
  mirrors_aggregate (@unionOver_tracks Given (fun given => pure given.blob) Given.set) ShowsSet.denotes plan
    (fun row inside => (mirrors row inside).feeds extensionSketchHandleUnionAccum _ fun _ => rfl) heap malloc

theorem mirrors_intersectionAggregate (plan : Plan Row)
    (mirrors : ∀ row ∈ plan.inputs, MirrorsRow evaluate meaning row) (heap : Heap) (malloc : ℕ → UInt8) :
    Mirrors (plan.output (intersectionOverEmptyIsNull evaluate) malloc) heap []
      (plan.inputs.mapM meaning >>= fun values => pure (unlessNone intersectAll values.reduceOption))
      fun value blob _ => StandsFor value blob :=
  mirrors_aggregate (@intersectionOver_tracks Given (fun given => pure given.blob) Given.set) ShowsSet.denotes plan
    (fun row inside => (mirrors row inside).feeds extensionSketchHandleIntersectionAccum _ fun _ => rfl)
    heap malloc

end Aggregates

/-! Building. -/

def buildAggregateEmptyIsNull : Aggregate BuildRow where
  accum := fun handle row => match row with
    | .bytes data => extensionSketchHandleBuildAccumEmptyIsNull handle data
    | .hash value => extensionSketchHandleBuildAccumByHashEmptyIsNull handle value
  merge := extensionSketchHandleUnionMerge

def BuildRow.orNull : BuildRow → Option BuildRow
  | bytes data => if data = [] then none else some (bytes data)
  | hash value => if value = 0 then none else some (hash value)

theorem feeds_build (row : BuildRow) :
    FeedsRow buildAggregate (fun _ => True) id buildAggregateEmptyIsNull.accum
      (fun row => pure row.orNull) row := by
  intro heap
  refine ⟨row.orNull, heap, Option.map_id_apply, fun _ _ => trivial, Frame.refl _ _, fun handle => ?_⟩
  cases row with
  | bytes data =>
    by_cases none_left : data = []
    · subst none_left
      rfl
    · change extensionSketchHandleBuildAccum handle (emptyIsNull data) heap = _
      rw [emptyIsNull, if_neg fun short => none_left (List.length_eq_zero_iff.mp short), BuildRow.orNull,
        if_neg none_left]
      rfl
  | hash value =>
    change extensionSketchHandleBuildAccumByHashEmptyIsNull handle value heap = _
    by_cases zero : value = 0
    · rw [extensionSketchHandleBuildAccumByHashEmptyIsNull, BuildRow.orNull, if_pos zero, if_pos zero]
      rfl
    · rw [extensionSketchHandleBuildAccumByHashEmptyIsNull, BuildRow.orNull, if_neg zero, if_neg zero]
      rfl

theorem ShowsRows.denotes {rows : List BuildRow} {object : Object} {sketch : CompactSketch}
    (shows : ShowsRows rows object) (finished : object.finished = .ok sketch) :
    sketch.Denotes (fedHashes rows) := by
  obtain ⟨_, again, sound, few, samples⟩ := shows.finished
  cases finished.symm.trans again
  have hashes : Hashes (fedHashes rows) := fun hash member => (Finset.mem_filter.mp member).2
  refine ⟨sound, few, hashes, samples.entries_eq sound, fun flagged => ?_⟩
  exact absurd (samples.fed.symm.trans flagged) Bool.false_ne_true

theorem mirrors_build (plan : Plan BuildRow) (heap : Heap) (malloc : ℕ → UInt8) :
    Mirrors (plan.output buildAggregateEmptyIsNull malloc) heap []
      (pure (unlessNone fedHashes (plan.inputs.filterMap BuildRow.orNull)))
      fun value blob _ => StandsFor value blob := by
  have mirrors := @mirrors_aggregate _ _ _ _ _ _ _ fedHashes id _ _ buildAggregate_tracks
    (fun shows finished => by rw [List.map_id]; exact shows.denotes finished) plan
    (fun row _ => feeds_build row) heap malloc
  rwa [List.mapM_pure, pure_bind, List.reduceOption, List.filterMap_map] at mirrors

/-! The set functions. -/

/-- An argument turns one object into another; NULL leaves it as it is. -/
def Applies (updateWithBytes : ℕ → Blob → HeapM Unit) (before : Object) (argument : Option Blob)
    (after : Object) : Prop :=
  match argument with
  | none => after = before
  | some bytes => 8 ≤ bytes.length ∧ ∀ state heap, Heap.Holds heap state before .mutableSketch →
      Returns (updateWithBytes state bytes) heap [state] fun _ later =>
        later.Holds state after .mutableSketch

section Scalars

variable {updateWithBytes : ℕ → Blob → HeapM Unit} {getResult : ℕ → HeapM ℕ}
  {fresh middle final : Object} {heap : Heap} {left right : Option Blob}

theorem Applies.returns {argument : Option Blob} {state : ℕ}
    (applies : Applies updateWithBytes fresh argument middle)
    (holds : heap.Holds state fresh .mutableSketch) :
    Returns (updateWithArgument updateWithBytes state argument) heap [state] fun _ after =>
      after.Holds state middle .mutableSketch := by
  cases argument with
  | none =>
    cases applies
    exact .pure holds
  | some bytes =>
    obtain ⟨long, update⟩ := applies
    rw [updateWithArgument, bailIfShort_eq long]
    exact update state heap holds

theorem mirrors_scalar {finished : Run CompactSketch} (first : Applies updateWithBytes fresh left middle)
    (second : Applies updateWithBytes middle right final)
    (result : ∀ state heap, Heap.Holds heap state final .mutableSketch →
      Mirrors (getResult state) heap [state] finished fun sketch ptr after => heap.next ≤ ptr ∧
        after.Holds ptr (.compactThetaSketch sketch) .mutableSketch)
    (malloc : ℕ → UInt8) :
    Mirrors (do
      let state ← allocate fresh
      updateWithArgument updateWithBytes state left
      updateWithArgument updateWithBytes state right
      let sketchptr ← getResult state
      let output ← thetaSketchSerialize sketchptr malloc
      thetaSketchDelete sketchptr
      return output) heap [] finished fun sketch blob _ => blob = sketch.serialize2 malloc := by
  refine (returns_allocate fresh heap).andMirrors (fun state => [state]) ?_
  rintro state start - ⟨same, made⟩
  refine ⟨fun other member => .inr (List.mem_singleton.mp member ▸ same.ge), ?_⟩
  refine (first.returns made).andMirrors (fun _ => [state]) fun _ ready _ there => ⟨fun _ => Or.inl, ?_⟩
  refine (second.returns there).andMirrors (fun _ => [state]) fun _ done _ there => ⟨fun _ => Or.inl, ?_⟩
  refine (result state done there).andReturns (fun ptr => [ptr]) ?_
  rintro sketch ptr last - ⟨new, written⟩
  exact ⟨fun other member => .inr (List.mem_singleton.mp member ▸ new), returns_output written malloc⟩

end Scalars

section SetFunctions

variable {x y : Option (Finset ℕ)} {blob left right : Blob} {heap : Heap}

theorem UnitesSet.applies {union : ThetaUnion} {D : Finset ℕ} (unites : UnitesSet union D)
    (stands : StandsFor x blob) : ∃ next, UnitesSet next (D ∪ unionAll x.toList) ∧
      Applies thetaUnionUpdateWithBytes (.thetaUnion union) (emptyIsNull blob) (.thetaUnion next) := by
  cases x with
  | none =>
    cases stands
    exact ⟨union, by rwa [Option.toList_none, unionAll, List.foldr_nil, Finset.union_empty], rfl⟩
  | some E =>
    have yields : Yields E blob := stands
    rw [yields.emptyIsNull_eq]
    obtain ⟨sketch, decodes, denotes⟩ := yields
    obtain ⟨next, run, after⟩ := unites.update denotes
    refine ⟨next, ?_, length_of_wrap decodes.wrap, fun _ _ holds =>
      returns_unionUpdateWithBytes holds decodes.wrap run⟩
    have one : unionAll [E] = E := Finset.union_empty _
    rwa [Option.toList_some, one]

theorem returns_unionEmptyIsNull (first : StandsFor x left) (second : StandsFor y right)
    (malloc : ℕ → UInt8) :
    Returns (extensionSketchUnionEmptyIsNull left right malloc) heap [] fun blob _ =>
      Yields (unionAll [x, y].reduceOption) blob := by
  obtain ⟨middle, unites, takesLeft⟩ := UnitesSet.new.applies first
  obtain ⟨final, unites, takesRight⟩ := unites.applies second
  have sets : ∅ ∪ unionAll x.toList ∪ unionAll y.toList = unionAll [x, y].reduceOption := by
    rw [Finset.empty_union, ← unionAll_append]
    cases x <;> cases y <;> rfl
  rw [sets] at unites
  have written := @mirrors_scalar _ thetaUnionGetResult _ _ _ heap _ _ (.ok (final.getResult true))
    takesLeft takesRight (fun _ _ holds => returns_unionGetResult holds) malloc
  refine Returns.imp written ?_
  rintro blob after - rfl
  exact unites.getResult.yields malloc

theorem GathersCommon.applies {intersection : ThetaIntersection} {sets : List (Finset ℕ)}
    (gathers : GathersCommon id intersection sets) (stands : StandsFor x blob) :
    ∃ next, GathersCommon id next (sets ++ x.toList) ∧
      Applies thetaIntersectionUpdateWithBytes (.thetaIntersection intersection) (emptyIsNull blob)
        (.thetaIntersection next) := by
  cases x with
  | none =>
    cases stands
    exact ⟨intersection, by rwa [Option.toList_none, List.append_nil], rfl⟩
  | some E =>
    have yields : Yields E blob := stands
    rw [yields.emptyIsNull_eq]
    obtain ⟨sketch, decodes, denotes⟩ := yields
    rw [← intersectAll_singleton E] at denotes
    obtain ⟨next, run, meets⟩ := gathers.join id (List.cons_ne_nil E []) denotes
    refine ⟨next, ⟨fun none_left => ?_, fun _ => meets⟩, length_of_wrap decodes.wrap,
      fun _ _ holds => returns_intersectionUpdateWithBytes holds decodes.wrap run⟩
    exact absurd (List.append_eq_nil_iff.mp none_left).2 (List.cons_ne_nil _ _)

theorem mirrors_intersectionGetResult {intersection : ThetaIntersection} {state : ℕ}
    (holds : heap.Holds state (.thetaIntersection intersection) .mutableSketch) :
    Mirrors (thetaIntersectionGetResult state) heap [state] (intersection.getResult true)
      fun sketch ptr after => heap.next ≤ ptr ∧
        after.Holds ptr (.compactThetaSketch sketch) .mutableSketch := by
  cases result : intersection.getResult true with
  | ok sketch => exact returns_intersectionGetResult holds result
  | error exit =>
    obtain ⟨_, middle, run, _, rfl⟩ := returns_toThetaIntersection holds
    refine ⟨middle, ?_⟩
    simp only [thetaIntersectionGetResult, Bind.bind, EStateM.bind, run, liftRun, result]

def intersectArguments (x y : Option (Finset ℕ)) : Run (Option (Finset ℕ)) :=
  if x.isNone && y.isNone then
    throw (.invalidArg "calling get_result() before calling update() is undefined")
  else return some (intersectAll [x, y].reduceOption)

theorem mirrors_intersectionEmptyIsNull (first : StandsFor x left) (second : StandsFor y right)
    (malloc : ℕ → UInt8) :
    Mirrors (extensionSketchIntersectionEmptyIsNull left right malloc) heap [] (intersectArguments x y)
      fun value blob _ => StandsFor value blob := by
  obtain ⟨middle, gathers, takesLeft⟩ := (gathersCommon_nil id).applies first
  obtain ⟨final, gathers, takesRight⟩ := gathers.applies second
  have written := @mirrors_scalar _ thetaIntersectionGetResult _ _ _ heap _ _ (final.getResult true)
    takesLeft takesRight (fun _ _ holds => mirrors_intersectionGetResult holds) malloc
  have sets : [] ++ x.toList ++ y.toList = [x, y].reduceOption := by cases x <;> cases y <;> rfl
  rw [sets] at gathers
  by_cases unseen : [x, y].reduceOption = []
  · have sides : x = none ∧ y = none := by
      cases x <;> cases y <;> first | exact ⟨rfl, rfl⟩ | cases unseen
    obtain ⟨rfl, rfl⟩ := sides
    rw [gathers.fresh unseen] at written
    exact written
  · have some_side : intersectArguments x y = .ok (some (intersectAll [x, y].reduceOption)) := by
      refine if_neg fun sides => unseen ?_
      obtain ⟨noLeft, noRight⟩ := Bool.and_eq_true_iff.mp sides
      rw [Option.isNone_iff_eq_none.mp noLeft, Option.isNone_iff_eq_none.mp noRight]
      rfl
    obtain ⟨sketch, result, denotes⟩ := (gathers.meets unseen).getResult
    rw [result] at written
    rw [some_side]
    refine Returns.imp written ?_
    rintro blob after - rfl
    rw [List.map_id] at denotes
    exact denotes.yields malloc

def subtractArguments : Option (Finset ℕ) → Option (Finset ℕ) → Run (Option (Finset ℕ))
  | some D, some E => return some (D \ E)
  | _, _ => throw (.bail "a_not_b must have two valid sketches")

theorem mirrors_aNotBEmptyIsNull (first : StandsFor x left) (second : StandsFor y right)
    (malloc : ℕ → UInt8) :
    Mirrors (extensionSketchANotBEmptyIsNull left right malloc) heap [] (subtractArguments x y)
      fun value blob _ => StandsFor value blob := by
  rw [extensionSketchANotBEmptyIsNull]
  cases x with
  | none =>
    cases first
    exact ⟨heap, rfl⟩
  | some D =>
    have yieldsLeft : Yields D left := first
    rw [yieldsLeft.emptyIsNull_eq]
    cases y with
    | none =>
      cases second
      exact ⟨heap, rfl⟩
    | some E =>
      have yieldsRight : Yields E right := second
      rw [yieldsRight.emptyIsNull_eq]
      exact yields_aNotB yieldsLeft yieldsRight malloc

end SetFunctions

/-! Expressions. -/

/-- Here an aggregate may also run over no children. -/
inductive NullExpression where
  | build (plan : Plan BuildRow) (malloc : ℕ → UInt8)
  | union (left right : NullExpression) (malloc : ℕ → UInt8)
  | intersection (left right : NullExpression) (malloc : ℕ → UInt8)
  | aNotB (left right : NullExpression) (malloc : ℕ → UInt8)
  | unionAggregate {n : ℕ} (children : Fin n → NullExpression) (plan : Plan (Fin n))
    (malloc : ℕ → UInt8)
  | intersectionAggregate {n : ℕ} (children : Fin n → NullExpression) (plan : Plan (Fin n))
    (malloc : ℕ → UInt8)

namespace NullExpression

def evaluate : NullExpression → HeapM Blob
  | build plan malloc => plan.output buildAggregateEmptyIsNull malloc
  | union left right malloc => do
    let left ← left.evaluate
    let right ← right.evaluate
    extensionSketchUnionEmptyIsNull left right malloc
  | intersection left right malloc => do
    let left ← left.evaluate
    let right ← right.evaluate
    extensionSketchIntersectionEmptyIsNull left right malloc
  | aNotB left right malloc => do
    let left ← left.evaluate
    let right ← right.evaluate
    extensionSketchANotBEmptyIsNull left right malloc
  | unionAggregate children plan malloc =>
    plan.output (unionOverEmptyIsNull fun child => (children child).evaluate) malloc
  | intersectionAggregate children plan malloc =>
    plan.output (intersectionOverEmptyIsNull fun child => (children child).evaluate) malloc

def meaning : NullExpression → Run (Option (Finset ℕ))
  | build plan _ => pure (unlessNone fedHashes (plan.inputs.filterMap BuildRow.orNull))
  | union left right _ => do
    let left ← left.meaning
    let right ← right.meaning
    return some (unionAll [left, right].reduceOption)
  | intersection left right _ => do
    let left ← left.meaning
    let right ← right.meaning
    intersectArguments left right
  | aNotB left right _ => do
    let left ← left.meaning
    let right ← right.meaning
    subtractArguments left right
  | unionAggregate children plan _ => do
    let sets ← plan.inputs.mapM fun child => (children child).meaning
    return unlessNone unionAll sets.reduceOption
  | intersectionAggregate children plan _ => do
    let sets ← plan.inputs.mapM fun child => (children child).meaning
    return unlessNone intersectAll sets.reduceOption

theorem mirrors_arguments {first second : NullExpression} {heap : Heap} {compute : Blob → Blob → HeapM Blob}
    {combine : Option (Finset ℕ) → Option (Finset ℕ) → Run (Option (Finset ℕ))}
    (left : MirrorsRow evaluate meaning first) (right : MirrorsRow evaluate meaning second)
    (step : ∀ {x y left right heap}, StandsFor x left → StandsFor y right →
      Mirrors (compute left right) heap [] (combine x y) fun value blob _ => StandsFor value blob) :
    Mirrors (do
      let left ← first.evaluate
      let right ← second.evaluate
      compute left right) heap [] (do
        let x ← first.meaning
        let y ← second.meaning
        combine x y) fun value blob _ => StandsFor value blob := by
  refine (left heap).bind (fun _ => []) fun x leftBlob middle _ standsLeft => ⟨by simp, ?_⟩
  refine (right middle).bind (fun _ => []) fun y rightBlob after _ standsRight => ⟨by simp, ?_⟩
  exact step standsLeft standsRight

theorem mirrors (expression : NullExpression) : MirrorsRow evaluate meaning expression := by
  induction expression with
  | build plan malloc => exact fun heap => mirrors_build plan heap malloc
  | union left right malloc ihLeft ihRight =>
    exact fun heap => mirrors_arguments ihLeft ihRight fun first second =>
      returns_unionEmptyIsNull first second malloc
  | intersection left right malloc ihLeft ihRight =>
    exact fun heap => mirrors_arguments ihLeft ihRight fun first second =>
      mirrors_intersectionEmptyIsNull first second malloc
  | aNotB left right malloc ihLeft ihRight =>
    exact fun heap => mirrors_arguments ihLeft ihRight fun first second =>
      mirrors_aNotBEmptyIsNull first second malloc
  | unionAggregate children plan malloc ih =>
    exact fun heap => mirrors_unionAggregate plan (fun child _ => ih child) heap malloc
  | intersectionAggregate children plan malloc ih =>
    exact fun heap => mirrors_intersectionAggregate plan (fun child _ => ih child) heap malloc

end NullExpression

/-- Evaluation exits exactly as the meaning does; it returns no bytes for NULL, and for a set
the blob of a sketch that stands for it. -/
theorem evaluate_emptyIsNull (expression : NullExpression) (heap : Heap) :
    match expression.meaning with
    | .error exit => ∃ after, expression.evaluate heap = .error exit after
    | .ok none => Returns expression.evaluate heap [] fun blob _ => blob = []
    | .ok (some D) => Returns expression.evaluate heap [] fun blob _ => Yields D blob := by
  have mirrors := expression.mirrors heap
  cases meant : expression.meaning with
  | error exit => rwa [meant] at mirrors
  | ok value =>
    rw [meant] at mirrors
    cases value with
    | none => exact mirrors
    | some D => exact mirrors

end ThetaSketch
