import ThetaSketch.Extension.EmptyIsNull
import ThetaSketch.Extension.Refinement

/-! Many aggregates on one heap.

An instance of the extension serves queries that know nothing of each other. Each
has handles and blobs that came of its own calls, and calls of all queries come in
any order. What a call does is what it would do had only those calls been made that
its own arguments came of.
-/

set_option autoImplicit false

namespace ThetaSketch

inductive History (Row : Type) where
  | init
  | accum (history : History Row) (row : Row)
  | merge (left right : History Row)
  | hop (malloc : ℕ → UInt8) (history : History Row)

namespace History

variable {Row : Type}

def run (aggregate : Aggregate Row) : History Row → HeapM Handle
  | init => return extensionSketchHandleInit
  | accum history row => do
    let handle ← history.run aggregate
    aggregate.accum handle row
  | merge left right => do
    let left ← left.run aggregate
    let right ← right.run aggregate
    aggregate.merge left right
  | hop malloc history => do
    let handle ← history.run aggregate
    let blob ← extensionSketchHandleSerialize handle malloc
    extensionSketchHandleDeserialize blob

def output (aggregate : Aggregate Row) (history : History Row) (malloc : ℕ → UInt8) : HeapM Blob := do
  let handle ← history.run aggregate
  extensionSketchHandleSerialize handle malloc

def state (function : AggregateFunction) : History function.Row → Run State
  | init => return none
  | accum history row => do
    let state ← history.state function
    function.accumState state row
  | merge left right => do
    let left ← left.state function
    let right ← right.state function
    function.mergeState left right
  | hop malloc history => do
    let state ← history.state function
    let blob ← state.write malloc
    State.read blob

theorem computes_run {function : AggregateFunction} (history : History function.Row) (heap : Heap) :
    Computes (history.run function.callbacks) heap [] (history.state function) (Leads heap []) := by
  induction history generalizing heap with
  | init => exact .pure ⟨.none, by simp [extensionSketchHandleInit]⟩
  | accum history row ih =>
    refine (ih heap).bind (fun handle => handle.toList) ?_
    rintro state handle middle frame leads
    have new := leads.new
    refine ⟨fun address member => .inr (new address (by simpa using member)), ?_⟩
    refine (function.computes_accum row leads.1).imp ?_
    rintro next result after - ⟨owns, place⟩
    refine ⟨owns, fun address member => .inr ?_⟩
    rcases place address member with old | fresh
    · exact new address (by simpa using old)
    · exact frame.next.trans fresh
  | merge left right ihLeft ihRight =>
    refine (ihLeft heap).bind (fun handle => handle.toList) ?_
    rintro x left first frame leadsLeft
    have newLeft := leadsLeft.new
    refine ⟨fun address member => .inr (newLeft address (by simpa using member)), ?_⟩
    have second : Computes (right.run function.callbacks) first left.toList (right.state function)
        fun state handle after => Frame [] first after ∧ Leads first [] state handle after :=
      (ihRight first).weaken (by simp) fun _ _ _ frame leads => ⟨frame, leads⟩
    refine second.bind (fun right => left.toList ++ right.toList) ?_
    rintro y right middle - ⟨step, leadsRight⟩
    have newRight := leadsRight.new
    have below := leadsLeft.1.below
    -- The right side was run later, so its state lies beyond that of the left side.
    have apart : ∀ address ∈ left, address ∉ right := by
      intro address inLeft inRight
      have := below address inLeft
      have := newRight address inRight
      omega
    refine ⟨fun address member => ?_, ?_⟩
    · rcases List.mem_append.mp member with old | new
      · exact .inl old
      · exact .inr (newRight address (by simpa using new))
    · refine (function.computes_merge (leadsLeft.1.frame step (by simp)) leadsRight.1 apart).imp ?_
      rintro next result after - leads
      exact ⟨leads.1, fun address member => .inr ((frame.next.trans step.next).trans (leads.new address member))⟩
  | hop malloc history ih =>
    refine (ih heap).bind (fun handle => handle.toList) ?_
    rintro state handle first frame leads
    have new := leads.new
    refine ⟨fun address member => .inr (new address (by simpa using member)), ?_⟩
    refine (computes_handleSerialize leads.1 malloc).andThen ?_
    rintro blob _ second step rfl
    refine (computes_handleDeserialize blob second).weaken (by simp) ?_
    rintro next result after - leads
    exact ⟨leads.1, fun address member => .inr ((frame.next.trans step.next).trans (leads.new address member))⟩

theorem computes_output {function : AggregateFunction} (history : History function.Row)
    (malloc : ℕ → UInt8) (heap : Heap) :
    Computes (history.output function.callbacks malloc) heap [] (do
      let state ← history.state function
      state.write malloc) fun blob result _ => blob = result := by
  refine (history.computes_run heap).bind (fun handle => handle.toList) ?_
  rintro state handle middle - leads
  have new := leads.new
  exact ⟨fun address member => .inr (new address (by simpa using member)),
    computes_handleSerialize leads.1 malloc⟩

end History

/-! Services. -/

/-- A handle that a query has, and the calls behind it. -/
structure Entry where
  function : AggregateFunction
  handle : Handle
  history : History function.Row

structure Parcel where
  function : AggregateFunction
  history : History function.Row
  malloc : ℕ → UInt8
  blob : Blob

structure Service where
  heap : Heap
  entries : List Entry
  parcels : List Parcel

def addresses (entries : List Entry) : List ℕ := entries.flatMap fun entry => entry.handle.toList

/-- What calls in any order lead to. A handle is given away once, a blob may be read
as often as one likes. -/
inductive Service.Reached : Service → Prop where
  | start (heap : Heap) : Reached ⟨heap, [], []⟩
  | init {heap : Heap} {entries : List Entry} {parcels : List Parcel}
      (reached : Reached ⟨heap, entries, parcels⟩) (function : AggregateFunction) :
      Reached ⟨heap, ⟨function, extensionSketchHandleInit, .init⟩ :: entries, parcels⟩
  | accum {heap after : Heap} {entries rest : List Entry} {parcels : List Parcel}
      {function : AggregateFunction} {handle next : Handle} {history : History function.Row}
      {row : function.Row} (reached : Reached ⟨heap, entries, parcels⟩)
      (holds : entries.Perm (⟨function, handle, history⟩ :: rest))
      (run : function.callbacks.accum handle row heap = .ok next after) :
      Reached ⟨after, ⟨function, next, .accum history row⟩ :: rest, parcels⟩
  | merge {heap after : Heap} {entries rest : List Entry} {parcels : List Parcel}
      {function : AggregateFunction} {left right next : Handle} {x y : History function.Row}
      (reached : Reached ⟨heap, entries, parcels⟩)
      (holds : entries.Perm (⟨function, left, x⟩ :: ⟨function, right, y⟩ :: rest))
      (run : function.callbacks.merge left right heap = .ok next after) :
      Reached ⟨after, ⟨function, next, .merge x y⟩ :: rest, parcels⟩
  | serialize {heap after : Heap} {entries rest : List Entry} {parcels : List Parcel}
      {function : AggregateFunction} {handle : Handle} {history : History function.Row}
      {malloc : ℕ → UInt8} {blob : Blob} (reached : Reached ⟨heap, entries, parcels⟩)
      (holds : entries.Perm (⟨function, handle, history⟩ :: rest))
      (run : extensionSketchHandleSerialize handle malloc heap = .ok blob after) :
      Reached ⟨after, rest, ⟨function, history, malloc, blob⟩ :: parcels⟩
  | deserialize {heap after : Heap} {entries : List Entry} {parcels : List Parcel}
      {parcel : Parcel} {handle : Handle} (reached : Reached ⟨heap, entries, parcels⟩)
      (sent : parcel ∈ parcels)
      (run : extensionSketchHandleDeserialize parcel.blob heap = .ok handle after) :
      Reached ⟨after, ⟨parcel.function, handle, .hop parcel.malloc parcel.history⟩ :: entries, parcels⟩
  | scalar {heap after : Heap} {entries : List Entry} {parcels : List Parcel} {call : ScalarCall}
      {answer : call.Answer} (reached : Reached ⟨heap, entries, parcels⟩)
      (run : call.code heap = .ok answer after) : Reached ⟨after, entries, parcels⟩

/-- Entries lead to states of their own, and blobs were written out of theirs. -/
structure Service.Kept (service : Service) : Prop where
  entries : ∀ entry ∈ service.entries, ∃ state, entry.history.state entry.function = .ok state ∧
    service.heap.OwnsHandle entry.handle state
  apart : service.entries.Pairwise fun entry other => ∀ address ∈ entry.handle, address ∉ other.handle
  parcels : ∀ parcel ∈ service.parcels, (do
    let state ← parcel.history.state parcel.function
    state.write parcel.malloc) = .ok parcel.blob

namespace Service.Kept

variable {heap after : Heap} {entries taken rest : List Entry} {parcels : List Parcel}

theorem perm (kept : Kept ⟨heap, entries, parcels⟩) (same : entries.Perm taken) :
    Kept ⟨heap, taken, parcels⟩ where
  entries := fun entry member => kept.entries entry (same.mem_iff.mpr member)
  apart := (same.pairwise_iff fun disjoint address inside touched =>
    disjoint address touched inside).mp kept.apart
  parcels := kept.parcels

theorem untouched (kept : Kept ⟨heap, taken ++ rest, parcels⟩)
    (frame : Frame (addresses taken) heap after) : Kept ⟨after, rest, parcels⟩ where
  entries := by
    intro entry member
    obtain ⟨state, computed, owns⟩ := kept.entries entry (List.mem_append_right _ member)
    refine ⟨state, computed, owns.frame frame fun address inside touched => ?_⟩
    obtain ⟨other, among, there⟩ := List.mem_flatMap.mp touched
    exact (List.pairwise_append.mp kept.apart).2.2 other among entry member address
      (by simpa using there) inside
  apart := (List.pairwise_append.mp kept.apart).2.1
  parcels := kept.parcels

theorem leads (kept : Kept ⟨heap, taken ++ rest, parcels⟩) {given : List ℕ}
    (frame : Frame (addresses taken) heap after) {entry : Entry} {state : State}
    (computed : entry.history.state entry.function = .ok state)
    (leads : Leads heap given state entry.handle after)
    (inside : ∀ address ∈ given, address ∈ addresses taken) : Kept ⟨after, entry :: rest, parcels⟩ where
  entries := by
    rintro other (_ | ⟨_, member⟩)
    · exact ⟨state, computed, leads.1⟩
    · exact (kept.untouched frame).entries other member
  apart := by
    refine List.pairwise_cons.mpr ⟨fun other member address made touched => ?_, (kept.untouched frame).apart⟩
    obtain ⟨_, _, owns⟩ := kept.entries other (List.mem_append_right _ member)
    rcases leads.2 address made with old | new
    · obtain ⟨source, among, there⟩ := List.mem_flatMap.mp (inside address old)
      exact (List.pairwise_append.mp kept.apart).2.2 source among other member address
        (by simpa using there) touched
    · exact absurd (owns.below address touched) (not_lt.mpr new)
  parcels := kept.parcels

end Service.Kept

theorem Computes.of_ok {A B : Type} {code : HeapM A} {before after : Heap} {owned : List ℕ}
    {run : Run B} {post : B → A → Heap → Prop} {result : A}
    (computes : Computes code before owned run post) (ran : code before = .ok result after) :
    ∃ value, run = .ok value ∧ Frame owned before after ∧ post value result after := by
  cases run with
  | error exit =>
    obtain ⟨_, failed⟩ := computes
    cases ran.symm.trans failed
  | ok value =>
    obtain ⟨_, _, again, frame, holds⟩ := computes
    cases ran.symm.trans again
    exact ⟨value, rfl, frame, holds⟩

theorem Service.Reached.kept {service : Service} (reached : service.Reached) : service.Kept := by
  induction reached with
  | start heap => exact ⟨by simp, List.Pairwise.nil, by simp⟩
  | @init heap entries parcels _ function ih =>
    exact @Service.Kept.leads heap heap [] entries parcels ih [] (Frame.refl _ _) ⟨function, _, .init⟩ none rfl
      ⟨.none, by simp [extensionSketchHandleInit]⟩ (by simp)
  | @accum heap after entries rest parcels function handle next history row _ holds run ih =>
    have kept := ih.perm holds
    obtain ⟨state, computed, owns⟩ := kept.entries ⟨function, handle, history⟩ List.mem_cons_self
    obtain ⟨result, same, frame, leads⟩ := (function.computes_accum row owns).of_ok run
    refine @Service.Kept.leads heap after [⟨function, handle, history⟩] rest parcels kept
      handle.toList (by simpa [addresses] using frame) _ result ?_ leads (by simp [addresses])
    change (history.state function >>= _) = _
    rw [computed]
    exact same
  | @merge heap after entries rest parcels function left right next x y _ holds run ih =>
    have kept := ih.perm holds
    obtain ⟨first, computedLeft, ownsLeft⟩ := kept.entries ⟨function, left, x⟩ List.mem_cons_self
    obtain ⟨second, computedRight, ownsRight⟩ :=
      kept.entries ⟨function, right, y⟩ (List.mem_cons_of_mem _ List.mem_cons_self)
    have apart := List.rel_of_pairwise_cons kept.apart List.mem_cons_self
    obtain ⟨result, same, frame, leads⟩ := (function.computes_merge ownsLeft ownsRight apart).of_ok run
    refine @Service.Kept.leads heap after [⟨function, left, x⟩, ⟨function, right, y⟩] rest parcels kept
      [] (by simpa [addresses] using frame) _ result ?_ leads (by simp)
    change (x.state function >>= fun x => y.state function >>= fun y => function.mergeState x y) = _
    rw [computedLeft, computedRight]
    exact same
  | @serialize heap after entries rest parcels function handle history malloc blob _ holds run ih =>
    have kept := ih.perm holds
    obtain ⟨state, computed, owns⟩ := kept.entries ⟨function, handle, history⟩ List.mem_cons_self
    obtain ⟨_, same, frame, rfl⟩ := (computes_handleSerialize owns malloc).of_ok run
    have left : Service.Kept ⟨after, rest, parcels⟩ :=
      @Service.Kept.untouched heap after [⟨function, handle, history⟩] rest parcels kept
        (by simpa [addresses] using frame)
    refine ⟨left.entries, left.apart, ?_⟩
    rintro parcel (_ | ⟨_, member⟩)
    · change (history.state function >>= _) = _
      rw [computed]
      exact same
    · exact left.parcels parcel member
  | @deserialize heap after entries parcels parcel handle _ sent run ih =>
    obtain ⟨state, same, frame, leads⟩ := (computes_handleDeserialize parcel.blob heap).of_ok run
    refine @Service.Kept.leads heap after [] entries parcels ih [] frame _ state ?_ leads (by simp)
    have written := ih.parcels parcel sent
    change (parcel.history.state parcel.function >>= fun state => state.write parcel.malloc >>= State.read) = _
    rw [← bind_assoc, written]
    exact same
  | @scalar heap after entries parcels call answer _ run ih =>
    obtain ⟨_, _, frame, _⟩ := (call.computes heap).of_ok run
    exact @Service.Kept.untouched heap after [] entries parcels ih frame

/-! How calls end. -/

def HeapM.endsFrom (heap : Heap) (code : HeapM Handle) : Run Bool :=
  (code.outcomeFrom heap).map Option.isSome

section Ends

variable {heap : Heap} {owned : List ℕ}

theorem Computes.outcomeFrom_eq {A : Type} {code : HeapM A} {run : Run A}
    (computes : Computes code heap owned run fun value result _ => value = result) :
    code.outcomeFrom heap = run := by
  cases run with
  | error exit =>
    obtain ⟨after, failed⟩ := computes
    rw [HeapM.outcomeFrom, failed]
  | ok value =>
    obtain ⟨result, after, ran, _, rfl⟩ := computes
    rw [HeapM.outcomeFrom, ran]

theorem Computes.endsFrom_eq {code : HeapM Handle} {run : Run State} {given : List ℕ}
    (computes : Computes code heap owned run (Leads heap given)) :
    code.endsFrom heap = run.map Option.isSome := by
  cases run with
  | error exit =>
    obtain ⟨after, failed⟩ := computes
    rw [HeapM.endsFrom, HeapM.outcomeFrom, failed]
    rfl
  | ok state =>
    obtain ⟨handle, after, ran, _, leads, _⟩ := computes
    rw [HeapM.endsFrom, HeapM.outcomeFrom, ran]
    cases leads <;> rfl

end Ends

/-- Every call that may come next ends as it does when only the calls behind its own
arguments were made before. -/
structure Service.Isolated (service : Service) : Prop where
  accum : ∀ entry ∈ service.entries, ∀ row,
    (entry.function.callbacks.accum entry.handle row).endsFrom service.heap =
      ((History.accum entry.history row).run entry.function.callbacks).endsFrom Heap.empty
  merge : ∀ {function left right x y rest},
    service.entries.Perm (⟨function, left, x⟩ :: ⟨function, right, y⟩ :: rest) →
    (function.callbacks.merge left right).endsFrom service.heap =
      ((History.merge x y).run function.callbacks).endsFrom Heap.empty
  serialize : ∀ entry ∈ service.entries, ∀ malloc,
    (extensionSketchHandleSerialize entry.handle malloc).outcomeFrom service.heap =
      (entry.history.output entry.function.callbacks malloc).outcomeFrom Heap.empty
  deserialize : ∀ parcel ∈ service.parcels,
    (extensionSketchHandleDeserialize parcel.blob).endsFrom service.heap =
      ((History.hop parcel.malloc parcel.history).run parcel.function.callbacks).endsFrom Heap.empty
  written : ∀ parcel ∈ service.parcels,
    (parcel.history.output parcel.function.callbacks parcel.malloc).outcomeFrom Heap.empty =
      .ok parcel.blob
  scalar : ∀ call : ScalarCall, call.code.outcomeFrom service.heap = call.code.outcomeFrom Heap.empty

/-- In any interleaving on one heap, every query sees what it would see alone. -/
theorem interleaving_isolated {service : Service} (reached : service.Reached) : service.Isolated := by
  have kept := reached.kept
  refine ⟨?accum, ?merge, ?serialize, ?deserialize, ?written, ?scalar⟩
  case accum =>
    intro entry member row
    obtain ⟨state, computed, owns⟩ := kept.entries entry member
    rw [(entry.function.computes_accum row owns).endsFrom_eq,
      ((History.accum entry.history row).computes_run Heap.empty).endsFrom_eq, History.state, computed]
    rfl
  case merge =>
    intro function left right x y rest holds
    have kept := kept.perm holds
    obtain ⟨first, computedLeft, ownsLeft⟩ := kept.entries ⟨function, left, x⟩ List.mem_cons_self
    obtain ⟨second, computedRight, ownsRight⟩ :=
      kept.entries ⟨function, right, y⟩ (List.mem_cons_of_mem _ List.mem_cons_self)
    have apart := List.rel_of_pairwise_cons kept.apart List.mem_cons_self
    rw [(function.computes_merge ownsLeft ownsRight apart).endsFrom_eq,
      ((History.merge x y).computes_run Heap.empty).endsFrom_eq, History.state, computedLeft,
      computedRight]
    rfl
  case serialize =>
    intro entry member malloc
    obtain ⟨state, computed, owns⟩ := kept.entries entry member
    rw [(computes_handleSerialize owns malloc).outcomeFrom_eq,
      (entry.history.computes_output malloc Heap.empty).outcomeFrom_eq, computed]
    rfl
  case deserialize =>
    intro parcel member
    have written := kept.parcels parcel member
    rw [(computes_handleDeserialize parcel.blob service.heap).endsFrom_eq,
      ((History.hop parcel.malloc parcel.history).computes_run Heap.empty).endsFrom_eq, History.state,
      ← bind_assoc, written]
    rfl
  case written =>
    intro parcel member
    rw [(parcel.history.computes_output parcel.malloc Heap.empty).outcomeFrom_eq]
    exact kept.parcels parcel member
  case scalar =>
    intro call
    rw [(call.computes service.heap).outcomeFrom_eq, (call.computes Heap.empty).outcomeFrom_eq]

theorem interleaving_isolated_two : ∃ service : Service, service.entries.length = 2 ∧
    service.heap.next ≠ 0 ∧ service.Isolated := by
  obtain ⟨next, run, _⟩ := (gathers_new {} (by decide)).updateByHash 5
  obtain ⟨handle, after, fed, frame, address, rfl, _, owns⟩ :=
    @returns_buildAccumByHash Heap.empty none none _ next 5 .none rfl run
  have both := ((Service.Reached.start Heap.empty).init .union).init .buildByHash
  exact ⟨_, rfl, (Nat.zero_lt_of_lt owns.below).ne',
    interleaving_isolated (both.accum (List.Perm.refl _) fed)⟩

end ThetaSketch
