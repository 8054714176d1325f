import ThetaSketch.Extension.Handle

/-! What the callbacks do to a heap in which they own what they are given.

Each lemma names the cells that a piece of code may touch; all others below the
frontier stay as they are. The recorded accesses play no part here.
-/

set_option autoImplicit false

namespace ThetaSketch

structure Heap.Holds (heap : Heap) (address : ℕ) (object : Object) (stateType : AggStateType) :
    Prop where
  below : address < heap.next
  cell : heap.cells address = some ⟨object, stateType⟩

def Heap.Owns (heap : Heap) (address : ℕ) (object : Object) : Prop :=
  heap.Holds address object object.stateType

/-- Only the owned cells changed, and cells beyond the frontier. -/
structure Frame (owned : List ℕ) (before after : Heap) : Prop where
  next : before.next ≤ after.next
  same : ∀ address < before.next, address ∉ owned → after.cells address = before.cells address

namespace Frame

variable {owned : List ℕ} {before middle after : Heap}

theorem refl (owned : List ℕ) (heap : Heap) : Frame owned heap heap :=
  ⟨Nat.le_refl _, fun _ _ _ => rfl⟩

theorem trans {more : List ℕ} (first : Frame owned before middle) (second : Frame more middle after)
    (new : ∀ address ∈ more, address ∈ owned ∨ before.next ≤ address) : Frame owned before after := by
  refine ⟨first.next.trans second.next, fun address below apart => ?_⟩
  have outside : address ∉ more := by
    intro member
    rcases new address member with inside | above
    · exact apart inside
    · omega
  rw [second.same address (below.trans_le first.next) outside, first.same address below apart]

theorem holds {address : ℕ} {object : Object} {stateType : AggStateType}
    (frame : Frame owned before after) (holds : before.Holds address object stateType)
    (apart : address ∉ owned) : after.Holds address object stateType :=
  ⟨holds.below.trans_le frame.next, (frame.same address holds.below apart).trans holds.cell⟩

end Frame

/-- The code returns, touches the owned cells only, and `post` holds of its value
and of the heap that it leaves. -/
def Returns {A : Type} (code : HeapM A) (before : Heap) (owned : List ℕ)
    (post : A → Heap → Prop) : Prop :=
  ∃ value after, code before = .ok value after ∧ Frame owned before after ∧ post value after

namespace Returns

variable {A B : Type} {code : HeapM A} {before : Heap} {owned : List ℕ} {post : A → Heap → Prop}

/-- The rest may own what the first step left, at old addresses or at new ones. -/
theorem bind {next : A → HeapM B} {final : B → Heap → Prop}
    (first : Returns code before owned post) (more : A → List ℕ)
    (rest : ∀ value middle, Frame owned before middle → post value middle →
      (∀ address ∈ more value, address ∈ owned ∨ before.next ≤ address) ∧
        Returns (next value) middle (more value) final) :
    Returns (code >>= next) before owned final := by
  obtain ⟨value, middle, run, frame, holds⟩ := first
  obtain ⟨new, result, after, more, step, done⟩ := rest value middle frame holds
  refine ⟨result, after, ?_, frame.trans step new, done⟩
  simp only [Bind.bind, EStateM.bind, run]
  exact more

theorem weaken {wider : List ℕ} {other : A → Heap → Prop} (returns : Returns code before owned post)
    (inside : ∀ address ∈ owned, address ∈ wider ∨ before.next ≤ address)
    (imp : ∀ value after, Frame owned before after → post value after → other value after) :
    Returns code before wider other := by
  obtain ⟨value, after, run, frame, holds⟩ := returns
  exact ⟨value, after, run, (Frame.refl wider before).trans frame inside, imp value after frame holds⟩

theorem imp {other : A → Heap → Prop} (returns : Returns code before owned post)
    (imp : ∀ value after, Frame owned before after → post value after → other value after) :
    Returns code before owned other :=
  returns.weaken (fun _ => Or.inl) imp

theorem andThen {next : A → HeapM B} {final : B → Heap → Prop}
    (first : Returns code before owned post)
    (rest : ∀ value middle, Frame owned before middle → post value middle →
      Returns (next value) middle owned final) :
    Returns (code >>= next) before owned final :=
  first.bind (fun _ => owned) fun value middle frame holds =>
    ⟨fun _ => Or.inl, rest value middle frame holds⟩

/-- The first step touches nothing that the rest does not own. -/
theorem look {next : A → HeapM B} {final : B → Heap → Prop}
    (first : Returns code before [] post)
    (rest : ∀ value middle, Frame [] before middle → post value middle →
      Returns (next value) middle owned final) :
    Returns (code >>= next) before owned final := by
  have wide : Returns code before owned fun value after => Frame [] before after ∧ post value after :=
    first.weaken (by simp) fun _ _ frame holds => ⟨frame, holds⟩
  exact wide.andThen fun value middle _ both => rest value middle both.1 both.2

theorem pure {value : A} (holds : post value before) :
    Returns (Pure.pure value) before owned post :=
  ⟨value, before, rfl, Frame.refl _ _, holds⟩

theorem liftRun {run : Run A} {value : A} (same : run = .ok value) :
    Returns (ThetaSketch.liftRun run) before owned fun result after =>
      value = result ∧ before = after := by
  subst same
  exact ⟨value, before, rfl, Frame.refl _ _, rfl, rfl⟩

end Returns

section Primitives

variable {heap : Heap} {address : ℕ} {stateType : AggStateType}

theorem returns_allocate (object : Object) (heap : Heap) :
    Returns (allocate object) heap [] fun ptr after =>
      ptr = heap.next ∧ after.Holds ptr object .mutableSketch := by
  refine ⟨_, _, rfl, ⟨Nat.le_succ _, fun other below _ => ?_⟩, rfl, Nat.lt_succ_self _, ?_⟩
  · exact Function.update_of_ne below.ne _ _
  · exact Function.update_self _ _ _

theorem returns_fresh (object : Object) (heap : Heap) :
    Returns (allocate object) heap [] fun ptr after =>
      heap.next ≤ ptr ∧ after.Holds ptr object .mutableSketch := by
  refine (returns_allocate object heap).imp ?_
  rintro ptr after - ⟨rfl, made⟩
  exact ⟨Nat.le_refl _, made⟩

theorem returns_visit {object : Object} (holds : heap.Holds address object stateType)
    (access : Option Cell → Access) :
    Returns (visit address access) heap [] fun cell _ => cell = ⟨object, stateType⟩ := by
  refine ⟨_, { heap with accesses := heap.accesses ++ [access (heap.cells address)] }, ?_,
    ⟨Nat.le_refl _, fun _ _ _ => rfl⟩, rfl⟩
  simp only [visit, holds.cell]

theorem returns_store (below : address < heap.next) (cell : Option Cell) :
    Returns (store address cell) heap [address] fun _ after =>
      address < after.next ∧ after.cells address = cell := by
  refine ⟨(), { heap with cells := Function.update heap.cells address cell }, rfl,
    ⟨Nat.le_refl _, fun other _ apart => ?_⟩, below, Function.update_self _ _ _⟩
  exact Function.update_of_ne (by simpa using apart) _ _

theorem returns_setType {object : Object} (holds : heap.Holds address object stateType)
    (other : AggStateType) :
    Returns (thetaDataSetType address other) heap [address] fun _ after =>
      after.Holds address object other := by
  refine (returns_visit holds _).look ?_
  rintro _ middle frame rfl
  refine (returns_store (holds.below.trans_le frame.next) _).imp ?_
  exact fun _ after _ stored => ⟨stored.1, stored.2⟩

theorem returns_getType {object : Object} (holds : heap.Holds address object stateType) :
    Returns (thetaDataGetType address) heap [] fun value _ => value = stateType := by
  refine (returns_visit holds _).look ?_
  rintro _ middle _ rfl
  exact .pure rfl

theorem returns_assign {object : Object} (holds : heap.Holds address object stateType)
    (other : Object) :
    Returns (assign address other) heap [address] fun _ after =>
      after.Holds address other stateType := by
  obtain ⟨cells, isCells⟩ : ∃ cells, cells = Function.update heap.cells address
      (some ⟨other, stateType⟩) := ⟨_, rfl⟩
  have run : assign address other heap = .ok () { heap with cells := cells } := by
    simp only [assign, holds.cell, Option.map_some, isCells]
  refine ⟨_, _, run, ⟨Nat.le_refl _, fun third _ apart => ?_⟩, holds.below, ?_⟩
  · simp only [isCells]
    exact Function.update_of_ne (by simpa using apart) _ _
  · simp only [isCells, Function.update_self]

theorem returns_delete {object : Object} (holds : heap.Holds address object stateType)
    (target : HandleClass) :
    Returns (delete address target) heap [address] fun _ _ => True := by
  refine (returns_visit holds _).look fun _ middle frame _ => ?_
  exact (returns_store (holds.below.trans_le frame.next) _).imp fun _ _ _ _ => trivial

theorem returns_castTo {A : Type} {object : Object} (members : Object → Option A) {value : A}
    (holds : heap.Holds address object stateType) (target : HandleClass)
    (offers : members object = some value) :
    Returns (castTo target members address) heap [] fun result _ => result = value := by
  refine (returns_visit holds _).look ?_
  rintro _ middle _ rfl
  rw [offers]
  exact .pure rfl

theorem returns_toUpdateThetaSketch {sketch : UpdateSketch}
    (holds : heap.Holds address (.updateThetaSketch sketch) stateType) :
    Returns (toUpdateThetaSketch address) heap [] fun result _ => result = sketch :=
  returns_castTo Object.asUpdateThetaSketch holds _ rfl

theorem returns_toCompactThetaSketch {sketch : CompactSketch}
    (holds : heap.Holds address (.compactThetaSketch sketch) stateType) :
    Returns (toCompactThetaSketch address) heap [] fun result _ => result = sketch :=
  returns_castTo Object.asCompactThetaSketch holds _ rfl

theorem returns_toThetaUnion {union : ThetaUnion}
    (holds : heap.Holds address (.thetaUnion union) stateType) :
    Returns (toThetaUnion address) heap [] fun result _ => result = union :=
  returns_castTo Object.asThetaUnion holds _ rfl

theorem returns_toThetaIntersection {intersection : ThetaIntersection}
    (holds : heap.Holds address (.thetaIntersection intersection) stateType) :
    Returns (toThetaIntersection address) heap [] fun result _ => result = intersection :=
  returns_castTo Object.asThetaIntersection holds _ rfl

theorem returns_replace {old : Object} (holds : heap.Holds address old stateType) (object : Object)
    (target : HandleClass) :
    Returns (do
      let ptr ← allocate object
      delete address target
      return ptr) heap [address] fun ptr after =>
        heap.next ≤ ptr ∧ after.Holds ptr object .mutableSketch := by
  refine (returns_allocate object heap).look ?_
  rintro _ middle frame ⟨rfl, made⟩
  have apart : heap.next ∉ [address] := by
    have := holds.below
    simp only [List.mem_singleton]
    omega
  refine (returns_delete (frame.holds holds (by simp)) target).andThen ?_
  rintro _ after last -
  exact .pure ⟨Nat.le_refl _, last.holds made apart⟩

end Primitives

end ThetaSketch
