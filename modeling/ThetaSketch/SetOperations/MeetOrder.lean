import ThetaSketch.SetOperations.Intersection

/-! How much the order and the grouping of an intersection matter.

The common keys never depend on them. Whether the result is flagged empty may:
exact sketches that share no key make an empty sketch once they meet, unless a
state without keys, or with a lower `theta`, met them first.
-/

set_option autoImplicit false

namespace ThetaSketch

open Threshold

namespace Meet

/-- What holds of every sketch and of every running intersection. -/
structure Proper (sketch : Meet) : Prop where
  bound : sketch.theta ≤ maxTheta
  range : ∀ hash ∈ sketch.keys, 0 < hash ∧ hash < sketch.theta
  void : sketch.isEmpty = true → sketch = Meet.void

theorem proper_void : Proper void := ⟨le_rfl, by simp [void], fun _ => rfl⟩

def Clash (left right : Meet) : Prop :=
  left.theta = maxTheta ∧ right.theta = maxTheta ∧ left.keys.Nonempty ∧ right.keys.Nonempty ∧
    left.keys ∩ right.keys = ∅

instance (left right : Meet) : Decidable (Clash left right) := by
  unfold Clash
  infer_instance

section Step

variable {left right : Meet}

theorem update_none (proper : right.Proper) : update none right = right := by
  cases flagged : right.isEmpty with
  | true =>
    rw [proper.void flagged]
    rfl
  | false =>
    simp only [update, flagged, Bool.false_eq_true, if_false, min_eq_right proper.bound]
    rw [← flagged]

theorem update_some (properLeft : left.Proper) (properRight : right.Proper) :
    update (some left) right =
      if left.isEmpty = true ∨ right.isEmpty = true ∨ Clash left right then void
      else ⟨false, min left.theta right.theta, left.keys ∩ right.keys⟩ := by
  -- Shared keys lie below both thresholds, so sampling drops none of them.
  have common : sample (left.keys ∩ right.keys) (min left.theta right.theta) =
      left.keys ∩ right.keys := by
    refine Finset.filter_true_of_mem fun hash member => ?_
    rw [Finset.mem_inter] at member
    exact lt_min (properLeft.range hash member.1).2 (properRight.range hash member.2).2
  cases closed : left.isEmpty with
  | true =>
    rw [if_pos (.inl rfl), update, if_pos closed]
    exact properLeft.void closed
  | false =>
    cases flagged : right.isEmpty with
    | true => simp [update, closed, flagged]
    | false =>
      have narrowed : update (some left) right = left.narrow right := by
        simp [update, closed, flagged]
      simp only [narrowed, narrow, common, Bool.false_eq_true, false_or]
      -- With no keys on one side nothing is matched, and there is no clash.
      by_cases bare : left.keys = ∅ ∨ right.keys = ∅
      · have apart : ¬ Clash left right := by
          rintro ⟨_, _, some_left, some_right, _⟩
          exact bare.elim some_left.ne_empty some_right.ne_empty
        have none_shared : left.keys ∩ right.keys = ∅ := by
          rcases bare with bare | bare <;> simp [bare]
        rw [if_pos bare, if_neg apart, none_shared]
      · obtain ⟨some_left, some_right⟩ := not_or.mp bare
        rw [if_neg bare]
        -- Matching found nothing: the state closes only when both sides are exact.
        by_cases disjoint : left.keys ∩ right.keys = ∅
        · rw [if_pos disjoint, disjoint]
          by_cases exact : min left.theta right.theta = maxTheta
          · have wholeLeft := le_antisymm properLeft.bound (exact ▸ min_le_left _ _)
            have wholeRight := le_antisymm properRight.bound (exact ▸ min_le_right _ _)
            have clash : Clash left right := ⟨wholeLeft, wholeRight,
              Finset.nonempty_iff_ne_empty.mpr some_left, Finset.nonempty_iff_ne_empty.mpr some_right,
              disjoint⟩
            rw [if_pos clash, exact]
            rfl
          · have apart : ¬ Clash left right := by
              rintro ⟨wholeLeft, wholeRight, _⟩
              exact exact (by rw [wholeLeft, wholeRight, min_self])
            rw [if_neg apart, decide_eq_false exact]
        · have apart : ¬ Clash left right := fun clash => disjoint clash.2.2.2.2
          rw [if_neg disjoint, if_neg apart]

theorem proper_update (properLeft : left.Proper) (properRight : right.Proper) :
    (update (some left) right).Proper := by
  rw [update_some properLeft properRight]
  split_ifs with closes
  · exact proper_void
  · refine ⟨(min_le_left _ _).trans properLeft.bound, fun hash member => ?_,
      by rintro ⟨⟩⟩
    rw [Finset.mem_inter] at member
    obtain ⟨positive, below⟩ := properLeft.range hash member.1
    exact ⟨positive, lt_min below (properRight.range hash member.2).2⟩

theorem keys_update (properLeft : left.Proper) (properRight : right.Proper) :
    (update (some left) right).keys = left.keys ∩ right.keys := by
  rw [update_some properLeft properRight]
  split_ifs with closes
  · rcases closes with closed | closed | clash
    · rw [properLeft.void closed]
      simp [void]
    · rw [properRight.void closed]
      simp [void]
    · exact clash.2.2.2.2.symm
  · rfl

theorem isEmpty_update (properLeft : left.Proper) (properRight : right.Proper) :
    (update (some left) right).isEmpty = true ↔
      left.isEmpty = true ∨ right.isEmpty = true ∨ Clash left right := by
  rw [update_some properLeft properRight]
  split_ifs with closes
  · exact iff_of_true rfl closes
  · exact iff_of_false id closes

theorem theta_update (properLeft : left.Proper) (properRight : right.Proper)
    (stays : (update (some left) right).isEmpty = false) :
    (update (some left) right).theta = min left.theta right.theta := by
  have opens := mt (isEmpty_update properLeft properRight).mpr (by simp [stays])
  rw [update_some properLeft properRight, if_neg opens]

end Step

inductive Combines : List Meet → Meet → Prop
  | one (sketch : Meet) : Combines [sketch] sketch
  | join {inputs others : List Meet} {left right : Meet} (first : Combines inputs left)
      (second : Combines others right) : Combines (inputs ++ others) (update (some left) right)

/-- An exact sketch with entries: the only kind that can make a result empty. -/
def isExact (sketch : Meet) : Bool :=
  !sketch.isEmpty && decide (sketch.theta = maxTheta) && decide sketch.keys.Nonempty

theorem isExact_iff {sketch : Meet} : sketch.isExact = true ↔
    sketch.isEmpty = false ∧ sketch.theta = maxTheta ∧ sketch.keys.Nonempty := by
  simp [isExact, and_assoc]

def Shares (inputs : List Meet) : Prop := ∃ hash, ∀ input ∈ inputs, input.isExact = true → hash ∈ input.keys

def leastTheta (inputs : List Meet) : ℕ := (inputs.map theta).foldr min maxTheta

theorem leastTheta_cons (input : Meet) (inputs : List Meet) :
    leastTheta (input :: inputs) = min input.theta (leastTheta inputs) := rfl

theorem le_leastTheta_iff {inputs : List Meet} {bound : ℕ} :
    bound ≤ leastTheta inputs ↔ bound ≤ maxTheta ∧ ∀ input ∈ inputs, bound ≤ input.theta := by
  induction inputs with
  | nil => simp [leastTheta]
  | cons input rest ih =>
    rw [leastTheta_cons, le_min_iff, ih, List.forall_mem_cons]
    tauto

theorem leastTheta_append (inputs others : List Meet) :
    leastTheta (inputs ++ others) = min (leastTheta inputs) (leastTheta others) := by
  refine eq_of_forall_le_iff fun bound => ?_
  simp only [le_min_iff, le_leastTheta_iff, List.forall_mem_append]
  tauto

/-- What every way to intersect the inputs agrees on. -/
structure Agrees (inputs : List Meet) (state : Meet) : Prop where
  sources : ∀ input ∈ inputs, input.Proper
  proper : state.Proper
  keys : ∀ hash, hash ∈ state.keys ↔ ∀ input ∈ inputs, hash ∈ input.keys
  theta : state.isEmpty = false → state.theta = leastTheta inputs
  closed : ∀ input ∈ inputs, input.isEmpty = true → state.isEmpty = true
  caused : state.isEmpty = true → (∃ input ∈ inputs, input.isEmpty = true) ∨ ¬ Shares inputs
  exact : (∀ input ∈ inputs, input.isExact = true) → ¬ Shares inputs → state.isEmpty = true

namespace Agrees

variable {inputs others : List Meet} {left right : Meet}

theorem one {sketch : Meet} (proper : sketch.Proper) : Agrees [sketch] sketch where
  sources := by simpa using proper
  proper := proper
  keys := by simp
  theta := fun _ => (min_eq_left proper.bound).symm
  closed := by simp
  caused := fun flagged => .inl ⟨sketch, List.mem_cons_self, flagged⟩
  exact := by
    intro exact apart
    obtain ⟨_, _, hash, member⟩ := isExact_iff.mp (exact sketch List.mem_cons_self)
    exact absurd ⟨hash, by simpa using fun _ => member⟩ apart

theorem nonempty_of_exact (agrees : Agrees inputs left)
    (exact : ∀ input ∈ inputs, input.isExact = true) (stays : left.isEmpty = false) :
    left.keys.Nonempty := by
  have shares : Shares inputs := by
    by_contra apart
    rw [agrees.exact exact apart] at stays
    cases stays
  obtain ⟨hash, member⟩ := shares
  exact ⟨hash, (agrees.keys hash).mpr fun input inside => member input inside (exact input inside)⟩

theorem theta_of_exact (agrees : Agrees inputs left)
    (exact : ∀ input ∈ inputs, input.isExact = true) (stays : left.isEmpty = false) :
    left.theta = maxTheta := by
  refine le_antisymm agrees.proper.bound ?_
  rw [agrees.theta stays, le_leastTheta_iff]
  exact ⟨le_rfl, fun input inside => (isExact_iff.mp (exact input inside)).2.1.ge⟩

/-- A state with keys and no `theta` of its own met exact inputs only. -/
theorem exact_of_clash (agrees : Agrees inputs left) (whole : left.theta = maxTheta)
    (some_key : left.keys.Nonempty) : ∀ input ∈ inputs, input.isExact = true := by
  have stays : left.isEmpty = false := by
    by_contra closed
    rw [agrees.proper.void (by simpa using closed)] at some_key
    exact Finset.not_nonempty_empty some_key
  intro input inside
  obtain ⟨hash, member⟩ := some_key
  have least := (agrees.theta stays).symm.trans whole
  refine isExact_iff.mpr ⟨?_, ?_, hash, (agrees.keys hash).mp member input inside⟩
  · by_contra flagged
    rw [agrees.closed input inside (by simpa using flagged)] at stays
    cases stays
  · exact le_antisymm (agrees.sources input inside).bound ((le_leastTheta_iff.mp least.ge).2 input inside)

theorem join (first : Agrees inputs left) (second : Agrees others right) :
    Agrees (inputs ++ others) (update (some left) right) where
  sources := List.forall_mem_append.mpr ⟨first.sources, second.sources⟩
  proper := proper_update first.proper second.proper
  keys := by
    intro hash
    rw [keys_update first.proper second.proper, Finset.mem_inter, first.keys, second.keys,
      List.forall_mem_append]
  theta := by
    intro stays
    have opens := mt (isEmpty_update first.proper second.proper).mpr (by simp [stays])
    rw [theta_update first.proper second.proper stays, leastTheta_append,
      first.theta (by simpa using mt Or.inl opens),
      second.theta (by simpa using mt (Or.inr ∘ Or.inl) opens)]
  closed := by
    intro input inside flagged
    rw [isEmpty_update first.proper second.proper]
    rcases List.mem_append.mp inside with inside | inside
    · exact .inl (first.closed input inside flagged)
    · exact .inr (.inl (second.closed input inside flagged))
  caused := by
    rw [isEmpty_update first.proper second.proper]
    rintro (closed | closed | clash)
    · rcases first.caused closed with ⟨input, inside, flagged⟩ | apart
      · exact .inl ⟨input, List.mem_append_left _ inside, flagged⟩
      · exact .inr fun shares => apart (shares.imp fun hash common input inside =>
          common input (List.mem_append_left _ inside))
    · rcases second.caused closed with ⟨input, inside, flagged⟩ | apart
      · exact .inl ⟨input, List.mem_append_right _ inside, flagged⟩
      · exact .inr fun shares => apart (shares.imp fun hash common input inside =>
          common input (List.mem_append_right _ inside))
    · -- Only exact inputs can have led to a clash, and they share what both sides share.
      obtain ⟨wholeLeft, wholeRight, someLeft, someRight, disjoint⟩ := clash
      right
      rintro ⟨hash, common⟩
      have exactLeft := first.exact_of_clash wholeLeft someLeft
      have exactRight := second.exact_of_clash wholeRight someRight
      have inLeft : hash ∈ left.keys := (first.keys hash).mpr fun input inside =>
        common input (List.mem_append_left _ inside) (exactLeft input inside)
      have inRight : hash ∈ right.keys := (second.keys hash).mpr fun input inside =>
        common input (List.mem_append_right _ inside) (exactRight input inside)
      have both := Finset.mem_inter.mpr ⟨inLeft, inRight⟩
      rw [disjoint] at both
      exact absurd both (Finset.notMem_empty hash)
  exact := by
    intro exact apart
    obtain ⟨exactLeft, exactRight⟩ := List.forall_mem_append.mp exact
    rw [isEmpty_update first.proper second.proper]
    cases closedLeft : left.isEmpty with
    | true => exact .inl rfl
    | false =>
      cases closedRight : right.isEmpty with
      | true => exact .inr (.inl rfl)
      | false =>
        refine .inr (.inr ⟨first.theta_of_exact exactLeft closedLeft,
          second.theta_of_exact exactRight closedRight, first.nonempty_of_exact exactLeft closedLeft,
          second.nonempty_of_exact exactRight closedRight, ?_⟩)
        ext hash
        rw [Finset.mem_inter, first.keys, second.keys, ← List.forall_mem_append]
        exact iff_of_false (fun common => apart ⟨hash, fun input inside _ => common input inside⟩)
          (Finset.notMem_empty hash)

theorem of_combines {state : Meet} (combines : Combines inputs state)
    (proper : ∀ input ∈ inputs, input.Proper) : Agrees inputs state := by
  induction combines with
  | one sketch => exact .one (proper sketch List.mem_cons_self)
  | join _ _ ihFirst ihSecond =>
    obtain ⟨properFirst, properSecond⟩ := List.forall_mem_append.mp proper
    exact (ihFirst properFirst).join (ihSecond properSecond)

end Agrees

/-! The order of the inputs. -/

/-- No input is flagged empty, the exact inputs share no hash, and they are not
alone: then some ways to intersect the inputs make an empty sketch and others do not. -/
def Unsettled (inputs : List Meet) : Prop :=
  (∀ input ∈ inputs, input.isEmpty = false) ∧ ¬ Shares inputs ∧ ∃ input ∈ inputs, input.isExact = false

theorem Agrees.isEmpty_iff {inputs : List Meet} {state : Meet} (agrees : Agrees inputs state)
    (settled : ¬ Unsettled inputs) :
    state.isEmpty = true ↔ (∃ input ∈ inputs, input.isEmpty = true) ∨ ¬ Shares inputs := by
  refine ⟨agrees.caused, ?_⟩
  rintro (⟨input, inside, flagged⟩ | apart)
  · exact agrees.closed input inside flagged
  · by_cases some_empty : ∃ input ∈ inputs, input.isEmpty = true
    · obtain ⟨input, inside, flagged⟩ := some_empty
      exact agrees.closed input inside flagged
    · refine agrees.exact (fun input inside => ?_) apart
      by_contra other
      refine settled ⟨fun input inside => ?_, apart, input, inside, by simpa using other⟩
      by_contra flagged
      exact some_empty ⟨input, inside, by simpa using flagged⟩

def fold (inputs : List Meet) : Option Meet :=
  inputs.foldl (fun state input => some (update state input)) none

theorem fold_append (inputs : List Meet) (input : Meet) :
    fold (inputs ++ [input]) = some (update (fold inputs) input) := by
  rw [fold, List.foldl_append]
  rfl

theorem combines_fold {inputs : List Meet} (proper : ∀ input ∈ inputs, input.Proper)
    (some_input : inputs ≠ []) : ∃ state, fold inputs = some state ∧ Combines inputs state := by
  induction inputs using List.reverseRecOn with
  | nil => exact absurd rfl some_input
  | append_singleton inputs input ih =>
    obtain ⟨earlier, last⟩ := List.forall_mem_append.mp proper
    refine ⟨_, fold_append inputs input, ?_⟩
    by_cases start : inputs = []
    · subst start
      change Combines [input] (update none input)
      rw [update_none (last input List.mem_cons_self)]
      exact .one input
    · obtain ⟨state, folded, combines⟩ := ih earlier start
      rw [folded]
      exact combines.join (.one input)

section Unsettled

variable {inputs : List Meet}

theorem fold_exact_first (unsettled : Unsettled inputs) (proper : ∀ input ∈ inputs, input.Proper) :
    ∃ state, fold (inputs.filter isExact ++ inputs.filter fun input => !input.isExact) = some state ∧
      state.isEmpty = true := by
  obtain ⟨_, apart, _⟩ := unsettled
  have only : ¬ Shares (inputs.filter isExact) := fun shares => apart <| shares.imp
    fun hash common input inside exact => common input (List.mem_filter.mpr ⟨inside, exact⟩) exact
  have some_exact : inputs.filter isExact ≠ [] := fun none => only ⟨0, by simp [none]⟩
  have kept : ∀ input ∈ inputs.filter isExact, input.Proper := fun input member =>
    proper input (List.mem_filter.mp member).1
  obtain ⟨state, folded, combines⟩ := combines_fold kept some_exact
  have closed := (Agrees.of_combines combines kept).exact
    (fun input member => (List.mem_filter.mp member).2) only
  rw [fold, List.foldl_append]
  change ∃ final, List.foldl _ (fold (inputs.filter isExact)) _ = some final ∧ _
  rw [folded]
  refine ⟨state, ?_, closed⟩
  induction inputs.filter fun input => !input.isExact with
  | nil => rfl
  | cons input rest ih =>
    rw [List.foldl_cons, update, if_pos closed]
    exact ih

/-- A state that is not exact stays so, and never turns into an empty sketch. -/
theorem fold_other_first {first : Meet} {rest : List Meet} (other : first.isExact = false)
    (proper : ∀ input ∈ first :: rest, input.Proper)
    (full : ∀ input ∈ first :: rest, input.isEmpty = false) :
    ∃ state, fold (first :: rest) = some state ∧ state.isEmpty = false := by
  have start : fold (first :: rest) =
      rest.foldl (fun state input => some (update state input)) (some first) := by
    rw [fold, List.foldl_cons, update_none (proper first List.mem_cons_self)]
  rw [start]
  obtain ⟨properFirst, properRest⟩ := List.forall_mem_cons.mp proper
  obtain ⟨fullFirst, fullRest⟩ := List.forall_mem_cons.mp full
  clear start proper full
  -- A state that is not exact clashes with no input, and stays not exact.
  induction rest generalizing first with
  | nil => exact ⟨first, rfl, fullFirst⟩
  | cons input rest ih =>
    obtain ⟨properInput, properRest⟩ := List.forall_mem_cons.mp properRest
    obtain ⟨fullInput, fullRest⟩ := List.forall_mem_cons.mp fullRest
    have apart : ¬ Clash first input := by
      rintro ⟨whole, _, some_key, _⟩
      rw [isExact_iff.mpr ⟨fullFirst, whole, some_key⟩] at other
      cases other
    have next : update (some first) input =
        ⟨false, min first.theta input.theta, first.keys ∩ input.keys⟩ := by
      rw [update_some properFirst properInput, if_neg]
      rintro (closed | closed | clash)
      · exact absurd closed (by simp [fullFirst])
      · exact absurd closed (by simp [fullInput])
      · exact apart clash
    rw [List.foldl_cons]
    refine ih ?_ (proper_update properFirst properInput) properRest (by rw [next]) fullRest
    by_contra exact
    rw [next, Bool.not_eq_false, isExact_iff] at exact
    obtain ⟨_, whole, hash, member⟩ := exact
    have exact : first.isExact = true := isExact_iff.mpr ⟨fullFirst,
      le_antisymm properFirst.bound (whole ▸ min_le_left _ _),
      hash, (Finset.mem_inter.mp member).1⟩
    rw [exact] at other
    cases other

end Unsettled

end Meet

end ThetaSketch
