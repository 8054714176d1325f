import ThetaSketch.Format.RoundTrip
import ThetaSketch.SetOperations.Exact
import ThetaSketch.SetOperations.Union
import ThetaSketch.Sketch.Lifecycle

/-! The compact sketches that a program can get hold of.

They come from update sketches and from operations on sketches that were there
before, under any builder and with or without sorting. All of them have the shape
that the writer relies on, except for one: a sampling union that saw nothing.
-/

set_option autoImplicit false

namespace ThetaSketch

open OpenAddressing Threshold

structure ThetaBaseBuilder.Builds (builder : ThetaBaseBuilder) (seed : UInt64) : Prop where
  large : minLgK ≤ builder.lgK
  small : builder.lgK ≤ maxLgK
  seed : builder.seed = seed

/-- What a program can derive under `seed`, if its unions are `allowed`. -/
inductive CompactSketch.Reachable (allowed : ThetaBaseBuilder → List CompactSketch → Prop)
    (seed : UInt64) : CompactSketch → Prop where
  | compact {builder : ThetaBaseBuilder} {calls : List Call} {updated : UpdateSketch}
      {sketch : CompactSketch} (ordered : Bool) (builds : builder.Builds seed)
      (fed : (UpdateSketch.new builder).callAll calls = .ok updated)
      (run : updated.compact ordered = .ok sketch) : Reachable allowed seed sketch
  | union {builder : ThetaBaseBuilder} {inputs : List CompactSketch} {state : ThetaUnion}
      (ordered : Bool) (builds : builder.Builds seed)
      (reachable : ∀ input ∈ inputs, Reachable allowed seed input) (step : allowed builder inputs)
      (fed : (inputs.map CompactSketch.view).foldlM ThetaUnion.update (ThetaUnion.new builder) =
        .ok state) : Reachable allowed seed (state.getResult ordered)
  | intersection {inputs : List CompactSketch} {state : ThetaIntersection} {sketch : CompactSketch}
      (ordered : Bool) (reachable : ∀ input ∈ inputs, Reachable allowed seed input)
      (fed : (inputs.map CompactSketch.view).foldlM ThetaIntersection.update
        (ThetaIntersection.new seed) = .ok state)
      (run : state.getResult ordered = .ok sketch) : Reachable allowed seed sketch
  | aNotB {a b sketch : CompactSketch} (ordered : Bool) (first : Reachable allowed seed a)
      (second : Reachable allowed seed b)
      (run : (ThetaANotB.new seed).compute a.view b.view ordered = .ok sketch) :
      Reachable allowed seed sketch

/-- The union starts from the largest `theta`, or it has a sketch to unite that is not empty. -/
def Anchored (builder : ThetaBaseBuilder) (inputs : List CompactSketch) : Prop :=
  builder.startingTheta = maxTheta ∨ ∃ input ∈ inputs, input.isEmpty = false

/-- The shape of a sketch that a program got hold of. -/
structure Shaped (seed : UInt64) (view : SketchView) (E : List ℕ) : Prop where
  valid : ValidInput seed view E
  fits : E.length + 3 < 2 ^ 29
  short : E.length ≤ 1 → view.isOrdered = true

theorem startingTheta_le (builder : ThetaBaseBuilder) : builder.startingTheta ≤ maxTheta := by
  unfold ThetaBaseBuilder.startingTheta startingThetaFromP
  split_ifs with sampled
  · have scaled : (2 : ℚ) ^ 63 * builder.p < ((2 ^ 63 : ℤ) : ℚ) := by
      push_cast
      nlinarith
    have below := Int.floor_lt.mpr scaled
    unfold maxTheta
    omega
  · exact le_rfl

section Compact

variable {seed : UInt64} {view : SketchView} {E : List ℕ}

theorem Shaped.serializable {sketch : CompactSketch}
    (shaped : Shaped seed sketch.view sketch.entries) : sketch.Serializable seed where
  words := fun entry member =>
    ((shaped.valid.range entry member).2.trans_le shaped.valid.bound).trans (by decide)
  theta := shaped.valid.bound.trans_lt (by decide)
  hash := by
    have same : sketch.seedHash = computeSeedHash seed := shaped.valid.seedHash
    rw [same]
    exact computeSeedHash_lt _
  seed := fun _ => shaped.valid.seedHash
  count := shaped.fits
  empty := fun flagged => (shaped.valid.empty flagged).1
  bound := shaped.valid.bound
  ordered := shaped.short
  exact := fun flagged => (shaped.valid.empty flagged).2
  proper := fun entry member => (shaped.valid.range entry member).1

theorem shaped_new {isEmpty isOrdered : Bool} {theta : ℕ} (distinct : E.Nodup)
    (range : ∀ hash ∈ E, 0 < hash ∧ hash < theta) (bound : theta ≤ maxTheta)
    (sorted : isOrdered = true → E.Pairwise (· < ·)) (fits : E.length + 3 < 2 ^ 29)
    (empty : isEmpty = true → E = [] ∧ theta = maxTheta) :
    Shaped seed (CompactSketch.new isEmpty isOrdered (computeSeedHash seed) theta E).view E := by
  have reads := (CompactSketch.new isEmpty isOrdered (computeSeedHash seed) theta E).view_entries
    fun hash member => (range hash member).1
  refine ⟨⟨reads, rfl, by omega, distinct, range, bound, fun flagged => ?_, rfl, empty⟩, fits, ?_⟩
  · have either : (isOrdered || decide (E.length ≤ 1)) = true := flagged
    rw [Bool.or_eq_true, decide_eq_true_iff] at either
    exact either.elim sorted pairwise_of_short
  · intro short
    change (isOrdered || decide (E.length ≤ 1)) = true
    rw [decide_eq_true short, Bool.or_true]

theorem Shaped.ofSketch (shaped : Shaped seed view E) {ordered : Bool} {sketch : CompactSketch}
    (run : CompactSketch.ofSketch view ordered = .ok sketch) :
    Shaped seed sketch.view sketch.entries := by
  have valid := shaped.valid
  -- The copy has the flag that the constructor would set for it.
  have copied : ∀ F : List ℕ, F.Perm E → ((view.isOrdered || ordered) = true → F.Pairwise (· < ·)) →
      sketch = ⟨view.isEmpty, view.isOrdered || ordered, view.seedHash, view.theta, F⟩ →
      Shaped seed sketch.view sketch.entries := by
    intro F same sorted isSketch
    have flag : (view.isOrdered || ordered) = (view.isOrdered || ordered || decide (F.length ≤ 1)) := by
      by_cases few : F.length ≤ 1
      · simp [shaped.short (same.length_eq ▸ few)]
      · simp [few]
    rw [isSketch, flag, valid.seedHash]
    refine shaped_new (same.nodup_iff.mpr valid.distinct) (fun hash member => ?_) valid.bound sorted
      (same.length_eq ▸ shaped.fits) fun flagged => ?_
    · exact valid.range hash (same.mem_iff.mp member)
    · obtain ⟨bare, whole⟩ := valid.empty flagged
      exact ⟨List.perm_nil.mp (bare ▸ same), whole⟩
  unfold CompactSketch.ofSketch at run
  cases flagged : view.isEmpty with
  | true =>
    simp only [flagged, if_true, Run.pure_eq, Run.ok_bind, Except.ok.injEq] at run
    have bare := (valid.empty flagged).1
    exact copied [] (bare ▸ List.Perm.refl _) (fun _ => List.Pairwise.nil) (by rw [← run, flagged])
  | false =>
    simp only [flagged, Bool.false_eq_true, if_false, valid.reads, mapM_map_ok, Run.pure_eq,
      Run.ok_bind, Except.ok.injEq] at run
    cases sorts : ordered && !view.isOrdered with
    | true =>
      rw [sorts, if_pos rfl] at run
      exact copied (sort E) (sort_perm E) (fun _ => sort_sorted valid.distinct) (by rw [← run, flagged])
    | false =>
      rw [sorts, if_neg (by simp)] at run
      refine copied E (List.Perm.refl _) (fun flags => valid.ordered ?_) (by rw [← run, flagged])
      cases order : view.isOrdered with
      | true => rfl
      | false =>
        rw [order] at flags sorts
        simp_all

end Compact

/-! Update sketches. -/

structure Built (builder : ThetaBaseBuilder) (sketch : UpdateSketch) : Prop where
  gathers : ∃ S, Gathers sketch builder.startingTheta S
  nominal : sketch.table.lgNomSize = builder.lgK
  rf : sketch.table.rf = builder.rf
  p : sketch.table.p = builder.p
  seed : sketch.table.seed = builder.seed
  fresh : sketch.table.isEmpty = true → sketch.table.stored = ∅

namespace Built

variable {builder : ThetaBaseBuilder} {sketch next : UpdateSketch}

theorem new (large : minLgK ≤ builder.lgK) : Built builder (UpdateSketch.new builder) :=
  ⟨⟨∅, gathers_new builder large⟩, rfl, rfl, rfl, rfl, fun _ => stored_new ..⟩

theorem updateByHash (built : Built builder sketch) {hash : ℕ}
    (run : sketch.updateByHash hash = .ok next) : Built builder next := by
  obtain ⟨S, gathers⟩ := built.gathers
  obtain ⟨after, same, step⟩ := sketch.updateByHash_spec gathers.grows hash
  obtain ⟨_, again, gathered, full, nominal, seed⟩ := gathers.updateByHash hash
  cases run.symm.trans same
  cases run.symm.trans again
  refine ⟨⟨_, gathered⟩, nominal.trans built.nominal, step.rf.trans built.rf, step.p.trans built.p,
    seed.trans built.seed, fun bare => ?_⟩
  rw [full] at bare
  cases bare

theorem trim (built : Built builder sketch) (run : sketch.trim = .ok next) : Built builder next := by
  obtain ⟨S, gathers⟩ := built.gathers
  obtain ⟨after, same, step⟩ := gathers.grows.trim
  rw [UpdateSketch.trim, same] at run
  cases run
  refine ⟨⟨S, step.grows, (step.exact (Finset.notMem_empty 0) gathers.counted).1, gathers.proper, ?_⟩,
    step.lgNomSize.trans built.nominal, step.rf.trans built.rf, step.p.trans built.p,
    step.seed.trans built.seed, fun bare => ?_⟩
  · have trims := step.trims (Finset.notMem_empty 0) gathers.counted gathers.trims
    rw [Finset.union_empty, ← step.lgNomSize] at trims
    exact trims
  · rw [step.stored, built.fresh (step.isEmpty ▸ bare)]
    rfl

theorem call (built : Built builder sketch) (large : minLgK ≤ builder.lgK) {call : Call}
    (run : sketch.call call = .ok next) : Built builder next := by
  cases call with
  | update data => exact built.updateByHash run
  | updateByHash hash => exact built.updateByHash run
  | trim => exact built.trim run
  | reset =>
    cases run
    rw [UpdateSketch.reset_eq built.nominal built.rf built.p built.seed]
    exact .new large

theorem callAll (built : Built builder sketch) (large : minLgK ≤ builder.lgK) {calls : List Call}
    (run : sketch.callAll calls = .ok next) : Built builder next := by
  induction calls generalizing sketch with
  | nil =>
    cases run
    exact built
  | cons call rest ih =>
    rw [UpdateSketch.callAll, List.foldlM_cons] at run
    obtain ⟨middle, step, runs⟩ := Run.bind_eq_ok.mp run
    exact ih (built.call large step) runs

theorem shaped (built : Built builder sketch) {seed : UInt64} (builds : builder.Builds seed) :
    Shaped seed sketch.view sketch.table.iterate := by
  obtain ⟨S, gathers⟩ := built.gathers
  have size : sketch.table.numEntries = sketch.table.iterate.length :=
    gathers.counted.symm.trans gathers.grows.slots.placed.card_keys
  have few : sketch.table.iterate.length + 3 < 2 ^ 29 := by
    have count := gathers.grows.numEntries_lt
    rw [size, built.nominal] at count
    have power : 2 ^ (builder.lgK + 1) ≤ 2 ^ (maxLgK + 1) :=
      Nat.pow_le_pow_right Nat.two_pos (Nat.succ_le_succ builds.small)
    have most : 2 ^ (maxLgK + 1) + 3 < 2 ^ 29 := by decide
    omega
  have flag : sketch.view.isOrdered = true ↔ sketch.table.iterate.length ≤ 1 := by
    change (!decide (1 < sketch.table.numEntries)) = true ↔ _
    rw [size, Bool.not_eq_true', decide_eq_false_iff_not, not_lt]
  have bare : sketch.table.isEmpty = true → sketch.table.iterate = [] := by
    intro flagged
    have none_stored := built.fresh flagged
    rw [HashTable.stored, ← toFinset_keyNotZero, List.toFinset_eq_empty_iff] at none_stored
    exact none_stored
  have theta : sketch.view.theta = if sketch.table.isEmpty then maxTheta else sketch.table.theta := rfl
  refine ⟨⟨rfl, size, by omega, gathers.grows.slots.placed.nodup, fun hash member => ?_, ?_,
    fun flagged => pairwise_of_short (flag.mp flagged), ?_, fun flagged => ⟨bare flagged, ?_⟩⟩, few,
    flag.mpr⟩
  · cases flagged : sketch.table.isEmpty with
    | true =>
      rw [bare flagged] at member
      cases member
    | false =>
      obtain ⟨inside, proper⟩ := mem_keyNotZero.mp member
      rw [theta, flagged]
      exact ⟨Nat.pos_of_ne_zero proper, gathers.grows.below hash (mem_keys.mpr ⟨proper, inside⟩)⟩
  · rw [theta]
    split_ifs
    · exact le_rfl
    · exact gathers.trims.le.trans (startingTheta_le builder)
  · exact congrArg computeSeedHash (built.seed.trans builds.seed)
  · have flagged : sketch.table.isEmpty = true := flagged
    rw [theta, if_pos flagged]

end Built

/-! Unions. -/

structure Pooled (builder : ThetaBaseBuilder) (union : ThetaUnion) : Prop where
  grows : Grows union.table
  nominal : union.table.lgNomSize = builder.lgK
  seed : union.table.seed = builder.seed
  bound : union.unionTheta ≤ builder.startingTheta
  blank : union.table.isEmpty = true → union.unionTheta = builder.startingTheta

namespace Pooled

variable {builder : ThetaBaseBuilder} {union next : ThetaUnion} {seed : UInt64}

theorem new (large : minLgK ≤ builder.lgK) : Pooled builder (ThetaUnion.new builder) :=
  ⟨builder.table_grows large, rfl, rfl, le_rfl, fun _ => rfl⟩

theorem update_returns (pooled : Pooled builder union) {view : SketchView} {E : List ℕ}
    (shaped : Shaped seed view E)
    (same : view.isEmpty = false → view.seedHash = computeSeedHash union.table.seed) :
    ∃ next, union.update view = .ok next ∧ Pooled builder next ∧
      next.table.isEmpty = (union.table.isEmpty && view.isEmpty) := by
  cases flagged : view.isEmpty with
  | true => exact ⟨union, Unites.update_empty flagged, pooled, (Bool.and_true _).symm⟩
  | false =>
    obtain ⟨table, run, step⟩ := ThetaUnion.update_spec pooled.grows shaped.valid.reads
      shaped.valid.ordered flagged (same flagged)
    have full : table.isEmpty = false := step.isEmpty
    refine ⟨_, run, ⟨step.grows, step.lgNomSize.trans pooled.nominal, step.seed.trans pooled.seed, ?_,
      fun bare => ?_⟩, full.trans (Bool.and_false _).symm⟩
    · exact ((min_le_left _ _).trans (min_le_left _ _)).trans pooled.bound
    · have bare : table.isEmpty = true := bare
      rw [full] at bare
      cases bare

theorem update (pooled : Pooled builder union) {view : SketchView} {E : List ℕ}
    (shaped : Shaped seed view E) (run : union.update view = .ok next) :
    Pooled builder next ∧ next.table.isEmpty = (union.table.isEmpty && view.isEmpty) := by
  have same : view.isEmpty = false → view.seedHash = computeSeedHash union.table.seed := by
    intro proper
    by_contra other
    simp [ThetaUnion.update, proper, other] at run
  obtain ⟨_, again, after⟩ := pooled.update_returns shaped same
  cases again.symm.trans run
  exact after

theorem foldlM_update (pooled : Pooled builder union) {inputs : List CompactSketch}
    (shaped : ∀ input ∈ inputs, Shaped seed input.view input.entries)
    (run : (inputs.map CompactSketch.view).foldlM ThetaUnion.update union = .ok next) :
    Pooled builder next ∧ (next.table.isEmpty = true ↔
      union.table.isEmpty = true ∧ ∀ input ∈ inputs, input.isEmpty = true) := by
  induction inputs generalizing union with
  | nil =>
    cases run
    exact ⟨pooled, by simp⟩
  | cons input rest ih =>
    obtain ⟨first, others⟩ := List.forall_mem_cons.mp shaped
    rw [List.map_cons, List.foldlM_cons] at run
    obtain ⟨middle, step, runs⟩ := Run.bind_eq_ok.mp run
    obtain ⟨after, flag⟩ := pooled.update first step
    obtain ⟨final, flags⟩ := ih after others runs
    have same : input.view.isEmpty = input.isEmpty := rfl
    refine ⟨final, ?_⟩
    rw [flags, flag, same, Bool.and_eq_true, List.forall_mem_cons, and_assoc]

theorem copied (pooled : Pooled builder union) {entries : List ℕ}
    (copy : entries = if union.table.theta ≤ union.unionTheta then union.table.iterate
      else union.table.iterate.filter (· < min union.unionTheta union.table.theta)) :
    entries.Nodup ∧
      ∀ hash ∈ entries, 0 < hash ∧ hash < min union.unionTheta union.table.theta := by
  have distinct : union.table.iterate.Nodup := pooled.grows.slots.placed.nodup
  have inside : ∀ hash ∈ union.table.iterate, 0 < hash ∧ hash < union.table.theta := by
    intro hash member
    obtain ⟨inside, proper⟩ := mem_keyNotZero.mp member
    exact ⟨Nat.pos_of_ne_zero proper, pooled.grows.below hash (mem_keys.mpr ⟨proper, inside⟩)⟩
  subst copy
  split_ifs with low
  · exact ⟨distinct, fun hash member => ⟨(inside hash member).1,
      lt_min ((inside hash member).2.trans_le low) (inside hash member).2⟩⟩
  · refine ⟨distinct.filter _, fun hash member => ?_⟩
    obtain ⟨member, below⟩ := List.mem_filter.mp member
    exact ⟨(inside hash member).1, of_decide_eq_true below⟩

theorem getResult_shaped (pooled : Pooled builder union) (builds : builder.Builds seed)
    (anchored : union.table.isEmpty = true → builder.startingTheta = maxTheta) (ordered : Bool) :
    Shaped seed (union.getResult ordered).view (union.getResult ordered).entries := by
  have sameSeed : union.table.seed = seed := pooled.seed.trans builds.seed
  have low := pooled.bound.trans (startingTheta_le builder)
  have nominal : 2 ^ union.table.lgNomSize + 3 < 2 ^ 29 := by
    have power : 2 ^ builder.lgK ≤ 2 ^ maxLgK := Nat.pow_le_pow_right Nat.two_pos builds.small
    have most : 2 ^ maxLgK + 3 < 2 ^ 29 := by decide
    rw [pooled.nominal]
    omega
  unfold ThetaUnion.getResult
  dsimp only
  rw [sameSeed]
  cases flagged : union.table.isEmpty with
  | true =>
    refine shaped_new List.nodup_nil (by simp) low (fun _ => List.Pairwise.nil) (by decide)
      fun _ => ⟨rfl, ?_⟩
    exact (pooled.blank flagged).trans (anchored flagged)
  | false =>
    generalize copy : (if union.table.theta ≤ union.unionTheta then union.table.iterate
      else union.table.iterate.filter (· < min union.unionTheta union.table.theta)) = entries
    obtain ⟨distinct, range⟩ := pooled.copied copy.symm
    -- The entries and the bound after the cut, before they are sorted.
    have finish : ∀ (F : List ℕ) (theta : ℕ), F.Nodup → (∀ hash ∈ F, 0 < hash ∧ hash < theta) →
        theta ≤ maxTheta → F.length ≤ 2 ^ union.table.lgNomSize →
        Shaped seed (CompactSketch.new false ordered (computeSeedHash seed) theta
          (if ordered then sort F else F)).view (if ordered then sort F else F) := by
      intro F theta distinct range bound few
      have same : (if ordered then sort F else F).Perm F := by
        cases ordered with
        | true => exact sort_perm F
        | false => exact List.Perm.refl F
      refine shaped_new (same.nodup_iff.mpr distinct)
        (fun hash member => range hash (same.mem_iff.mp member)) bound (fun flag => ?_) ?_
        (by rintro ⟨⟩)
      · rw [if_pos flag]
        exact sort_sorted distinct
      · rw [same.length_eq]
        omega
    have whole := (min_le_left union.unionTheta union.table.theta).trans low
    by_cases full : 2 ^ union.table.lgNomSize < entries.length
    · have permuted := sort_perm entries
      have sorted : (sort entries).Pairwise fun a b => a ≤ b ∧ (a = b → a = 0) :=
        (sort_sorted distinct).imp fun below => ⟨below.le, fun same => absurd same below.ne⟩
      have inside : 2 ^ union.table.lgNomSize < (sort entries).length := permuted.length_eq ▸ full
      have cut : (nthElement entries)[2 ^ union.table.lgNomSize]? =
          some (sort entries)[2 ^ union.table.lgNomSize] := List.getElem?_eq_getElem inside
      have member := permuted.mem_iff.mp (List.getElem_mem inside)
      simp only [full, if_true, cut, Option.getD_some]
      refine finish _ _ ((List.take_sublist _ _).nodup (permuted.nodup_iff.mpr distinct))
        (fun hash taken => ?_) ((range _ member).2.le.trans whole) (List.length_take_le _ _)
      have kept := range hash (permuted.mem_iff.mp (List.mem_of_mem_take taken))
      exact ⟨kept.1, ((mem_take_iff_lt sorted inside kept.1.ne').mp taken).2⟩
    · simp only [full, if_false]
      exact finish entries _ distinct range whole (not_lt.mp full)

end Pooled

/-! Intersections and differences. -/

theorem intersection_shaped {seed : UInt64} {inputs : List CompactSketch} {state : ThetaIntersection}
    {ordered : Bool} {sketch : CompactSketch}
    (shaped : ∀ input ∈ inputs, Shaped seed input.view input.entries)
    (fed : (inputs.map CompactSketch.view).foldlM ThetaIntersection.update
      (ThetaIntersection.new seed) = .ok state)
    (run : state.getResult ordered = .ok sketch) : Shaped seed sketch.view sketch.entries := by
  cases inputs with
  | nil =>
    cases fed
    cases run
  | cons first rest =>
    have valid : ∀ input ∈ (first :: rest).map fun sketch => (sketch.view, sketch.entries),
        ValidInput seed input.1 input.2 :=
      List.forall_mem_map.mpr fun sketch inside => (shaped sketch inside).valid
    obtain ⟨final, meets, same, _⟩ := Meets.foldlM_update valid
    have views : ((first :: rest).map fun sketch => (sketch.view, sketch.entries)).map Prod.fst =
        (first :: rest).map CompactSketch.view := by simp
    rw [views] at same
    cases fed.symm.trans same
    have proper := List.forall_mem_map.mpr fun input inside => (valid input inside).proper
    obtain ⟨meet, folded, agrees, _⟩ := Meet.agrees_fold proper (by simp)
    rw [folded] at meets
    cases meets with
    | @shown table _ shows =>
      obtain ⟨entries, copy⟩ : ∃ entries, entries = if 0 < table.numEntries then
          if ordered then sort table.iterate else table.iterate else [] := ⟨_, rfl⟩
      obtain ⟨distinct, members, sorted⟩ := Meets.listed shows ordered copy
      have isSketch : sketch = CompactSketch.new table.isEmpty ordered (computeSeedHash seed)
          table.theta entries := by
        rw [copy]
        cases run
        rfl
      -- What all share is no more than the first holds.
      have few : entries.length ≤ first.entries.length := by
        rw [← List.toFinset_card_of_nodup distinct, members]
        refine (Finset.card_le_card fun hash member => ?_).trans (List.toFinset_card_le _)
        exact (agrees.keys hash).mp member (first.view.meet first.entries) (by simp)
      rw [isSketch, shows.isEmpty, shows.theta]
      refine shaped_new distinct (fun hash member => ?_) agrees.proper.bound sorted
        ((Nat.add_le_add_right few 3).trans_lt (shaped first List.mem_cons_self).fits) fun flagged => ?_
      · exact shows.range hash (members ▸ List.mem_toFinset.mpr member)
      · have void := shows.void flagged
        rw [void] at members ⊢
        exact ⟨(List.toFinset_eq_empty_iff _).mp members, rfl⟩

theorem aNotB_shaped {seed : UInt64} {a b sketch : CompactSketch} {ordered : Bool}
    (first : Shaped seed a.view a.entries) (second : Shaped seed b.view b.entries)
    (run : (ThetaANotB.new seed).compute a.view b.view ordered = .ok sketch) :
    Shaped seed sketch.view sketch.entries := by
  have run := run
  unfold ThetaANotB.compute at run
  -- The first sketch is copied, or its entries are searched for in the second.
  cases copied : a.view.isEmpty || (decide (0 < a.view.numRetained) && b.view.isEmpty) with
  | true =>
    rw [copied, if_pos rfl] at run
    exact first.ofSketch run
  | false =>
    have proper : a.view.isEmpty = false := (Bool.or_eq_false_iff.mp copied).1
    have matchA : a.view.seedHash = (ThetaANotB.new seed).seedHash := first.valid.seedHash
    have matchB : b.view.seedHash = (ThetaANotB.new seed).seedHash := second.valid.seedHash
    obtain ⟨theta, isTheta⟩ : ∃ theta, theta = min a.view.theta b.view.theta := ⟨_, rfl⟩
    obtain ⟨kept, isKept⟩ : ∃ kept, kept =
        a.entries.filter fun hash => decide (hash < theta) && decide (hash ∉ b.entries) := ⟨_, rfl⟩
    have difference : ThetaANotB.difference a.view b.view theta = .ok kept := by
      rw [isKept]
      exact difference_eq first.valid.rehash second.valid.rehash theta
    rw [copied, if_neg Bool.false_ne_true, if_neg (not_not.mpr matchA), if_neg (not_not.mpr matchB)] at run
    simp only [Run.pure_eq] at run
    rw [← isTheta, difference] at run
    simp only [Run.ok_bind, Except.ok.injEq] at run
    have distinct : kept.Nodup := isKept ▸ first.valid.distinct.filter _
    have inside : ∀ hash ∈ kept, hash ∈ a.entries ∧ hash < theta := by
      intro hash member
      rw [isKept, List.mem_filter, Bool.and_eq_true, decide_eq_true_iff] at member
      exact ⟨member.1, member.2.1⟩
    have fewer : kept.length ≤ a.entries.length := by
      rw [isKept]
      exact List.length_filter_le _ _
    have same : (if ordered && !a.view.isOrdered then sort kept else kept).Perm kept := by
      split_ifs
      · exact sort_perm kept
      · exact List.Perm.refl kept
    rw [← run, proper]
    refine shaped_new (same.nodup_iff.mpr distinct) (fun hash member => ?_)
      (isTheta ▸ (min_le_left _ _).trans first.valid.bound) (fun flag => ?_) ?_ fun flag => ?_
    · obtain ⟨member, below⟩ := inside hash (same.mem_iff.mp member)
      exact ⟨(first.valid.range hash member).1, below⟩
    · -- A filter keeps the order of the entries, and unordered ones are sorted on request.
      cases order : a.view.isOrdered with
      | true =>
        rw [Bool.not_true, Bool.and_false, if_neg Bool.false_ne_true, isKept]
        exact (first.valid.ordered order).filter _
      | false =>
        rw [order, Bool.false_or] at flag
        rw [flag, Bool.not_false, Bool.and_true, if_pos rfl]
        exact sort_sorted distinct
    · rw [same.length_eq]
      exact (Nat.add_le_add_right fewer 3).trans_lt first.fits
    · rw [Bool.false_or, Bool.and_eq_true, List.isEmpty_iff, decide_eq_true_iff] at flag
      exact ⟨List.perm_nil.mp (flag.1 ▸ same), flag.2⟩

/-! Every derivation. -/

/-- Whatever a program derives without a sampling union that saw nothing. -/
theorem CompactSketch.Reachable.shaped {seed : UInt64} {sketch : CompactSketch}
    (reachable : Reachable Anchored seed sketch) : Shaped seed sketch.view sketch.entries := by
  induction reachable with
  | compact ordered builds fed run =>
    exact (((Built.new builds.large).callAll builds.large fed).shaped builds).ofSketch run
  | union ordered builds _ step fed shaped =>
    obtain ⟨pooled, flag⟩ := (Pooled.new builds.large).foldlM_update shaped fed
    refine pooled.getResult_shaped builds (fun bare => ?_) ordered
    refine step.resolve_right ?_
    rintro ⟨input, inside, full⟩
    rw [(flag.mp bare).2 input inside] at full
    cases full
  | intersection ordered _ fed run shaped => exact intersection_shaped shaped fed run
  | aNotB ordered _ _ run first second => exact aNotB_shaped first second run

/-- A sampling union that saw nothing is empty and still has its own `theta`. -/
theorem Pooled.getResult_blank {builder : ThetaBaseBuilder} {union : ThetaUnion}
    (pooled : Pooled builder union) (bare : union.table.isEmpty = true) (ordered : Bool) :
    union.getResult ordered =
      CompactSketch.new true true (computeSeedHash builder.seed) builder.startingTheta [] := by
  rw [ThetaUnion.getResult, if_pos bare, pooled.seed, pooled.blank bare]

end ThetaSketch
