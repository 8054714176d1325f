import Mathlib.Data.Finset.Sort
import Mathlib.Data.Finset.Lattice.Basic

/-! Threshold samples of a finite set in a linear order.

A threshold sample keeps the members of a set that lie below a bound. Cutting a
sample to a capacity lowers the bound to the first member that no longer fits,
so the kept members are again all those below the bound. The laws below make
cutting insensitive to the order and the grouping in which sets are united.
-/

set_option autoImplicit false

namespace Threshold

variable {α : Type*} [LinearOrder α]

def sample (A : Finset α) (bound : α) : Finset α := A.filter (· < bound)

@[simp] theorem mem_sample {A : Finset α} {bound x : α} :
    x ∈ sample A bound ↔ x ∈ A ∧ x < bound := by
  simp [sample]

theorem sample_sample (A : Finset α) (outer inner : α) :
    sample (sample A outer) inner = sample A (min outer inner) := by
  ext x
  simp [and_assoc]

theorem sample_union (A B : Finset α) (bound : α) :
    sample (A ∪ B) bound = sample A bound ∪ sample B bound :=
  Finset.filter_union _ _ _

theorem sample_mono (A : Finset α) {low high : α} (le : low ≤ high) :
    sample A low ⊆ sample A high := by
  intro x member
  rw [mem_sample] at member ⊢
  exact ⟨member.1, member.2.trans_le le⟩

/-- `E` is the sample of `A` below `bound`, cut to at most `k` members: either
everything fits, or the new bound is a member with exactly `k` members below it. -/
structure IsCut (k : ℕ) (bound : α) (A : Finset α) (cutBound : α) (E : Finset α) : Prop where
  sampled : E = sample A cutBound
  capacity : cutBound = bound ∧ E.card ≤ k ∨ cutBound < bound ∧ cutBound ∈ A ∧ E.card = k

namespace IsCut

variable {k : ℕ} {bound cutBound : α} {A B E : Finset α}

theorem le (cut : IsCut k bound A cutBound E) : cutBound ≤ bound := by
  rcases cut.capacity with ⟨same, _⟩ | ⟨lower, _⟩
  · exact same.le
  · exact lower.le

theorem card_le (cut : IsCut k bound A cutBound E) : E.card ≤ k := by
  rcases cut.capacity with ⟨_, fits⟩ | ⟨_, _, full⟩
  · exact fits
  · exact full.le

theorem crowded (cut : IsCut k bound A cutBound E) (lower : cutBound < bound) :
    cutBound ∈ A ∧ k ≤ (sample A cutBound).card := by
  rcases cut.capacity with ⟨rfl, _⟩ | ⟨_, member, full⟩
  · exact absurd lower (lt_irrefl _)
  · exact ⟨member, cut.sampled ▸ full.ge⟩

theorem not_lt_of_crowded (cut : IsCut k bound A cutBound E) {x : α} (member : x ∈ A)
    (crowded : k ≤ (sample A x).card) : ¬ x < cutBound := by
  intro below
  have kept : insert x (sample A x) ⊆ E := by
    rw [cut.sampled]
    intro y hy
    rcases Finset.mem_insert.mp hy with rfl | hy
    · exact mem_sample.mpr ⟨member, below⟩
    · exact sample_mono A below.le hy
  have size := Finset.card_le_card kept
  rw [Finset.card_insert_of_notMem (by simp)] at size
  have := cut.card_le
  omega

theorem cutBound_unique {otherBound : α} {F : Finset α} (first : IsCut k bound A cutBound E)
    (second : IsCut k bound A otherBound F) : cutBound = otherBound := by
  rcases lt_trichotomy cutBound otherBound with lower | same | higher
  · obtain ⟨member, full⟩ := first.crowded (lower.trans_le second.le)
    exact absurd lower (second.not_lt_of_crowded member full)
  · exact same
  · obtain ⟨member, full⟩ := second.crowded (higher.trans_le first.le)
    exact absurd higher (first.not_lt_of_crowded member full)

theorem unique {otherBound : α} {F : Finset α} (first : IsCut k bound A cutBound E)
    (second : IsCut k bound A otherBound F) : cutBound = otherBound ∧ E = F := by
  have same := first.cutBound_unique second
  exact ⟨same, by rw [first.sampled, second.sampled, same]⟩

theorem congr (cut : IsCut k bound A cutBound E) (same : sample A bound = sample B bound) :
    IsCut k bound B cutBound E := by
  have below : sample A cutBound = sample B cutBound := by
    have nested := congrArg (sample · cutBound) same
    simpa only [sample_sample, min_eq_right cut.le] using nested
  refine ⟨cut.sampled.trans below, ?_⟩
  rcases cut.capacity with fits | ⟨lower, member, full⟩
  · exact Or.inl fits
  · have inA : cutBound ∈ sample A bound := mem_sample.mpr ⟨member, lower⟩
    exact Or.inr ⟨lower, (mem_sample.mp (same ▸ inA)).1, full⟩

/-- Raising the bound past a member that already has `k` members below it
changes nothing. -/
theorem raise {low : α} (cut : IsCut k low A cutBound E) (member : low ∈ A)
    (crowded : k ≤ (sample A low).card) (lower : low ≤ bound) : IsCut k bound A cutBound E := by
  rcases lower.eq_or_lt with rfl | lower
  · exact cut
  refine ⟨cut.sampled, Or.inr ?_⟩
  rcases cut.capacity with ⟨rfl, fits⟩ | ⟨below, inside, full⟩
  · exact ⟨lower, member, le_antisymm fits (cut.sampled ▸ crowded)⟩
  · exact ⟨below.trans lower, inside, full⟩

end IsCut

/-- `K` agrees with `A` below `low`, and `low` fell below `bound` only to a member
of `A` that has `k` members under it. -/
structure Trims (k : ℕ) (bound : α) (A : Finset α) (low : α) (K : Finset α) : Prop where
  kept : sample K low = sample A low
  crowded : low = bound ∨ low < bound ∧ low ∈ A ∧ k ≤ (sample A low).card

namespace Trims

variable {k : ℕ} {bound low : α} {A K : Finset α}

theorem refl (k : ℕ) (bound : α) (A : Finset α) : Trims k bound A bound A :=
  ⟨rfl, Or.inl rfl⟩

theorem le (trims : Trims k bound A low K) : low ≤ bound := by
  rcases trims.crowded with same | ⟨lower, _⟩
  · exact same.le
  · exact lower.le

theorem mem_iff (trims : Trims k bound A low K) {x : α} (below : x < low) : x ∈ K ↔ x ∈ A := by
  have same := Finset.ext_iff.mp trims.kept x
  simpa [below] using same

theorem sample_eq (trims : Trims k bound A low K) {lower : α} (le : lower ≤ low) :
    sample K lower = sample A lower := by
  ext x
  simp only [mem_sample]
  exact and_congr_left fun below => trims.mem_iff (below.trans_le le)

theorem union {otherBound otherLow : α} {B L : Finset α} (left : Trims k bound A low K)
    (right : Trims k otherBound B otherLow L) :
    Trims k (min bound otherBound) (A ∪ B) (min low otherLow) (K ∪ L) := by
  refine ⟨?_, ?_⟩
  · rw [sample_union, sample_union, left.sample_eq (min_le_left _ _),
      right.sample_eq (min_le_right _ _)]
  rcases (min_le_min left.le right.le).eq_or_lt with same | lower
  · exact Or.inl same
  -- The smaller of the two bounds is one that a trim lowered.
  refine Or.inr ⟨lower, ?_⟩
  rw [sample_union]
  rcases le_total low otherLow with order | order
  · rw [min_eq_left order] at lower ⊢
    have moved := lower.trans_le (min_le_left _ _)
    obtain ⟨_, member, full⟩ := left.crowded.resolve_left moved.ne
    exact ⟨Finset.mem_union_left _ member,
      full.trans (Finset.card_le_card Finset.subset_union_left)⟩
  · rw [min_eq_right order] at lower ⊢
    have moved := lower.trans_le (min_le_right _ _)
    obtain ⟨_, member, full⟩ := right.crowded.resolve_left moved.ne
    exact ⟨Finset.mem_union_right _ member,
      full.trans (Finset.card_le_card Finset.subset_union_right)⟩

theorem add (trims : Trims k bound A low K) (X : Finset α) :
    Trims k bound (A ∪ X) low (K ∪ X) := by
  have both := trims.union (Trims.refl k bound X)
  rwa [min_self, min_eq_left trims.le] at both

theorem trans {lower : α} {L : Finset α} (first : Trims k bound A low K)
    (second : Trims k low K lower L) : Trims k bound A lower L := by
  have same := first.sample_eq second.le
  refine ⟨second.kept.trans same, ?_⟩
  rcases second.crowded with rfl | ⟨below, member, full⟩
  · exact first.crowded
  · exact Or.inr ⟨below.trans_le first.le, (first.mem_iff below).mp member, same ▸ full⟩

theorem lower {next : α} (trims : Trims k bound A low K)
    (crowded : next < low → next ∈ K ∧ k ≤ (sample K next).card) :
    Trims k bound A (min low next) (sample K next) := by
  rcases lt_or_ge next low with below | above
  · obtain ⟨member, full⟩ := crowded below
    rw [min_eq_right below.le]
    exact trims.trans ⟨by rw [sample_sample, min_self], Or.inr ⟨below, member, full⟩⟩
  · rw [min_eq_left above]
    exact ⟨by rw [sample_sample, min_eq_right above, trims.kept], trims.crowded⟩

theorem eq_of_card_le (trims : Trims k bound A low K) (few : (sample A bound).card ≤ k) :
    low = bound := by
  rcases trims.crowded with same | ⟨lower, member, full⟩
  · exact same
  · have inside : insert low (sample A low) ⊆ sample A bound := by
      intro x hx
      rcases Finset.mem_insert.mp hx with rfl | hx
      · exact mem_sample.mpr ⟨member, lower⟩
      · exact sample_mono A lower.le hx
    have size := Finset.card_le_card inside
    rw [Finset.card_insert_of_notMem (by simp)] at size
    omega

theorem cut {cutBound : α} {E : Finset α} (trims : Trims k bound A low K)
    (cut : IsCut k low K cutBound E) : IsCut k bound A cutBound E := by
  have below : IsCut k low A cutBound E := cut.congr trims.kept
  rcases trims.crowded with same | ⟨lower, member, full⟩
  · exact same ▸ below
  · exact below.raise member full lower.le

end Trims

theorem IsCut.trims {k : ℕ} {bound cutBound : α} {A E : Finset α}
    (cut : IsCut k bound A cutBound E) : Trims k bound A cutBound E := by
  refine ⟨by rw [cut.sampled, sample_sample, min_self], ?_⟩
  rcases cut.capacity with ⟨same, _⟩ | ⟨lower, member, full⟩
  · exact Or.inl same
  · exact Or.inr ⟨lower, member, cut.sampled ▸ full.ge⟩

/-! The cut of a set, read off its increasing enumeration. -/

/-- The bound after the cut: the member at position `k`, when there is one. -/
def cutBound (k : ℕ) (bound : α) (A : Finset α) : α :=
  ((sample A bound).sort (· ≤ ·))[k]?.getD bound

/-- The first `k` members of the sample in increasing order. -/
def cutKeys (k : ℕ) (bound : α) (A : Finset α) : List α :=
  ((sample A bound).sort (· ≤ ·)).take k

theorem isCut_cut (k : ℕ) (bound : α) (A : Finset α) :
    IsCut k bound A (cutBound k bound A) (cutKeys k bound A).toFinset := by
  have strict : ((sample A bound).sort (· ≤ ·)).Pairwise (· < ·) :=
    (Finset.sortedLT_sort _).pairwise
  have members : ∀ x, x ∈ (sample A bound).sort (· ≤ ·) ↔ x ∈ A ∧ x < bound := by simp
  unfold cutBound cutKeys
  generalize (sample A bound).sort (· ≤ ·) = keys at strict members ⊢
  rcases Nat.lt_or_ge k keys.length with long | short
  · have position : keys[k]? = some keys[k] := List.getElem?_eq_getElem long
    have cutMember := (members keys[k]).mp (List.getElem_mem long)
    have nodup : (keys.take k).Nodup :=
      (strict.imp (fun lower => ne_of_lt lower)).sublist (List.take_sublist k keys)
    have below : ∀ x, x ∈ keys.take k ↔ x ∈ A ∧ x < keys[k] := by
      intro x
      constructor
      · intro member
        obtain ⟨i, hi, rfl⟩ := List.mem_take_iff_getElem.mp member
        have order : i < k := by omega
        exact ⟨((members _).mp (List.getElem_mem _)).1,
          List.pairwise_iff_getElem.mp strict i k _ long order⟩
      · rintro ⟨member, lower⟩
        obtain ⟨i, hi, rfl⟩ :=
          List.mem_iff_getElem.mp ((members x).mpr ⟨member, lower.trans cutMember.2⟩)
        have order : i < k := by
          by_contra later
          rcases (not_lt.mp later).eq_or_lt with rfl | later
          · exact absurd lower (lt_irrefl _)
          · exact absurd lower (List.pairwise_iff_getElem.mp strict k i long hi later).not_gt
        exact List.mem_take_iff_getElem.mpr ⟨i, by omega, rfl⟩
    rw [position, Option.getD_some]
    refine ⟨?_, Or.inr ⟨cutMember.2, cutMember.1, ?_⟩⟩
    · ext x
      rw [List.mem_toFinset, mem_sample, below]
    · rw [List.toFinset_card_of_nodup nodup, List.length_take]
      omega
  · rw [List.getElem?_eq_none short, Option.getD_none, List.take_of_length_le short]
    refine ⟨?_, Or.inl ⟨rfl, (List.toFinset_card_le keys).trans short⟩⟩
    ext x
    rw [List.mem_toFinset, mem_sample, members]

theorem cutKeys_pairwise (k : ℕ) (bound : α) (A : Finset α) :
    (cutKeys k bound A).Pairwise (· < ·) :=
  (Finset.sortedLT_sort _).pairwise.sublist (List.take_sublist _ _)

theorem mem_cutKeys {k : ℕ} {bound x : α} {A : Finset α} :
    x ∈ cutKeys k bound A ↔ x ∈ A ∧ x < cutBound k bound A := by
  rw [← List.mem_toFinset, (isCut_cut k bound A).sampled, mem_sample]

theorem length_cutKeys_le (k : ℕ) (bound : α) (A : Finset α) :
    (cutKeys k bound A).length ≤ k := by
  rw [cutKeys, List.length_take]
  exact min_le_left _ _

theorem cutBound_le (k : ℕ) (bound : α) (A : Finset α) : cutBound k bound A ≤ bound :=
  (isCut_cut k bound A).le

theorem cut_congr {k : ℕ} {bound otherBound : α} {A B : Finset α}
    (same : IsCut k bound A (cutBound k otherBound B) (cutKeys k otherBound B).toFinset) :
    cutBound k otherBound B = cutBound k bound A ∧ cutKeys k otherBound B = cutKeys k bound A := by
  obtain ⟨bounds, members⟩ := same.unique (isCut_cut k bound A)
  refine ⟨bounds, ?_⟩
  have permuted : (cutKeys k otherBound B).Perm (cutKeys k bound A) :=
    List.perm_of_nodup_nodup_toFinset_eq
      ((cutKeys_pairwise k otherBound B).imp fun below => ne_of_lt below)
      ((cutKeys_pairwise k bound A).imp fun below => ne_of_lt below) members
  exact permuted.eq_of_pairwise (fun a b _ _ low high => absurd low (lt_asymm high))
    (cutKeys_pairwise k otherBound B) (cutKeys_pairwise k bound A)

end Threshold
