/-!
# Stable arrangements

A list can be arranged by an order in which several items may be tied. An arrangement is stable if
tied items keep the order in which they were given, and there is one stable arrangement only, so
that whatever is in order and keeps ties is what sorting yields.

* `tied` items may stand in either order;
* `filter_tied_mergeSort`: sorting keeps the order of tied items;
* `eq_of_filter_tied_eq`: a list in order is determined by the order of its tied items;
* `mergeSort_eq_of_stable` puts the two together.
-/

namespace SnippetTutor

variable {α : Type} {le : α → α → Bool}

/-- Neither of two items has to stand before the other. -/
def tied (le : α → α → Bool) (first second : α) : Bool := le first second && le second first

theorem tied_iff {first second : α} :
    tied le first second = true ↔ le first second = true ∧ le second first = true :=
  Bool.and_eq_true_iff

/-- What is tied with an item is in order, however it is arranged. -/
theorem pairwise_filter_tied (trans : ∀ a b c, le a b = true → le b c = true → le a c = true)
    (item : α) (items : List α) :
    (items.filter (tied le item)).Pairwise fun first second => le first second = true := by
  refine List.pairwise_of_forall_mem_list fun first member second member' => ?_
  obtain ⟨-, tie⟩ := List.mem_filter.1 member
  obtain ⟨-, tie'⟩ := List.mem_filter.1 member'
  exact trans _ _ _ (tied_iff.1 tie).2 (tied_iff.1 tie').1

/-- Sorting keeps the order of tied items. -/
theorem filter_tied_mergeSort (trans : ∀ a b c, le a b = true → le b c = true → le a c = true)
    (total : ∀ a b, (le a b || le b a) = true) (item : α) (items : List α) :
    (items.mergeSort le).filter (tied le item) = items.filter (tied le item) := by
  have kept : (items.filter (tied le item)).Sublist (items.mergeSort le) :=
    List.sublist_mergeSort trans total (pairwise_filter_tied trans item items) List.filter_sublist
  have sub := kept.filter (tied le item)
  simp only [List.filter_filter, Bool.and_self] at sub
  have length := ((List.mergeSort_perm items le).filter (tied le item)).length_eq
  exact (sub.eq_of_length length.symm).symm

/-- Lists with the same tied items have the same items, since every item is tied with itself. -/
theorem mem_iff_of_filter_tied_eq (refl : ∀ item, le item item = true) {first second : List α}
    (same : ∀ item, first.filter (tied le item) = second.filter (tied le item)) (item : α) :
    item ∈ first ↔ item ∈ second := by
  have self : tied le item item = true := tied_iff.2 ⟨refl item, refl item⟩
  have listed : item ∈ first.filter (tied le item) ↔ item ∈ second.filter (tied le item) := by
    rw [same item]
  rwa [List.mem_filter, List.mem_filter, and_iff_left self, and_iff_left self] at listed

/-- A list in order is determined by the order of its tied items. -/
theorem eq_of_filter_tied_eq (refl : ∀ item, le item item = true) {first second : List α}
    (sorted : first.Pairwise fun a b => le a b = true)
    (sorted' : second.Pairwise fun a b => le a b = true)
    (same : ∀ item, first.filter (tied le item) = second.filter (tied le item)) :
    first = second := by
  induction first generalizing second with
  | nil =>
    cases second with
    | nil => rfl
    | cons item rest =>
      cases (mem_iff_of_filter_tied_eq refl same item).2 List.mem_cons_self
  | cons item rest ih =>
    cases second with
    | nil => cases (mem_iff_of_filter_tied_eq refl same item).1 List.mem_cons_self
    | cons item' rest' =>
      obtain ⟨least, ordered⟩ := List.pairwise_cons.1 sorted
      obtain ⟨least', ordered'⟩ := List.pairwise_cons.1 sorted'
      -- Each head stands in the other list, so neither is above the other.
      have le_head : le item item' = true := by
        rcases List.mem_cons.1 ((mem_iff_of_filter_tied_eq refl same item').2 List.mem_cons_self)
          with equal | later
        · rw [equal]
          exact refl item
        · exact least item' later
      have head_le : le item' item = true := by
        rcases List.mem_cons.1 ((mem_iff_of_filter_tied_eq refl same item).1 List.mem_cons_self)
          with equal | later
        · rw [equal]
          exact refl item'
        · exact least' item later
      have heads := same item
      rw [List.filter_cons_of_pos (tied_iff.2 ⟨refl item, refl item⟩),
        List.filter_cons_of_pos (tied_iff.2 ⟨le_head, head_le⟩)] at heads
      obtain ⟨rfl, -⟩ := List.cons.inj heads
      refine congrArg (item :: ·) (ih ordered ordered' fun other => ?_)
      have tails := same other
      rw [List.filter_cons, List.filter_cons] at tails
      split at tails
      · exact (List.cons.inj tails).2
      · exact tails

/-- What is in order and keeps the order of tied items is what sorting yields. -/
theorem mergeSort_eq_of_stable (trans : ∀ a b c, le a b = true → le b c = true → le a c = true)
    (total : ∀ a b, (le a b || le b a) = true) {items arranged : List α}
    (sorted : arranged.Pairwise fun a b => le a b = true)
    (same : ∀ item, arranged.filter (tied le item) = items.filter (tied le item)) :
    items.mergeSort le = arranged := by
  have refl : ∀ item, le item item = true := fun item => by simpa using total item item
  refine eq_of_filter_tied_eq refl (List.pairwise_mergeSort trans total items) sorted ?_
  intro item
  rw [filter_tied_mergeSort trans total, same item]

end SnippetTutor
