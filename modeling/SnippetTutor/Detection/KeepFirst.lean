/-!
# Reporting once

`keepFirst` keeps the first item for every key and drops the later ones, in order.

* `map_key_keepFirst`: the keys that are left are those of all items, each at its first occurrence;
* `nodup_map_keepFirst`: no key is left twice;
* `keepFirst_sublist`: the items that are left are in the order in which they were given.
-/

namespace SnippetTutor

variable {α β : Type} [DecidableEq β]

/-- The items whose key is not among those seen before. -/
def keepUnseen (key : α → β) (seen : List β) : List α → List α
  | [] => []
  | item :: rest =>
    if key item ∈ seen then keepUnseen key seen rest
    else item :: keepUnseen key (key item :: seen) rest

/-- The first item for every key. -/
def keepFirst (key : α → β) (items : List α) : List α := keepUnseen key [] items

theorem map_key_keepUnseen (key : α → β) (seen : List β) (items : List α) :
    (keepUnseen key seen items).map key = ((items.map key).filter (· ∉ seen)).eraseDups := by
  induction items generalizing seen with
  | nil => rfl
  | cons item rest ih =>
    rw [keepUnseen, List.map_cons]
    split
    · rename_i known
      rw [ih, List.filter_cons_of_neg (by simpa using known)]
    · rename_i new
      have unseen : ∀ other, (decide (other ∉ key item :: seen)) =
          (!(other == key item) && decide (other ∉ seen)) := by
        intro other
        exact Bool.eq_iff_iff.2 (by simp)
      rw [List.map_cons, ih, List.filter_cons_of_pos (by simpa using new), List.eraseDups_cons,
        List.filter_filter]
      simp only [unseen]

theorem mem_map_keepUnseen {key : α → β} {seen : List β} {items : List α} {found : β} :
    found ∈ (keepUnseen key seen items).map key ↔ found ∈ items.map key ∧ found ∉ seen := by
  rw [map_key_keepUnseen, List.mem_eraseDups, List.mem_filter, decide_eq_true_eq]

theorem nodup_map_keepUnseen (key : α → β) (seen : List β) (items : List α) :
    ((keepUnseen key seen items).map key).Nodup := by
  induction items generalizing seen with
  | nil => exact List.nodup_nil
  | cons item rest ih =>
    rw [keepUnseen]
    split
    · exact ih seen
    · rw [List.map_cons, List.nodup_cons]
      exact ⟨fun again => (mem_map_keepUnseen.1 again).2 List.mem_cons_self, ih _⟩

theorem keepUnseen_sublist (key : α → β) (seen : List β) (items : List α) :
    (keepUnseen key seen items).Sublist items := by
  induction items generalizing seen with
  | nil => exact List.nil_sublist _
  | cons item rest ih =>
    rw [keepUnseen]
    split
    · exact (ih seen).cons item
    · exact (ih _).cons_cons item

/-- The keys that are left are those of all items, each at its first occurrence. -/
theorem map_key_keepFirst (key : α → β) (items : List α) :
    (keepFirst key items).map key = (items.map key).eraseDups := by
  have unseen : (items.map key).filter (· ∉ []) = items.map key := by
    rw [List.filter_eq_self]
    simp
  rw [keepFirst, map_key_keepUnseen, unseen]

/-- No key is left twice. -/
theorem nodup_map_keepFirst (key : α → β) (items : List α) :
    ((keepFirst key items).map key).Nodup :=
  nodup_map_keepUnseen key [] items

/-- The items that are left are in the order in which they were given. -/
theorem keepFirst_sublist (key : α → β) (items : List α) : (keepFirst key items).Sublist items :=
  keepUnseen_sublist key [] items

end SnippetTutor
