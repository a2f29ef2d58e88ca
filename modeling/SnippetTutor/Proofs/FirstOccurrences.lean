import Mathlib.Data.List.Induction
import SnippetTutor.Detection.Basic
import SnippetTutor.Detection.KeepFirst

/-!
# First occurrences

Reporting once goes through a list with the keys that it has met so far. What is left are the items
whose keys stand nowhere before them.

* `keepUnseen_filter`: having seen a key comes to the same as leaving out the items that have it;
* `keepUnseen_append` is the invariant of the loop: behind some items, their keys have been seen;
* `keepFirst_eq_map_firstPlaces`: the items that are left are those at the places where a key stands
  for the first time;
* `keepFirst_first_per_key` puts this together.
-/

namespace SnippetTutor

variable {α β : Type} [DecidableEq β] {key : α → β} {seen more all : List β} {items rest : List α}

/-! ### Keys seen before -/

/-- Having seen some keys comes to the same as leaving out the items that have them. -/
theorem keepUnseen_filter (same : ∀ found, found ∈ all ↔ found ∈ seen ∨ found ∈ more) :
    keepUnseen key seen (items.filter fun item => key item ∉ more) = keepUnseen key all items := by
  induction items generalizing seen all with
  | nil => rfl
  | cons item rest ih =>
    -- On the right, the key of an item that is taken away counts as seen, so nothing is reported.
    by_cases dropped : key item ∈ more
    · have known : key item ∈ all := (same _).2 (.inr dropped)
      rw [List.filter_cons_of_neg (by simpa using dropped), ih same, keepUnseen, if_pos known]
    · have known : key item ∈ all ↔ key item ∈ seen := (same _).trans (or_iff_left dropped)
      rw [List.filter_cons_of_pos (by simpa using dropped), keepUnseen, keepUnseen]
      by_cases met : key item ∈ seen
      · rw [if_pos met, if_pos (known.2 met), ih same]
      · rw [if_neg met, if_neg (mt known.1 met), ih]
        intro found
        rw [List.mem_cons, List.mem_cons, same, or_assoc]

/-- Behind some items, their keys have been seen. -/
theorem keepUnseen_append (same : ∀ found, found ∈ all ↔ found ∈ seen ∨ found ∈ items.map key) :
    keepUnseen key seen (items ++ rest) = keepUnseen key seen items ++ keepUnseen key all rest := by
  induction items generalizing seen with
  | nil =>
    -- There are two spellings of the same seen keys left, which `keepUnseen_filter` relates.
    have filtered : keepUnseen key seen (rest.filter fun item => key item ∉ []) =
        keepUnseen key all rest := keepUnseen_filter same
    rw [List.filter_eq_self.2 (by simp)] at filtered
    exact filtered
  | cons item items ih =>
    rw [List.cons_append, keepUnseen, keepUnseen]
    split
    · rename_i known
      refine ih fun found => ?_
      rw [same, List.map_cons, List.mem_cons]
      constructor
      · rintro (old | rfl | new)
        · exact .inl old
        · exact .inl known
        · exact .inr new
      · exact Or.imp_right .inr
    · rw [List.cons_append, ih]
      intro found
      rw [same, List.map_cons, List.mem_cons, List.mem_cons, or_left_comm, or_assoc]

/-! ### The items that are left -/

/-- Two lists one after the other: of the second one the items are left whose keys are not in the
first one. -/
theorem keepFirst_append (key : α → β) (items rest : List α) :
    keepFirst key (items ++ rest) =
      keepFirst key items ++ keepFirst key (rest.filter fun item => key item ∉ items.map key) := by
  have behind : keepFirst key (items ++ rest) =
      keepFirst key items ++ keepUnseen key (items.map key) rest := keepUnseen_append (by simp)
  have without : keepFirst key (rest.filter fun item => key item ∉ items.map key) =
      keepUnseen key (items.map key) rest := keepUnseen_filter (by simp)
  rw [behind, without]

/-- Where no key is there twice, all items are left. -/
theorem keepFirst_of_nodup (distinct : (items.map key).Nodup) : keepFirst key items = items := by
  induction items using List.reverseRecOn with
  | nil => rfl
  | append_singleton items item ih =>
    rw [List.map_append, List.nodup_append] at distinct
    obtain ⟨distinct, -, apart⟩ := distinct
    have new : key item ∉ items.map key := fun old => apart _ old _ (by simp) rfl
    rw [keepFirst_append, ih distinct, List.filter_cons_of_pos (by simpa using new)]
    rfl

theorem mem_map_keepFirst {wanted : β} :
    wanted ∈ (keepFirst key items).map key ↔ wanted ∈ items.map key := by
  rw [map_key_keepFirst, List.mem_eraseDups]

/-- The items with the places where their keys stand for the first time. -/
def firstPlaces (key : α → β) (items : List α) : List (α × Nat) :=
  items.zipIdx.filter fun (item, place) => key item ∉ (items.take place).map key

/-- The items that are left are those at the places where a key stands for the first time. -/
theorem keepFirst_eq_map_firstPlaces (key : α → β) (items : List α) :
    keepFirst key items = (firstPlaces key items).map Prod.fst := by
  induction items using List.reverseRecOn with
  | nil => rfl
  | append_singleton items item ih =>
    -- An item at the end changes nothing for those before it.
    have earlier : ∀ entry ∈ items.zipIdx,
        decide (key entry.1 ∉ ((items ++ [item]).take entry.2).map key) =
          decide (key entry.1 ∉ (items.take entry.2).map key) := by
      intro entry member
      have inside := List.snd_lt_of_mem_zipIdx member
      rw [List.take_append_of_le_length (by omega)]
    have last : (items ++ [item]).take (0 + items.length) = items := by simp
    rw [keepFirst_append, ih, firstPlaces, firstPlaces, List.zipIdx_append, List.filter_append,
      List.filter_congr earlier, List.map_append, List.zipIdx_singleton]
    by_cases known : key item ∈ items.map key
    · rw [List.filter_cons_of_neg (by simpa using known),
        List.filter_cons_of_neg (by simpa [last] using known)]
      rfl
    · rw [List.filter_cons_of_pos (by simpa using known),
        List.filter_cons_of_pos (by simpa [last] using known)]
      rfl

/-- An item that is left stands before all others that have its key. -/
theorem exists_eq_append_of_mem_keepFirst {kept : α} (member : kept ∈ keepFirst key items) :
    ∃ before after, items = before ++ kept :: after ∧
      ∀ earlier ∈ before, key earlier ≠ key kept := by
  rw [keepFirst_eq_map_firstPlaces, List.mem_map] at member
  obtain ⟨⟨item, place⟩, listed, rfl⟩ := member
  obtain ⟨there, new⟩ := List.mem_filter.1 listed
  obtain ⟨inside, rfl⟩ := List.getElem?_eq_some_iff.1 (List.mk_mem_zipIdx_iff_getElem?.1 there)
  refine ⟨items.take place, items.drop (place + 1), ?_, fun earlier before same => ?_⟩
  · rw [← List.drop_eq_getElem_cons, List.take_append_drop]
  · exact of_decide_eq_true new (List.mem_map.2 ⟨earlier, before, same⟩)

/-- Reporting once leaves the first item for every key. The items that are left stand in the order
in which they were given, at the places where a key stands for the first time, so no key is left
twice and none is lost. Doing it again changes nothing. Of two lists one after the other it leaves
what it leaves of the first one, and then what it leaves of the items of the second one whose keys
are not in the first one. -/
theorem keepFirst_first_per_key (key : α → β) (items rest : List α) :
    (keepFirst key items).Sublist items ∧
      ((keepFirst key items).map key).Nodup ∧
      (∀ wanted, wanted ∈ (keepFirst key items).map key ↔ wanted ∈ items.map key) ∧
      (∀ kept ∈ keepFirst key items, ∃ before after, items = before ++ kept :: after ∧
        ∀ earlier ∈ before, key earlier ≠ key kept) ∧
      keepFirst key items = (firstPlaces key items).map Prod.fst ∧
      keepFirst key (keepFirst key items) = keepFirst key items ∧
      keepFirst key (items ++ rest) =
        keepFirst key items ++ keepFirst key (rest.filter fun item => key item ∉ items.map key) :=
  ⟨keepFirst_sublist key items, nodup_map_keepFirst key items, fun _ => mem_map_keepFirst,
    fun _ => exists_eq_append_of_mem_keepFirst, keepFirst_eq_map_firstPlaces key items,
    keepFirst_of_nodup (nodup_map_keepFirst key items), keepFirst_append key items rest⟩

/-- Of two detections of one topic the first one is left, with all that it says. -/
theorem keepFirst_first_per_key_topics :
    let first : Detection := { topic := "array-map", details := some "1" }
    let other : Detection := { topic := "array-filter", details := some "2" }
    let second : Detection := { topic := "array-map", details := some "3" }
    keepFirst Detection.topic [first, other, second] = [first, other] ∧
      (first ∈ keepFirst Detection.topic [first, other, second] ∧
        ∃ before after, [first, other, second] = before ++ first :: after ∧
          ∀ earlier ∈ before, earlier.topic ≠ first.topic) ∧
      keepFirst Detection.topic [first, other, second] =
        keepFirst Detection.topic [first] ++ keepFirst Detection.topic [other] := by
  intro first other second
  obtain ⟨-, -, -, firsts, -, -, -⟩ :=
    keepFirst_first_per_key Detection.topic [first, other, second] []
  obtain ⟨-, -, -, -, -, -, append⟩ :=
    keepFirst_first_per_key Detection.topic [first] [other, second]
  have member : first ∈ keepFirst Detection.topic [first, other, second] := List.mem_cons_self
  exact ⟨rfl, ⟨member, firsts first member⟩, append⟩

end SnippetTutor
