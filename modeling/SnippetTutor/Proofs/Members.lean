import SnippetTutor.Json.Reader
import SnippetTutor.Proofs.Success

/-!
# Keys of what is read

However often a key is written in a JSON text, the object that is read from it has the key once.

* `Json.IsRegular`: no object has a key twice, at any depth;
* `Json.Reader.Keeps`: the readers of values, of items and of members yield nothing else under a
  budget, by induction on the budget (`Json.Reader.keeps`);
* `Json.isRegular_of_parse`: so does the reader of whole texts.
-/

namespace SnippetTutor

namespace Json

/-- No object has a key twice, at any depth. -/
inductive IsRegular : Json → Prop where
  | plain {json : Json} (plain : json.isPlain = true) : IsRegular json
  | list {items : List Json} (each : ∀ item ∈ items, IsRegular item) : IsRegular (.list items)
  | object {members : Keyed Json} (distinct : members.keys.Nodup)
      (each : ∀ entry ∈ members, IsRegular entry.2) : IsRegular (.object members)

theorem isRegular_list_iff {items : List Json} :
    (list items).IsRegular ↔ ∀ item ∈ items, item.IsRegular := by
  refine ⟨fun regular => ?_, .list⟩
  cases regular with
  | plain plain => cases plain
  | list each => exact each

theorem isRegular_object_iff {members : Keyed Json} :
    (object members).IsRegular ↔ members.keys.Nodup ∧ ∀ entry ∈ members, entry.2.IsRegular := by
  refine ⟨fun regular => ?_, fun ⟨distinct, each⟩ => .object distinct each⟩
  cases regular with
  | plain plain => cases plain
  | object distinct each => exact ⟨distinct, each⟩

/-- Setting a key keeps an object regular. -/
theorem isRegular_put {members : Keyed Json} (regular : (object members).IsRegular) (key : String)
    {value : Json} (fresh : value.IsRegular) :
    (object (Keyed.put members key value)).IsRegular := by
  obtain ⟨distinct, each⟩ := isRegular_object_iff.1 regular
  refine .object (Keyed.nodup_keys_put distinct key value) fun entry member => ?_
  rcases Keyed.mem_put member with rfl | old
  · exact fresh
  · exact each entry old

namespace Reader

/-- A number is neither a list nor an object. -/
theorem isPlain_of_unsigned? {negative : Bool} {input rest : List Char} {json : Json}
    (read : unsigned? negative input = some (.ok json, rest)) : json.isPlain = true := by
  unfold unsigned? at read
  obtain ⟨⟨whole, after⟩, -, read⟩ := Option.bind_eq_some_iff.1 read
  simp only at read
  split at read
  · split at read
    · cases read
    · cases read
      rfl
  · cases read
    rfl

theorem isPlain_of_plain? {input rest : List Char} {json : Json}
    (read : plain? input = some (.ok json, rest)) : json.isPlain = true := by
  unfold plain? at read
  simp only at read
  split at read
  · rename_i found words
    cases read
    obtain ⟨⟨word, value⟩, listed, made⟩ := List.exists_of_findSome?_eq_some words
    obtain ⟨after, -, made⟩ := Option.map_eq_some_iff.1 made
    cases made
    simp only [List.mem_cons, Prod.mk.injEq, List.not_mem_nil, or_false] at listed
    rcases listed with ⟨-, rfl⟩ | ⟨-, rfl⟩ | ⟨-, rfl⟩ | ⟨-, rfl⟩ | ⟨-, rfl⟩ | ⟨-, rfl⟩ <;> rfl
  · split at read
    · exact isPlain_of_unsigned? read
    · exact isPlain_of_unsigned? read

/-- The readers of values, of items and of members yield regular values under a budget. -/
structure Keeps (budget : Nat) : Prop where
  value {input rest : List Char} {json : Json} (read : value budget input = .ok (json, rest)) :
    json.IsRegular
  items {input rest : List Char} {found : List Json}
    (read : items budget input = .ok (found, rest)) : (Json.list found).IsRegular
  members {input rest : List Char} {before found : Keyed Json}
    (read : members budget before input = .ok (found, rest)) (regular : (object before).IsRegular) :
    (object found).IsRegular

namespace Keeps

variable {budget : Nat} {input rest : List Char}

theorem zero : Keeps 0 := by
  refine ⟨fun read => ?_, fun read => ?_, fun read _ => ?_⟩
  · rw [Reader.value] at read
    cases read
  · rw [Reader.items] at read
    cases read
  · rw [Reader.members] at read
    cases read

theorem value_succ (ih : Keeps budget) {json : Json}
    (read : Reader.value (budget + 1) input = .ok (json, rest)) : json.IsRegular := by
  rw [Reader.value.eq_def] at read
  split at read
  · contradiction
  · obtain ⟨⟨text, after⟩, -, made⟩ := map_eq_ok.1 read
    cases made
    exact .plain rfl
  · rename_i same
    cases same
    split at read
    · cases read
      exact .list (by simp)
    · obtain ⟨⟨found, after⟩, inner, made⟩ := map_eq_ok.1 read
      cases made
      exact ih.items inner
  · rename_i same
    cases same
    split at read
    · cases read
      exact .object List.nodup_nil (by simp)
    · obtain ⟨⟨found, after⟩, inner, made⟩ := map_eq_ok.1 read
      cases made
      exact ih.members inner (.object List.nodup_nil (by simp))
  · split at read
    · rename_i plain
      cases read
      exact .plain (isPlain_of_plain? plain)
    · cases read
    · cases read

theorem items_succ (ih : Keeps budget) {found : List Json}
    (read : Reader.items (budget + 1) input = .ok (found, rest)) : (Json.list found).IsRegular := by
  rw [Reader.items] at read
  obtain ⟨⟨item, after⟩, first, read⟩ := bind_eq_ok.1 read
  simp only at read
  split at read
  · obtain ⟨⟨others, after⟩, later, read⟩ := bind_eq_ok.1 read
    cases read
    exact isRegular_list_iff.2
      (List.forall_mem_cons.2 ⟨ih.value first, isRegular_list_iff.1 (ih.items later)⟩)
  · cases read
    exact isRegular_list_iff.2 (List.forall_mem_singleton.2 (ih.value first))
  · cases read

theorem members_succ (ih : Keeps budget) {before found : Keyed Json}
    (read : Reader.members (budget + 1) before input = .ok (found, rest))
    (regular : (object before).IsRegular) : (object found).IsRegular := by
  rw [Reader.members.eq_def] at read
  split at read
  · contradiction
  · rename_i same
    cases same
    obtain ⟨⟨key, after⟩, -, read⟩ := bind_eq_ok.1 read
    simp only at read
    split at read
    · obtain ⟨⟨value, after⟩, first, read⟩ := bind_eq_ok.1 read
      simp only at read
      have put := isRegular_put regular key (ih.value first)
      split at read
      · exact ih.members read put
      · cases read
        exact put
      · cases read
    · cases read
  · cases read

end Keeps

theorem keeps (budget : Nat) : Keeps budget := by
  induction budget with
  | zero => exact .zero
  | succ budget ih => exact ⟨ih.value_succ, ih.items_succ, ih.members_succ⟩

end Reader

theorem parse?_eq_some_iff {text : String} {json : Json} :
    parse? text = some json ↔ parse text = .ok json := by
  unfold parse?
  cases parse text <;> simp [Except.toOption]

/-- In what is read from a text no object has a key twice. -/
theorem isRegular_of_parse {text : String} {json : Json} (read : parse text = .ok json) :
    json.IsRegular := by
  unfold parse at read
  split at read
  · cases read
  · obtain ⟨⟨value, rest⟩, first, read⟩ := bind_eq_ok.1 read
    simp only at read
    split at read
    · cases read
      exact (Reader.keeps _).value first
    · cases read

end Json

end SnippetTutor
