/-!
# Keyed lists

Values under text keys, in the order in which the keys were first set. Setting a key again
replaces its value and keeps its place.

* `Keyed.get?_put`: what is found under a key after another one was set;
* `Keyed.keys_put`: setting a key adds it at the end, or leaves the keys as they are, so that no key
  is there twice (`Keyed.nodup_keys_put`);
* `Keyed.get?_putAll`: of several values set under one key the last one is found;
* `Keyed.get?_map`: what is found under a key after every value was replaced;
* `Keyed.groupBy_eq`: collecting items under their keys, one after the other, leaves under every key
  the items with that key.
-/

namespace SnippetTutor

/-- Values under text keys, in insertion order. -/
abbrev Keyed (α : Type) := List (String × α)

namespace Keyed

variable {α : Type}

/-- The keys in order. -/
def keys (entries : Keyed α) : List String := entries.map Prod.fst

/-- The value under a key. -/
def get? (entries : Keyed α) (key : String) : Option α :=
  (entries.find? fun entry => entry.1 == key).map Prod.snd

/-- Whether a key is set. -/
def hasKey (entries : Keyed α) (key : String) : Bool := entries.any fun entry => entry.1 == key

/-- Sets a key. -/
def put : Keyed α → String → α → Keyed α
  | [], key, value => [(key, value)]
  | entry :: rest, key, value =>
    if entry.1 == key then (key, value) :: rest else entry :: put rest key value

/-- Sets several keys, one after the other. -/
def putAll (entries updates : Keyed α) : Keyed α :=
  updates.foldl (fun entries update => put entries update.1 update.2) entries

/-- Adds a value to those under a key. -/
def addTo (entries : Keyed (List α)) (key : String) (value : α) : Keyed (List α) :=
  put entries key ((get? entries key).getD [] ++ [value])

/-- Items under their keys, in order of first occurrence. -/
def groupBy (key : α → String) (items : List α) : Keyed (List α) :=
  items.foldl (fun groups item => groups.addTo (key item) item) []

@[simp] theorem get?_nil (key : String) : get? ([] : Keyed α) key = none := rfl

theorem get?_cons (entry : String × α) (rest : Keyed α) (key : String) :
    get? (entry :: rest) key = if entry.1 = key then some entry.2 else get? rest key := by
  by_cases same : entry.1 = key <;> simp [get?, same]

/-- What is found under a key after another one was set. -/
theorem get?_put (entries : Keyed α) (key : String) (value : α) (other : String) :
    get? (put entries key value) other = if key = other then some value else get? entries other := by
  induction entries with
  | nil => simp [put, get?_cons]
  | cons entry rest ih =>
    by_cases same : entry.1 = key
    · by_cases found : key = other <;> simp [put, same, get?_cons, found]
    · have kept : put (entry :: rest) key value = entry :: put rest key value := by
        simp [put, same]
      rw [kept, get?_cons, get?_cons, ih]
      by_cases found : entry.1 = other
      · have apart : key ≠ other := fun equal => same (found.trans equal.symm)
        simp [found, apart]
      · simp [found]

theorem get?_append (first second : Keyed α) (key : String) :
    get? (first ++ second) key = (get? first key).or (get? second key) := by
  induction first with
  | nil => rfl
  | cons entry rest ih =>
    rw [List.cons_append, get?_cons, get?_cons, ih]
    by_cases same : entry.1 = key <;> simp [same]

theorem putAll_cons (entries : Keyed α) (update : String × α) (updates : Keyed α) :
    putAll entries (update :: updates) = putAll (put entries update.1 update.2) updates := rfl

/-- What is found under a key after several ones were set. -/
theorem get?_putAll (entries updates : Keyed α) (key : String) :
    get? (putAll entries updates) key = (get? updates.reverse key).or (get? entries key) := by
  induction updates generalizing entries with
  | nil => rfl
  | cons update updates ih =>
    rw [putAll_cons, ih, get?_put, List.reverse_cons, get?_append, get?_cons, get?_nil]
    by_cases same : update.1 = key <;> simp [same]

theorem mem_of_get? {entries : Keyed α} {key : String} {value : α}
    (found : get? entries key = some value) : (key, value) ∈ entries := by
  induction entries with
  | nil => cases found
  | cons entry rest ih =>
    rw [get?_cons] at found
    by_cases same : entry.1 = key
    · rw [if_pos same] at found
      cases found
      exact List.mem_cons.2 (.inl (same ▸ rfl))
    · rw [if_neg same] at found
      exact List.mem_cons_of_mem _ (ih found)

theorem hasKey_iff (entries : Keyed α) (key : String) :
    entries.hasKey key = true ↔ key ∈ entries.keys := by
  simp [hasKey, keys]

/-- Setting a key adds it at the end, or leaves the keys as they are. -/
theorem keys_put (entries : Keyed α) (key : String) (value : α) :
    (put entries key value).keys =
      if key ∈ entries.keys then entries.keys else entries.keys ++ [key] := by
  induction entries with
  | nil => simp [put, keys]
  | cons entry rest ih =>
    by_cases same : entry.1 = key
    · simp [put, keys, same]
    · have apart : key ≠ entry.1 := fun equal => same equal.symm
      simp only [keys] at ih
      by_cases later : key ∈ rest.map Prod.fst
      · simp [put, keys, same, apart, ih, later]
      · simp [put, keys, same, apart, ih, later]

theorem mem_keys_put {entries : Keyed α} {key other : String} {value : α} :
    other ∈ (put entries key value).keys ↔ other = key ∨ other ∈ entries.keys := by
  rw [keys_put]
  split
  · rename_i present
    constructor
    · exact .inr
    · rintro (rfl | listed)
      · exact present
      · exact listed
  · simp [or_comm]

/-- What stands in a list after a key was set: the entry that was set, or one that was there. -/
theorem mem_put {entries : Keyed α} {key : String} {value : α} {entry : String × α}
    (member : entry ∈ put entries key value) : entry = (key, value) ∨ entry ∈ entries := by
  induction entries with
  | nil => exact .inl (List.mem_singleton.1 member)
  | cons first rest ih =>
    rw [put] at member
    split at member
    · rcases List.mem_cons.1 member with new | old
      · exact .inl new
      · exact .inr (List.mem_cons_of_mem _ old)
    · rcases List.mem_cons.1 member with rfl | later
      · exact .inr List.mem_cons_self
      · exact (ih later).imp_right (List.mem_cons_of_mem _)

/-- What is found under a key when every value is replaced by one that depends on it and its key. -/
theorem get?_map {β : Type} (f : String → α → β) (entries : Keyed α) (key : String) :
    get? (entries.map fun entry => (entry.1, f entry.1 entry.2)) key =
      (get? entries key).map (f key) := by
  induction entries with
  | nil => rfl
  | cons entry rest ih =>
    rw [List.map_cons, get?_cons, get?_cons, ih]
    by_cases same : entry.1 = key <;> simp [same]

/-- No key is set twice. -/
theorem nodup_keys_put {entries : Keyed α} (distinct : entries.keys.Nodup) (key : String)
    (value : α) : (put entries key value).keys.Nodup := by
  rw [keys_put]
  split
  · exact distinct
  · rename_i unset
    rw [List.nodup_append]
    refine ⟨distinct, by simp, ?_⟩
    rintro first listed second single rfl
    exact unset (List.mem_singleton.1 single ▸ listed)

theorem get?_isSome_iff (entries : Keyed α) (key : String) :
    (entries.get? key).isSome = true ↔ key ∈ entries.keys := by
  simp [get?, keys]

theorem get?_eq_none_iff (entries : Keyed α) (key : String) :
    entries.get? key = none ↔ key ∉ entries.keys := by
  rw [← get?_isSome_iff, Option.not_isSome_iff_eq_none]

/-- Where no key is set twice, there is one entry under a key that is set. -/
theorem filter_eq_of_get? {entries : Keyed α} (distinct : entries.keys.Nodup) {key : String}
    {value : α} (found : entries.get? key = some value) :
    (entries.filter fun entry => entry.1 = key) = [(key, value)] := by
  induction entries with
  | nil => cases found
  | cons entry rest ih =>
    obtain ⟨absent, distinct⟩ := List.nodup_cons.1 distinct
    rw [get?_cons] at found
    by_cases same : entry.1 = key
    · rw [if_pos same] at found
      have others : ∀ other ∈ rest, ¬decide (other.1 = key) = true := by
        intro other member equal
        exact absent (List.mem_map.2 ⟨other, member, (of_decide_eq_true equal).trans same.symm⟩)
      rw [List.filter_cons, List.filter_eq_nil_iff.2 others]
      cases found
      simp [← same]
    · rw [if_neg same] at found
      rw [List.filter_cons, ih distinct found]
      simp [same]

/-! ### Groups -/

theorem get?_map_keys (f : String → α) (keys : List String) (key : String) :
    get? (keys.map fun other => (other, f other)) key =
      if key ∈ keys then some (f key) else none := by
  induction keys with
  | nil => rfl
  | cons first rest ih =>
    rw [List.map_cons, get?_cons, ih]
    by_cases same : first = key
    · simp [same]
    · simp [same, Ne.symm same]

/-- Setting a key where no key is set twice. -/
theorem put_map_keys (f : String → α) {keys : List String} (distinct : keys.Nodup) (key : String)
    (value : α) :
    put (keys.map fun other => (other, f other)) key value =
      (if key ∈ keys then keys else keys ++ [key]).map fun other =>
        (other, if other = key then value else f other) := by
  induction keys with
  | nil => simp [put]
  | cons first rest ih =>
    obtain ⟨absent, distinct⟩ := List.nodup_cons.1 distinct
    by_cases same : first = key
    · subst same
      have kept : ∀ other ∈ rest, other = first → f other = value := by
        rintro other member rfl
        exact absurd member absent
      simpa [put] using kept
    · have apart : key ≠ first := Ne.symm same
      by_cases later : key ∈ rest
      · simp [put, same, apart, later, ih distinct]
      · simp [put, same, apart, later, ih distinct]

/-- The different keys of items, in order of first occurrence. -/
def namesOf (key : α → String) (items : List α) : List String := (items.map key).eraseDups

/-- Every key with the items that have it. -/
def grouped (key : α → String) (items : List α) : Keyed (List α) :=
  (namesOf key items).map fun name => (name, items.filter fun item => key item == name)

theorem keys_grouped (key : α → String) (items : List α) :
    (grouped key items).keys = namesOf key items := by
  rw [grouped, keys, List.map_map]
  exact List.map_id _

theorem mem_namesOf {key : α → String} {items : List α} {name : String} :
    name ∈ namesOf key items ↔ ∃ item ∈ items, key item = name := by
  rw [namesOf, List.mem_eraseDups, List.mem_map]

theorem namesOf_concat (key : α → String) (items : List α) (item : α) :
    namesOf key (items ++ [item]) =
      if key item ∈ namesOf key items then namesOf key items
      else namesOf key items ++ [key item] := by
  have split : namesOf key (items ++ [item]) =
      namesOf key items ++ ([key item].removeAll (items.map key)).eraseDups := by
    rw [namesOf, List.map_append, List.eraseDups_append]
    rfl
  rw [split]
  by_cases known : key item ∈ namesOf key items
  · have listed : key item ∈ items.map key := List.mem_eraseDups.1 known
    rw [if_pos known, List.removeAll, List.filter_cons_of_neg (by simpa using listed)]
    exact List.append_nil _
  · have unlisted : key item ∉ items.map key := fun listed => known (List.mem_eraseDups.2 listed)
    rw [if_neg known, List.removeAll, List.filter_cons_of_pos (by simpa using unlisted)]
    rfl

/-- One more item joins those with its key. -/
theorem addTo_grouped (key : α → String) {items : List α} (distinct : (namesOf key items).Nodup)
    (item : α) :
    addTo (grouped key items) (key item) item = grouped key (items ++ [item]) := by
  have before : (get? (grouped key items) (key item)).getD [] =
      items.filter fun other => key other == key item := by
    rw [grouped, get?_map_keys]
    split
    · rfl
    · rename_i unknown
      refine (List.filter_eq_nil_iff.2 fun other member same => unknown ?_).symm
      exact mem_namesOf.2 ⟨other, member, eq_of_beq same⟩
  rw [addTo, before, grouped, put_map_keys _ distinct, grouped, namesOf_concat]
  refine List.map_congr_left fun name _ => congrArg (Prod.mk name) ?_
  rw [List.filter_append]
  by_cases same : name = key item
  · simp [same]
  · simp [same, Ne.symm same]

/-- Collecting the rest of a list after some items leaves all items under their keys. -/
theorem foldl_addTo_grouped (key : α → String) {before : List α}
    (distinct : (namesOf key before).Nodup) (rest : List α) :
    rest.foldl (fun groups item => groups.addTo (key item) item) (grouped key before) =
      grouped key (before ++ rest) := by
  induction rest generalizing before with
  | nil => rw [List.append_nil, List.foldl_nil]
  | cons item rest ih =>
    have next : (namesOf key (before ++ [item])).Nodup := by
      rw [← keys_grouped, ← addTo_grouped key distinct]
      exact nodup_keys_put (by rwa [keys_grouped]) _ _
    rw [List.foldl_cons, addTo_grouped key distinct, ih next, List.append_assoc,
      List.singleton_append]

/-- Collected one after the other, items stand under their keys. -/
theorem groupBy_eq (key : α → String) (items : List α) : groupBy key items = grouped key items := by
  have empty : (namesOf key []).Nodup := .nil
  exact foldl_addTo_grouped key empty items

end Keyed

end SnippetTutor
