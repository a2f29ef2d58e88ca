import Mathlib.Data.List.Basic
import Mathlib.Data.List.Induction
import SnippetTutor.Proofs.Aliases

/-!
# Well-formed maps of aliases

A map of aliases keeps three things that have to agree: what each alias stands for, the groups with
their names and changes, and the list of the changed sources. They agree after every sequence of
operations, also where a name is bound again or bound to itself.

* `AliasMap.Lists` and `AliasMap.IsChanged` are what the groups say about names and sources, and
  there is a lemma for what each operation does to either (`AliasMap.WellFormed.lists_addAlias`,
  `AliasMap.isChanged_recordMutation`, …);
* `AliasMap.WellFormed` is the agreement. One operation keeps it, so every sequence of operations
  does (`AliasMap.Reached.wellFormed`);
* `AliasMap.run` carries out a sequence of operations, and `AliasMap.wellFormed_run` adds to the
  agreement that the changed sources stand in the order of their first change.
-/

namespace SnippetTutor

/-- What holds of a group that is stored under a key. -/
structure AliasGroup.StoredUnder {σ : Type} (key : String) (group : AliasGroup σ) : Prop where
  source_eq : group.source = key
  /-- The source is the first of the aliases. -/
  head_eq : group.aliases.head? = some group.source
  distinct : group.aliases.Nodup
  /-- Nothing is changed through an alias unless there are two of them. -/
  shared_of_changed : group.mutations ≠ [] → group.shared = true

namespace AliasGroup.StoredUnder

variable {σ : Type} {key : String} {group : AliasGroup σ} (stored : group.StoredUnder key)

include stored

theorem mem_aliases : key ∈ group.aliases := by
  apply List.mem_of_mem_head?
  rw [stored.head_eq, stored.source_eq]
  rfl

/-- One more alias, unless it is known. -/
theorem withAlias (name : String) :
    StoredUnder key { group with
      aliases := if group.aliases.contains name then group.aliases
        else group.aliases ++ [name] } := by
  by_cases present : group.aliases.contains name = true
  · simp only [if_pos present]
    exact stored
  · simp only [if_neg present]
    have new : name ∉ group.aliases := by simpa using present
    refine ⟨stored.source_eq, ?_, ?_, ?_⟩
    · rw [List.head?_append, stored.head_eq]
      rfl
    · rw [List.nodup_append]
      refine ⟨stored.distinct, by simp, ?_⟩
      rintro first listed second single rfl
      exact new (List.mem_singleton.1 single ▸ listed)
    · intro changed
      have shared : 1 < group.aliases.length := of_decide_eq_true (stored.shared_of_changed changed)
      exact decide_eq_true (by simp; omega)

/-- One more change to a value that is shared. -/
theorem withChange (shared : group.shared = true) (mutation : Mutation σ) :
    StoredUnder key { group with mutations := group.mutations ++ [mutation] } :=
  ⟨stored.source_eq, stored.head_eq, stored.distinct, fun _ => shared⟩

end AliasGroup.StoredUnder

namespace AliasMap

variable {σ : Type}

/-! ### What groups say -/

/-- The group under a key lists a name. -/
def Lists (map : AliasMap σ) (key name : String) : Prop :=
  ∃ group, map.groups.get? key = some group ∧ name ∈ group.aliases

/-- A change is recorded in the group of a source. -/
def IsChanged (map : AliasMap σ) (source : String) : Prop :=
  ∃ group, map.groups.get? source = some group ∧ group.mutations ≠ []

/-- The parts of a map agree with each other. -/
structure WellFormed (map : AliasMap σ) : Prop where
  keys_distinct : map.groups.keys.Nodup
  stored : ∀ key group, map.groups.get? key = some group → group.StoredUnder key
  /-- What an alias stands for has a group, and the group lists the alias. -/
  resolved : ∀ name source, map.aliasOf.get? name = some source → map.Lists source name
  /-- A group lists its source and aliases, and no other names. -/
  listed : ∀ key name, map.Lists key name → name = key ∨ name ∈ map.aliasOf.keys
  mutated_distinct : map.mutatedSources.Nodup
  mem_mutated_iff : ∀ source, source ∈ map.mutatedSources ↔ map.IsChanged source

/-- What is in a list of names after one was added, unless it was there. -/
theorem mem_joined {names : List String} {name other : String} :
    other ∈ (if names.contains name then names else names ++ [name]) ↔
      other ∈ names ∨ other = name := by
  by_cases present : name ∈ names
  · simp only [List.contains_iff_mem.2 present, if_true]
    constructor
    · exact .inl
    · rintro (listed | rfl)
      · exact listed
      · exact present
  · simp [present]

section

variable {map map' : AliasMap σ} {key : String} {group : AliasGroup σ}

/-- What groups list after one of them was replaced. -/
theorem lists_iff_of_put (replaced : map'.groups = map.groups.put key group)
    (other name : String) :
    map'.Lists other name ↔ if key = other then name ∈ group.aliases else map.Lists other name := by
  unfold Lists
  rw [replaced]
  simp only [Keyed.get?_put]
  split <;> simp

/-- Which groups are changed after one of them was replaced. -/
theorem isChanged_iff_of_put (replaced : map'.groups = map.groups.put key group)
    (other : String) :
    map'.IsChanged other ↔ if key = other then group.mutations ≠ [] else map.IsChanged other := by
  unfold IsChanged
  rw [replaced]
  simp only [Keyed.get?_put]
  split <;> simp

theorem isChanged_iff_groupOf (map : AliasMap σ) (source : String) :
    map.IsChanged source ↔ (map.groupOf source).mutations ≠ [] := by
  unfold IsChanged groupOf
  cases map.groups.get? source <;> simp

/-- A group is replaced by one with the same changes. -/
theorem isChanged_iff_of_same (replaced : map'.groups = map.groups.put key group)
    (same : group.mutations = (map.groupOf key).mutations) (source : String) :
    map'.IsChanged source ↔ map.IsChanged source := by
  rw [isChanged_iff_of_put replaced, same, ← isChanged_iff_groupOf]
  by_cases equal : key = source
  · rw [if_pos equal, equal]
  · rw [if_neg equal]

theorem isChanged_addAlias (map : AliasMap σ) (name source other : String) :
    (map.addAlias name source).IsChanged other ↔ map.IsChanged other := by
  unfold addAlias
  apply isChanged_iff_of_same rfl
  rfl

theorem isChanged_ensureSource (map : AliasMap σ) (source other : String) :
    (map.ensureSource source).IsChanged other ↔ map.IsChanged other :=
  isChanged_iff_of_same rfl rfl other

/-- A change is recorded in the group that the path belongs to, and nowhere else. -/
theorem isChanged_recordMutation (map : AliasMap σ) (path : String) (site : σ) (source : String) :
    (map.recordMutation path site).IsChanged source ↔
      map.IsChanged source ∨ ∃ group, map.groupFor path = some group ∧ group.source = source := by
  unfold recordMutation
  cases found : map.groupFor path with
  | none => simp
  | some group =>
    rw [isChanged_iff_of_put rfl]
    by_cases same : group.source = source <;> simp [same]

theorem aliasOf_addAlias (map : AliasMap σ) (name source : String) :
    (map.addAlias name source).aliasOf = map.aliasOf.put name (map.canonical source) := rfl

theorem aliasOf_recordMutation (map : AliasMap σ) (path : String) (site : σ) :
    (map.recordMutation path site).aliasOf = map.aliasOf := by
  unfold recordMutation
  split <;> rfl

end

/-! ### One operation -/

namespace WellFormed

variable {map : AliasMap σ} (wellFormed : map.WellFormed)

include wellFormed

/-- A group that lists a name lists its source. -/
theorem lists_self {key name : String} (lists : map.Lists key name) : map.Lists key key := by
  obtain ⟨group, found, -⟩ := lists
  exact ⟨group, found, (wellFormed.stored key group found).mem_aliases⟩

/-- The group of a source is fit to be stored under it, also where it is new. -/
theorem storedUnder_groupOf (source : String) :
    (map.groupOf source).StoredUnder source := by
  unfold groupOf
  cases found : map.groups.get? source with
  | none => exact ⟨rfl, rfl, by simp, fun changed => absurd rfl changed⟩
  | some group => exact wellFormed.stored source group found

theorem mem_aliases_groupOf (source name : String) :
    name ∈ (map.groupOf source).aliases ↔ map.Lists source name ∨ name = source := by
  have first := (wellFormed.storedUnder_groupOf source).mem_aliases
  unfold groupOf Lists at *
  cases found : map.groups.get? source with
  | none => simp
  | some group =>
    rw [found] at first
    simp only [Option.getD_some, Option.some.injEq, exists_eq_left'] at *
    constructor
    · exact .inl
    · rintro (listed | rfl)
      · exact listed
      · exact first

/-- The group that a written path belongs to is stored under its source. -/
theorem get?_of_groupFor {path : String} {group : AliasGroup σ}
    (found : map.groupFor path = some group) :
    map.groups.get? group.source = some group ∧ group.shared = true := by
  obtain ⟨key, held, shared⟩ := exists_get?_of_groupFor found
  rw [(wellFormed.stored key group held).source_eq]
  exact ⟨held, shared⟩

/-! #### Names that are listed -/

/-- An alias joins the group of what its source stands for, which is made if there is none. -/
theorem lists_addAlias (name source key other : String) :
    (map.addAlias name source).Lists key other ↔
      map.Lists key other ∨ key = map.canonical source ∧ (other = key ∨ other = name) := by
  rw [lists_iff_of_put rfl]
  by_cases target : map.canonical source = key
  · subst target
    rw [if_pos rfl, mem_joined, wellFormed.mem_aliases_groupOf]
    simp [or_assoc]
  · simp [target, Ne.symm target]

/-- A source is listed in its own group from when it is known as one. -/
theorem lists_ensureSource (source key other : String) :
    (map.ensureSource source).Lists key other ↔
      map.Lists key other ∨ key = source ∧ other = source := by
  rw [lists_iff_of_put rfl]
  by_cases same : source = key
  · subst same
    rw [if_pos rfl, wellFormed.mem_aliases_groupOf]
    simp
  · simp [same, Ne.symm same]

/-- Recording a change leaves the names alone. -/
theorem lists_recordMutation (path : String) (site : σ) (key other : String) :
    (map.recordMutation path site).Lists key other ↔ map.Lists key other := by
  unfold recordMutation
  cases found : map.groupFor path with
  | none => rfl
  | some group =>
    obtain ⟨held, -⟩ := wellFormed.get?_of_groupFor found
    rw [lists_iff_of_put rfl]
    by_cases same : group.source = key
    · subst same
      rw [if_pos rfl]
      constructor
      · intro listed
        exact ⟨group, held, listed⟩
      · rintro ⟨group', held', listed⟩
        rw [held] at held'
        cases held'
        exact listed
    · rw [if_neg same]

/-! #### Changes that are recorded -/

/-- A source joins the list of the changed ones with its first change. -/
theorem mutatedSources_recordMutation (path : String) (site : σ) :
    (map.recordMutation path site).mutatedSources = map.mutatedSources ∧
        (∀ group, map.groupFor path = some group → map.IsChanged group.source) ∨
      ∃ group, map.groupFor path = some group ∧ ¬map.IsChanged group.source ∧
        (map.recordMutation path site).mutatedSources = map.mutatedSources ++ [group.source] := by
  unfold recordMutation
  cases found : map.groupFor path with
  | none => exact .inl ⟨rfl, fun group absent => nomatch absent⟩
  | some group =>
    obtain ⟨held, -⟩ := wellFormed.get?_of_groupFor found
    -- The group that is asked for its changes is the one under its source.
    have changed : map.IsChanged group.source ↔ group.mutations ≠ [] := by
      unfold IsChanged
      simp [held]
    by_cases first : group.mutations = []
    · refine .inr ⟨group, rfl, by simp [changed, first], ?_⟩
      simp [first]
    · refine .inl ⟨by simp [first], ?_⟩
      rintro _ ⟨⟩
      exact changed.2 first

/-! #### The agreement -/

/-- A group that is fit for its key takes the place of another. -/
theorem stored_put {key : String} {group : AliasGroup σ} (fit : group.StoredUnder key)
    (other : String) (held : AliasGroup σ)
    (found : (map.groups.put key group).get? other = some held) : held.StoredUnder other := by
  rw [Keyed.get?_put] at found
  by_cases same : key = other
  · rw [if_pos same] at found
    cases found
    exact same ▸ fit
  · rw [if_neg same] at found
    exact wellFormed.stored other held found

theorem addAlias (name source : String) : (map.addAlias name source).WellFormed := by
  have fit := (wellFormed.storedUnder_groupOf (map.canonical source)).withAlias name
  refine ⟨Keyed.nodup_keys_put wellFormed.keys_distinct _ _, wellFormed.stored_put fit, ?_, ?_,
    wellFormed.mutated_distinct, ?_⟩
  · intro bound target found
    rw [wellFormed.lists_addAlias]
    rw [aliasOf_addAlias, Keyed.get?_put] at found
    by_cases new : name = bound
    · rw [if_pos new] at found
      exact .inr ⟨(Option.some.inj found).symm, .inr new.symm⟩
    · rw [if_neg new] at found
      exact .inl (wellFormed.resolved bound target found)
  · intro key other lists
    rw [aliasOf_addAlias, Keyed.mem_keys_put]
    rcases (wellFormed.lists_addAlias name source key other).1 lists with old | ⟨-, self | new⟩
    · exact (wellFormed.listed key other old).imp_right .inr
    · exact .inl self
    · exact .inr (.inl new)
  · intro other
    rw [isChanged_addAlias]
    exact wellFormed.mem_mutated_iff other

theorem ensureSource (source : String) : (map.ensureSource source).WellFormed := by
  have fit := wellFormed.storedUnder_groupOf source
  refine ⟨Keyed.nodup_keys_put wellFormed.keys_distinct _ _, wellFormed.stored_put fit, ?_, ?_,
    wellFormed.mutated_distinct, ?_⟩
  · intro bound target found
    rw [wellFormed.lists_ensureSource]
    exact .inl (wellFormed.resolved bound target found)
  · intro key other lists
    rcases (wellFormed.lists_ensureSource source key other).1 lists with old | ⟨rfl, self⟩
    · exact wellFormed.listed key other old
    · exact .inl self
  · intro other
    rw [isChanged_ensureSource]
    exact wellFormed.mem_mutated_iff other

theorem recordMutation (path : String) (site : σ) :
    (map.recordMutation path site).WellFormed := by
  have aliasOf_eq := map.aliasOf_recordMutation path site
  have groups : (map.recordMutation path site).groups.keys.Nodup ∧
      ∀ key group, (map.recordMutation path site).groups.get? key = some group →
        group.StoredUnder key := by
    unfold AliasMap.recordMutation
    cases found : map.groupFor path with
    | none => exact ⟨wellFormed.keys_distinct, wellFormed.stored⟩
    | some group =>
      obtain ⟨held, shared⟩ := wellFormed.get?_of_groupFor found
      have fit := (wellFormed.stored _ group held).withChange shared ⟨path, site⟩
      exact ⟨Keyed.nodup_keys_put wellFormed.keys_distinct _ _, wellFormed.stored_put fit⟩
  refine ⟨groups.1, groups.2, ?_, ?_, ?_, ?_⟩
  · intro bound target found
    rw [aliasOf_eq] at found
    rw [wellFormed.lists_recordMutation]
    exact wellFormed.resolved bound target found
  · intro key other lists
    rw [wellFormed.lists_recordMutation] at lists
    rw [aliasOf_eq]
    exact wellFormed.listed key other lists
  · rcases wellFormed.mutatedSources_recordMutation path site with ⟨same, -⟩ | ⟨group, -, new, more⟩
    · rw [same]
      exact wellFormed.mutated_distinct
    · rw [more, List.nodup_append]
      refine ⟨wellFormed.mutated_distinct, by simp, ?_⟩
      rintro first listed second single rfl
      rw [List.mem_singleton.1 single, wellFormed.mem_mutated_iff] at listed
      exact new listed
  · intro source
    rw [isChanged_recordMutation, ← wellFormed.mem_mutated_iff]
    rcases wellFormed.mutatedSources_recordMutation path site with
      ⟨same, old⟩ | ⟨group, found, -, more⟩
    · rw [same]
      constructor
      · exact .inl
      · rintro (listed | ⟨group, found, rfl⟩)
        · exact listed
        · exact (wellFormed.mem_mutated_iff _).2 (old group found)
    · rw [more, found, List.mem_append, List.mem_singleton]
      simp [eq_comm]

end WellFormed

theorem wellFormed_start : WellFormed ({} : AliasMap σ) := by
  refine ⟨List.nodup_nil, ?_, ?_, ?_, List.nodup_nil, ?_⟩
  · intro key group found
    cases found
  · intro name source found
    cases found
  · rintro key name ⟨group, found, -⟩
    cases found
  · intro source
    constructor
    · intro listed
      cases listed
    · rintro ⟨group, found, -⟩
      cases found

/-- The parts of a map agree, whatever the operations. -/
theorem Reached.wellFormed {fits : Mutation σ → Prop} {map : AliasMap σ}
    (reached : Reached fits map) : map.WellFormed := by
  induction reached with
  | start => exact wellFormed_start
  | addAlias _ name source ih => exact ih.addAlias name source
  | ensureSource _ source ih => exact ih.ensureSource source
  | recordMutation _ _ ih => exact ih.recordMutation _ _

/-! ### Sequences of operations -/

/-- An operation on a map of aliases. -/
inductive Operation (σ : Type) where
  | addAlias (name source : String)
  | ensureSource (source : String)
  | recordMutation (path : String) (site : σ)

/-- The map after an operation. -/
def apply (map : AliasMap σ) : Operation σ → AliasMap σ
  | .addAlias name source => map.addAlias name source
  | .ensureSource source => map.ensureSource source
  | .recordMutation path site => map.recordMutation path site

/-- The map after operations on an empty one. -/
def run (operations : List (Operation σ)) : AliasMap σ := operations.foldl apply {}

theorem run_concat (operations : List (Operation σ)) (operation : Operation σ) :
    run (operations ++ [operation]) = (run operations).apply operation := by
  rw [run, List.foldl_append]
  rfl

theorem reached_run (operations : List (Operation σ)) :
    Reached (fun _ => True) (run operations) := by
  induction operations using List.reverseRecOn with
  | nil => exact .start
  | append_singleton operations operation ih =>
    rw [run_concat]
    cases operation with
    | addAlias name source => exact ih.addAlias name source
    | ensureSource source => exact ih.ensureSource source
    | recordMutation path site => exact ih.recordMutation trivial

/-- An operation adds at most one source to the changed ones, and only one that was not changed
before. -/
theorem WellFormed.mutatedSources_apply {map : AliasMap σ} (wellFormed : map.WellFormed)
    (operation : Operation σ) :
    (map.apply operation).mutatedSources = map.mutatedSources ∨
      ∃ source, ¬map.IsChanged source ∧
        (map.apply operation).mutatedSources = map.mutatedSources ++ [source] := by
  cases operation with
  | addAlias name source => exact .inl rfl
  | ensureSource source => exact .inl rfl
  | recordMutation path site =>
    rcases wellFormed.mutatedSources_recordMutation path site with ⟨same, -⟩ | ⟨group, -, new, more⟩
    · exact .inl same
    · exact .inr ⟨group.source, new, more⟩

/-- After some of the operations one source was changed, and another one was not. -/
def ChangedBefore (operations : List (Operation σ)) (first second : String) : Prop :=
  ∃ before, before <+: operations ∧ (run before).IsChanged first ∧ ¬(run before).IsChanged second

theorem ChangedBefore.concat {operations : List (Operation σ)} {first second : String}
    (changed : ChangedBefore operations first second) (operation : Operation σ) :
    ChangedBefore (operations ++ [operation]) first second := by
  obtain ⟨before, start, changed⟩ := changed
  exact ⟨before, start.trans (List.prefix_append operations [operation]), changed⟩

/-- The changed sources stand in the order of their first change. -/
theorem pairwise_mutatedSources (operations : List (Operation σ)) :
    (run operations).mutatedSources.Pairwise (ChangedBefore operations) := by
  induction operations using List.reverseRecOn with
  | nil => exact .nil
  | append_singleton operations operation ih =>
    have wellFormed := (reached_run operations).wellFormed
    have earlier := ih.imp fun changed => changed.concat operation
    rw [run_concat]
    rcases wellFormed.mutatedSources_apply operation with same | ⟨source, new, more⟩
    · rw [same]
      exact earlier
    · -- The new source comes last; the others were changed before this operation.
      rw [more, List.pairwise_append]
      refine ⟨earlier, List.pairwise_singleton _ _, ?_⟩
      intro first listed second single
      rw [List.mem_singleton.1 single]
      exact ⟨operations, List.prefix_append _ _, (wellFormed.mem_mutated_iff first).1 listed, new⟩

/-- Every changed source has its group. -/
theorem WellFormed.map_source_mutated {map : AliasMap σ} (wellFormed : map.WellFormed) :
    map.mutated.map AliasGroup.source = map.mutatedSources := by
  have found : ∀ source ∈ map.mutatedSources,
      (map.groups.get? source).map AliasGroup.source = some source := by
    intro source listed
    obtain ⟨group, held, -⟩ := (wellFormed.mem_mutated_iff source).1 listed
    rw [held, Option.map_some, (wellFormed.stored source group held).source_eq]
  calc map.mutated.map AliasGroup.source
      = map.mutatedSources.filterMap fun source =>
          (map.groups.get? source).map AliasGroup.source := List.map_filterMap
    _ = map.mutatedSources.filterMap some := List.filterMap_congr found
    _ = map.mutatedSources := List.filterMap_some

/-! ### Main statement -/

/-- The parts of a map agree after every sequence of operations. The changed sources stand in the
order of their first change, and every one of them has its group. -/
theorem wellFormed_run (operations : List (Operation σ)) :
    (run operations).WellFormed ∧
      (run operations).mutatedSources.Pairwise (ChangedBefore operations) ∧
      (run operations).mutated.map AliasGroup.source = (run operations).mutatedSources := by
  have wellFormed := (reached_run operations).wellFormed
  exact ⟨wellFormed, pairwise_mutatedSources operations, wellFormed.map_source_mutated⟩

end AliasMap

end SnippetTutor
