import Mathlib.Data.List.Find
import Mathlib.Data.List.Induction
import Mathlib.Logic.Relation
import SnippetTutor.Inference.Aliases

/-!
# Aliases and connected names

Pairs of an alias and its source connect names. As long as every alias is a new name when it is
recorded, the map of aliases holds the connected components: names stand for the same source
exactly when they are connected, and every component has one group.

* `AliasMap.ofPairs` records pairs one after the other, and `AliasMap.Connected` is the equivalence
  that they generate;
* `AliasMap.connected_concat_iff`: a new alias joins the component of its source and changes
  nothing else, which is just what happens to canonical names (`AliasMap.canonical_addAlias`);
* `AliasMap.Tracks` is the invariant, kept by one more pair (`AliasMap.Tracks.concat`) and so by
  all of them (`AliasMap.tracks_ofPairs`);
* `AliasMap.groups_are_components` reads the components off the map.
-/

namespace SnippetTutor.AliasMap

variable {σ : Type}

/-! ### Pairs and the names in them -/

/-- The aliases of pairs, recorded one after the other on an empty map. -/
def ofPairs (pairs : List (String × String)) : AliasMap σ :=
  pairs.foldl (fun map pair => map.addAlias pair.1 pair.2) {}

/-- Every alias is a new name when it is recorded: it differs from its source, and it is neither an
alias nor a source of an earlier pair. -/
def AreNew (pairs : List (String × String)) : Prop :=
  (∀ pair ∈ pairs, pair.1 ≠ pair.2) ∧
    pairs.Pairwise fun earlier later => later.1 ≠ earlier.1 ∧ later.1 ≠ earlier.2

instance (pairs : List (String × String)) : Decidable (AreNew pairs) :=
  inferInstanceAs (Decidable (_ ∧ _))

/-- Names that pairs connect. -/
def Connected (pairs : List (String × String)) : String → String → Prop :=
  Relation.EqvGen fun name source => (name, source) ∈ pairs

/-- The names in pairs in order of first registration, sources before their aliases. -/
def registered (pairs : List (String × String)) : List String :=
  (pairs.flatMap fun pair => [pair.2, pair.1]).eraseDups

/-- The registered names and a source, which comes last if it is not registered yet. -/
def registeredWith (pairs : List (String × String)) (source : String) : List String :=
  if source ∈ registered pairs then registered pairs else registered pairs ++ [source]

theorem mem_registered {pairs : List (String × String)} {name : String} :
    name ∈ registered pairs ↔ ∃ pair ∈ pairs, name = pair.2 ∨ name = pair.1 := by
  simp [registered, List.mem_eraseDups]

section

variable {pairs : List (String × String)} {name source : String}

theorem mem_registeredWith :
    name ∈ registeredWith pairs source ↔ name ∈ registered pairs ∨ name = source := by
  unfold registeredWith
  split
  · rename_i known
    constructor
    · exact .inl
    · rintro (listed | rfl)
      · exact listed
      · exact known
  · simp

theorem areNew_concat_iff :
    AreNew (pairs ++ [(name, source)]) ↔
      AreNew pairs ∧ name ≠ source ∧ name ∉ registered pairs := by
  simp only [AreNew, mem_registered, List.pairwise_append, List.mem_append, List.mem_singleton]
  constructor
  · rintro ⟨apart, new, -, later⟩
    refine ⟨⟨fun pair member => apart pair (.inl member), new⟩, apart _ (.inr rfl), ?_⟩
    rintro ⟨pair, member, same⟩
    obtain ⟨first, second⟩ := later pair member _ rfl
    exact same.elim second first
  · rintro ⟨⟨apart, new⟩, other, unknown⟩
    refine ⟨?_, new, List.pairwise_singleton _ _, ?_⟩
    · rintro pair (member | rfl)
      · exact apart pair member
      · exact other
    · rintro pair member _ rfl
      exact ⟨fun same => unknown ⟨pair, member, .inr same⟩,
        fun same => unknown ⟨pair, member, .inl same⟩⟩

/-- A pair with a new alias registers its source, unless that is known, and then the alias. -/
theorem registered_concat (other : name ≠ source) (unknown : name ∉ registered pairs) :
    registered (pairs ++ [(name, source)]) = registeredWith pairs source ++ [name] := by
  have step : registered (pairs ++ [(name, source)]) = registered pairs ++
      ([source, name].filter fun name => name ∉ registered pairs).eraseDups := by
    rw [registered, List.flatMap_append, List.eraseDups_append]
    congr 2
    apply List.filter_congr
    intro member _
    rw [Bool.eq_iff_iff, decide_eq_true_eq, registered, List.mem_eraseDups]
    simp
  rw [step, registeredWith]
  by_cases known : source ∈ registered pairs
  · simp [known, unknown, List.eraseDups_cons]
  · simp [known, unknown, List.eraseDups_cons, other]

theorem mem_registered_concat (other : name ≠ source) (unknown : name ∉ registered pairs)
    {member : String} :
    member ∈ registered (pairs ++ [(name, source)]) ↔
      member ∈ registeredWith pairs source ∨ member = name := by
  rw [registered_concat other unknown, List.mem_append, List.mem_singleton]

/-! ### Connected names -/

/-- A new alias joins the component of its source and changes nothing else. -/
theorem connected_concat_iff (other : name ≠ source) (unknown : name ∉ registered pairs)
    {first second : String} :
    Connected (pairs ++ [(name, source)]) first second ↔
      Connected pairs (if name = first then source else first)
        (if name = second then source else second) := by
  have joined : ∀ member, Connected (pairs ++ [(name, source)]) member
      (if name = member then source else member) := by
    intro member
    by_cases same : name = member
    · subst same
      rw [if_pos rfl]
      exact .rel _ _ (by simp)
    · rw [if_neg same]
      exact .refl _
  constructor
  · intro connected
    induction connected with
    | rel x y pair =>
      rcases List.mem_append.1 pair with old | new
      · -- The alias does not occur in the old pairs.
        have first : name ≠ x := by
          rintro rfl
          exact unknown (mem_registered.2 ⟨_, old, .inr rfl⟩)
        have second : name ≠ y := by
          rintro rfl
          exact unknown (mem_registered.2 ⟨_, old, .inl rfl⟩)
        rw [if_neg first, if_neg second]
        exact .rel _ _ old
      · obtain ⟨rfl, rfl⟩ := Prod.mk.inj (List.mem_singleton.1 new)
        rw [if_pos rfl, if_neg other]
        exact .refl _
    | refl x => exact .refl _
    | symm x y _ ih => exact .symm _ _ ih
    | trans x y z _ _ ih ih' => exact .trans _ _ _ ih ih'
  · intro connected
    have wider := Relation.EqvGen.mono
      (fun _ _ pair => List.mem_append_left [(name, source)] pair) _ _ connected
    exact .trans _ _ _ (joined first) (.trans _ _ _ wider (.symm _ _ (joined second)))

end

/-! ### One more pair -/

/-- The canonical name of a new alias is that of its source. -/
theorem canonical_addAlias (map : AliasMap σ) (name source other : String) :
    (map.addAlias name source).canonical other =
      if name = other then map.canonical source else map.canonical other := by
  unfold canonical addAlias
  rw [Keyed.get?_put]
  split <;> rfl

theorem mem_keys_addAlias (map : AliasMap σ) (name source key : String) :
    key ∈ (map.addAlias name source).groups.keys ↔
      key = map.canonical source ∨ key ∈ map.groups.keys := by
  unfold addAlias
  exact Keyed.mem_keys_put

/-- A group under a key holds the component of the key: its source is the first one of the
component, and its aliases are the names of the component in order of registration. -/
structure Holds (pairs : List (String × String)) (map : AliasMap σ) (key : String)
    (group : AliasGroup σ) : Prop where
  source_eq : group.source = key
  aliases_eq :
    group.aliases = (registered pairs).filter fun name => map.canonical name = key
  first_eq : (pairs.find? fun pair => map.canonical pair.2 = key).map Prod.snd = some key

/-- A map holds the components that pairs connect. -/
structure Tracks (pairs : List (String × String)) (map : AliasMap σ) : Prop where
  canonical_iff : ∀ first second,
    map.canonical first = map.canonical second ↔ Connected pairs first second
  /-- A name that is not registered stands for itself. -/
  canonical_unknown : ∀ name, name ∉ registered pairs → map.canonical name = name
  /-- A registered name stands for one that has a group. -/
  grouped : ∀ name ∈ registered pairs, map.canonical name ∈ map.groups.keys
  /-- A name that has a group stands for itself. -/
  fixed : ∀ key ∈ map.groups.keys, key ∈ registered pairs ∧ map.canonical key = key
  distinct : map.groups.keys.Nodup
  holds : ∀ key group, map.groups.get? key = some group → Holds pairs map key group

namespace Tracks

variable {pairs : List (String × String)} {map : AliasMap σ} {name source : String}

/-- What a source stands for is registered with it, and stands for itself. -/
theorem canonical_source (tracks : Tracks pairs map) (source : String) :
    (map.canonical source ∈ registered pairs ∨ map.canonical source = source) ∧
      map.canonical (map.canonical source) = map.canonical source := by
  by_cases known : source ∈ registered pairs
  · obtain ⟨member, fixed⟩ := tracks.fixed _ (tracks.grouped source known)
    exact ⟨.inl member, fixed⟩
  · have itself := tracks.canonical_unknown source known
    exact ⟨.inr itself, by rw [itself, itself]⟩

/-- The group to which the alias of a source is added: the one that holds the component of the
source, or a new one if the source is not registered. -/
theorem groupOf_canonical (tracks : Tracks pairs map) (source : String) :
    (map.groupOf (map.canonical source)).source = map.canonical source ∧
      (map.groupOf (map.canonical source)).aliases =
        (registeredWith pairs source).filter
          fun other => map.canonical other = map.canonical source := by
  unfold groupOf registeredWith
  by_cases known : source ∈ registered pairs
  · obtain ⟨group, found⟩ := Option.isSome_iff_exists.1
      ((Keyed.get?_isSome_iff _ _).2 (tracks.grouped source known))
    have holds := tracks.holds _ group found
    rw [found, if_pos known]
    exact ⟨holds.source_eq, holds.aliases_eq⟩
  · have itself := tracks.canonical_unknown source known
    have absent : map.groups.get? source = none := by
      rw [← Option.not_isSome_iff_eq_none, Keyed.get?_isSome_iff]
      exact fun listed => known (tracks.fixed source listed).1
    have others : ∀ other ∈ registered pairs, ¬map.canonical other = source := by
      rintro other member rfl
      exact known (tracks.fixed _ (tracks.grouped other member)).1
    rw [itself, absent, if_neg known, List.filter_append,
      List.filter_eq_nil_iff.2 (by simpa using others)]
    simp [itself]

section

variable (tracks : Tracks pairs map) (other : name ≠ source) (unknown : name ∉ registered pairs)

include other unknown

/-- A new alias leaves what the other names stand for as it is. -/
theorem canonical_addAlias_of_mem {member : String} (known : member ∈ registeredWith pairs source) :
    (map.addAlias name source).canonical member = map.canonical member := by
  rw [canonical_addAlias, if_neg]
  rintro rfl
  rcases mem_registeredWith.1 known with listed | same
  · exact unknown listed
  · exact other same

/-- A new alias comes last in the component of its source. -/
theorem filter_registered_concat (key : String) :
    ((registered (pairs ++ [(name, source)])).filter fun member =>
        (map.addAlias name source).canonical member = key) =
      ((registeredWith pairs source).filter fun member => map.canonical member = key) ++
        if map.canonical source = key then [name] else [] := by
  have same : ∀ member ∈ registeredWith pairs source,
      decide ((map.addAlias name source).canonical member = key) =
        decide (map.canonical member = key) := by
    intro member listed
    rw [canonical_addAlias_of_mem other unknown listed]
  rw [registered_concat other unknown, List.filter_append, List.filter_congr same]
  by_cases joined : map.canonical source = key <;> simp [canonical_addAlias, joined]

/-- The first pair of a component stays its first pair; the new pair comes after it. -/
theorem find?_concat (key : String) :
    ((pairs ++ [(name, source)]).find? fun pair =>
        (map.addAlias name source).canonical pair.2 = key) =
      (pairs.find? fun pair => map.canonical pair.2 = key).or
        (if map.canonical source = key then some (name, source) else none) := by
  have same : ∀ pair ∈ pairs,
      decide ((map.addAlias name source).canonical pair.2 = key) =
        decide (map.canonical pair.2 = key) := by
    intro pair member
    have listed : pair.2 ∈ registeredWith pairs source :=
      mem_registeredWith.2 (.inl (mem_registered.2 ⟨pair, member, .inl rfl⟩))
    rw [canonical_addAlias_of_mem other unknown listed]
  have last : source ∈ registeredWith pairs source := mem_registeredWith.2 (.inr rfl)
  rw [List.find?_append, List.find?_congr same]
  by_cases joined : map.canonical source = key <;>
    simp [canonical_addAlias_of_mem other unknown last, joined]

include tracks

/-- The group of the source holds the component with the new alias. -/
theorem holds_source :
    Holds (pairs ++ [(name, source)]) (map.addAlias name source) (map.canonical source)
      { map.groupOf (map.canonical source) with
        aliases := (map.groupOf (map.canonical source)).aliases ++ [name] } := by
  obtain ⟨source_eq, aliases_eq⟩ := tracks.groupOf_canonical source
  refine ⟨source_eq, ?_, ?_⟩
  · rw [filter_registered_concat other unknown, if_pos rfl, ← aliases_eq]
  · rw [find?_concat other unknown, if_pos rfl]
    by_cases known : source ∈ registered pairs
    · obtain ⟨group, found⟩ := Option.isSome_iff_exists.1
        ((Keyed.get?_isSome_iff _ _).2 (tracks.grouped source known))
      obtain ⟨pair, first, same⟩ := Option.map_eq_some_iff.1 (tracks.holds _ group found).first_eq
      rw [first]
      exact congrArg some same
    · -- No pair before this one has to do with the source.
      have itself := tracks.canonical_unknown source known
      have first :
          (pairs.find? fun pair => map.canonical pair.2 = map.canonical source) = none := by
        rw [List.find?_eq_none]
        intro pair member same
        have listed : pair.2 ∈ registered pairs := mem_registered.2 ⟨pair, member, .inl rfl⟩
        have target := (tracks.fixed _ (tracks.grouped _ listed)).1
        rw [of_decide_eq_true same, itself] at target
        exact known target
      rw [first, itself]
      rfl

/-- The other groups hold their components as before. -/
theorem holds_other {key : String} {group : AliasGroup σ} (apart : map.canonical source ≠ key)
    (found : map.groups.get? key = some group) :
    Holds (pairs ++ [(name, source)]) (map.addAlias name source) key group := by
  have before := tracks.holds key group found
  refine ⟨before.source_eq, ?_, ?_⟩
  · rw [filter_registered_concat other unknown, if_neg apart, List.append_nil, before.aliases_eq]
    unfold registeredWith
    split
    · rfl
    · simp [apart]
  · rw [find?_concat other unknown, if_neg apart, Option.or_none]
    exact before.first_eq

/-- With a new alias every group holds its component. -/
theorem holds_of_get? {key : String} {group : AliasGroup σ}
    (found : (map.addAlias name source).groups.get? key = some group) :
    Holds (pairs ++ [(name, source)]) (map.addAlias name source) key group := by
  have fresh : (map.groupOf (map.canonical source)).aliases.contains name = false := by
    rw [List.contains_eq_mem, decide_eq_false_iff_not, (tracks.groupOf_canonical source).2]
    intro listed
    rcases mem_registeredWith.1 (List.mem_filter.1 listed).1 with old | same
    · exact unknown old
    · exact other same
  unfold addAlias at found
  simp only [fresh, Keyed.get?_put] at found
  by_cases same : map.canonical source = key
  · rw [if_pos same] at found
    cases found
    exact same ▸ tracks.holds_source other unknown
  · rw [if_neg same] at found
    exact tracks.holds_other other unknown same found

/-- One more pair with a new alias is tracked. -/
theorem concat : Tracks (pairs ++ [(name, source)]) (map.addAlias name source) := by
  obtain ⟨target, idempotent⟩ := tracks.canonical_source source
  have target : map.canonical source ∈ registeredWith pairs source :=
    mem_registeredWith.2 target
  refine ⟨?_, ?_, ?_, ?_, ?_, ?_⟩
  · intro first second
    rw [canonical_addAlias, canonical_addAlias, ← apply_ite map.canonical,
      ← apply_ite map.canonical, tracks.canonical_iff, connected_concat_iff other unknown]
  · intro member absent
    rw [mem_registered_concat other unknown, mem_registeredWith, not_or, not_or] at absent
    obtain ⟨⟨unregistered, -⟩, apart⟩ := absent
    rw [canonical_addAlias, if_neg (Ne.symm apart), tracks.canonical_unknown member unregistered]
  · intro member listed
    rw [mem_keys_addAlias]
    rcases (mem_registered_concat other unknown).1 listed with known | rfl
    · rw [canonical_addAlias_of_mem other unknown known]
      rcases mem_registeredWith.1 known with old | rfl
      · exact .inr (tracks.grouped member old)
      · exact .inl rfl
    · rw [canonical_addAlias, if_pos rfl]
      exact .inl rfl
  · intro key listed
    have known : key ∈ registeredWith pairs source ∧ map.canonical key = key := by
      rcases (mem_keys_addAlias map name source key).1 listed with rfl | old
      · exact ⟨target, idempotent⟩
      · obtain ⟨member, fixed⟩ := tracks.fixed key old
        exact ⟨mem_registeredWith.2 (.inl member), fixed⟩
    rw [canonical_addAlias_of_mem other unknown known.1]
    exact ⟨(mem_registered_concat other unknown).2 (.inl known.1), known.2⟩
  · exact Keyed.nodup_keys_put tracks.distinct _ _
  · intro key group found
    exact tracks.holds_of_get? other unknown found

end

end Tracks

theorem tracks_nil : Tracks [] ({} : AliasMap σ) := by
  refine ⟨?_, fun _ _ => rfl, ?_, ?_, List.nodup_nil, ?_⟩
  · intro first second
    constructor
    · intro same
      obtain rfl : first = second := same
      exact .refl _
    · intro connected
      induction connected with
      | rel x y pair => cases pair
      | refl x => rfl
      | symm x y _ ih => exact ih.symm
      | trans x y z _ _ ih ih' => exact ih.trans ih'
  · intro name listed
    cases listed
  · intro key listed
    cases listed
  · intro key group found
    cases found

/-- Pairs with new aliases are tracked, however many. -/
theorem tracks_ofPairs {pairs : List (String × String)} (new : AreNew pairs) :
    Tracks pairs (ofPairs pairs : AliasMap σ) := by
  induction pairs using List.reverseRecOn with
  | nil => exact tracks_nil
  | append_singleton pairs pair ih =>
    obtain ⟨new, other, unknown⟩ := areNew_concat_iff.1 new
    have step : (ofPairs (pairs ++ [pair]) : AliasMap σ) =
        (ofPairs pairs).addAlias pair.1 pair.2 := by
      rw [ofPairs, List.foldl_append]
      rfl
    rw [step]
    exact (ih new).concat other unknown

/-! ### Main statement -/

open scoped Classical in
/-- Where every alias is a new name, the map of aliases holds the connected components of the
pairs. Names stand for the same source exactly when they are connected. Every component has one
group; it is stored under its source, which is the first source of the component, its aliases are
the names of the component in order of first registration, and all of them stand for its source. -/
theorem groups_are_components (pairs : List (String × String)) (new : AreNew pairs) :
    let map : AliasMap σ := ofPairs pairs
    (∀ first second, map.canonical first = map.canonical second ↔ Connected pairs first second) ∧
    (∀ entry ∈ map.groups, entry.1 ∈ registered pairs) ∧
    ∀ name ∈ registered pairs, ∃ group : AliasGroup σ,
      (map.groups.filter fun entry => Connected pairs name entry.1) = [(group.source, group)] ∧
      (pairs.find? fun pair => Connected pairs name pair.2).map Prod.snd = some group.source ∧
      group.aliases = ((registered pairs).filter fun other => Connected pairs name other) ∧
      ∀ other, Connected pairs name other → map.canonical other = group.source := by
  intro map
  have tracks : Tracks pairs map := tracks_ofPairs new
  refine ⟨tracks.canonical_iff, ?_, ?_⟩
  · intro entry member
    exact (tracks.fixed entry.1 (List.mem_map.2 ⟨entry, member, rfl⟩)).1
  · intro name known
    obtain ⟨group, found⟩ := Option.isSome_iff_exists.1
      ((Keyed.get?_isSome_iff _ _).2 (tracks.grouped name known))
    have holds := tracks.holds _ group found
    -- Membership in the component is read off the canonical names.
    have connected_iff : ∀ other,
        Connected pairs name other ↔ map.canonical other = map.canonical name := by
      intro other
      rw [← tracks.canonical_iff, eq_comm]
    refine ⟨group, ?_, ?_, ?_, ?_⟩
    · have own : ∀ entry ∈ map.groups,
          decide (Connected pairs name entry.1) = decide (entry.1 = map.canonical name) := by
        intro entry member
        have fixed := (tracks.fixed entry.1 (List.mem_map.2 ⟨entry, member, rfl⟩)).2
        rw [decide_eq_decide, connected_iff, fixed]
      rw [List.filter_congr own, holds.source_eq]
      exact Keyed.filter_eq_of_get? tracks.distinct found
    · simp only [connected_iff]
      rw [holds.source_eq]
      exact holds.first_eq
    · simp only [connected_iff]
      exact holds.aliases_eq
    · intro other connected
      rw [holds.source_eq]
      exact (connected_iff other).1 connected

open scoped Classical in
/-- A chain with a property path beside it, and a second chain in between. -/
theorem groups_are_components_chain :
    let pairs := [("b", "a"), ("y", "x"), ("c", "b"), ("o.p", "a"), ("z", "y")]
    let map : AliasMap Unit := ofPairs pairs
    AreNew pairs ∧ Connected pairs "c" "o.p" ∧ ¬Connected pairs "c" "z" ∧
      ∃ group, (map.groups.filter fun entry => Connected pairs "c" entry.1) = [("a", group)] ∧
        group.aliases = ((registered pairs).filter fun other => Connected pairs "c" other) := by
  intro pairs map
  have new : AreNew pairs := by decide
  obtain ⟨same, -, groups⟩ := groups_are_components (σ := Unit) pairs new
  obtain ⟨group, single, -, aliases, stands⟩ := groups "c" (by decide)
  have source : "a" = group.source := stands "c" (.refl _)
  refine ⟨new, (same "c" "o.p").1 (by decide), fun connected => ?_, group, ?_, aliases⟩
  · exact absurd ((same "c" "z").2 connected) (by decide)
  · rw [source]
    exact single

end SnippetTutor.AliasMap
