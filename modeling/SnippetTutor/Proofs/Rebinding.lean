import SnippetTutor.Proofs.Components
import SnippetTutor.Proofs.Histories

/-!
# Names that are bound again

What a source stands for is looked up once, when an alias of it is recorded. Nothing that was
recorded before is looked at again, so a name that is bound a second time can leave traces of what
it stood for.

* `AliasMap.IsSettled`: what a name stands for stands for itself. A map stops being settled when a
  name that others stand for is bound to something else, and only then
  (`AliasMap.isSettled_apply_iff`);
* `AliasMap.IsCurrent`: a group only lists names that stand for its source, which comes to the same
  as that no name is in two groups (`AliasMap.WellFormed.isCurrent_iff`). Groups never lose a name,
  so a map stops being current, for good, when a name that is known is given another meaning, and
  only then (`AliasMap.WellFormed.isCurrent_apply_iff`);
* `AliasMap.canonical_idempotent_iff` and `AliasMap.listed_names_resolve_iff` say the same of whole
  sequences of operations.
-/

namespace SnippetTutor.AliasMap

variable {σ : Type}

/-- What a name stands for stands for itself. -/
def IsSettled (map : AliasMap σ) : Prop :=
  ∀ name, map.canonical (map.canonical name) = map.canonical name

/-- A group only lists names that stand for its source. -/
def IsCurrent (map : AliasMap σ) : Prop :=
  ∀ key group, map.groups.get? key = some group →
    ∀ name ∈ group.aliases, map.canonical name = group.source

/-- An operation does not bind a name that other names stand for to something else. -/
def LeavesSources (map : AliasMap σ) : Operation σ → Prop
  | .addAlias name source =>
    (∃ other, other ≠ name ∧ map.canonical other = name) → map.canonical source = name
  | .ensureSource _ => True
  | .recordMutation _ _ => True

/-- An operation does not give another meaning to a name that is known. -/
def LeavesNames (map : AliasMap σ) : Operation σ → Prop
  | .addAlias name source =>
    map.knows name = true → map.canonical name = map.canonical source
  | .ensureSource source => map.canonical source = source
  | .recordMutation _ _ => True

/-! ### Sequences of operations -/

/-- Every operation of a sequence fulfils a condition on the map that it meets. -/
def EachStep (condition : AliasMap σ → Operation σ → Prop) (operations : List (Operation σ)) :
    Prop :=
  ∀ before operation, before ++ [operation] <+: operations → condition (run before) operation

section

variable {condition : AliasMap σ → Operation σ → Prop}

theorem eachStep_nil : EachStep condition [] := by
  intro before operation start
  simp at start

theorem eachStep_concat {operations : List (Operation σ)} {operation : Operation σ} :
    EachStep condition (operations ++ [operation]) ↔
      EachStep condition operations ∧ condition (run operations) operation := by
  constructor
  · intro steps
    refine ⟨fun before earlier start => ?_, steps operations operation List.prefix_rfl⟩
    exact steps before earlier (start.trans (List.prefix_append _ _))
  · rintro ⟨steps, last⟩ before earlier start
    rcases List.prefix_concat_iff.1 start with whole | inner
    · obtain ⟨rfl, same⟩ := List.append_inj' whole rfl
      cases same
      exact last
    · exact steps before earlier inner

end

/-! ### Standing for oneself -/

theorem canonical_recordMutation (map : AliasMap σ) (path : String) (site : σ) (name : String) :
    (map.recordMutation path site).canonical name = map.canonical name := by
  unfold canonical
  rw [aliasOf_recordMutation]

/-- A settled map stays settled unless a name that other names stand for is bound to something
else. -/
theorem isSettled_apply_iff {map : AliasMap σ} (settled : map.IsSettled)
    (operation : Operation σ) :
    (map.apply operation).IsSettled ↔ map.LeavesSources operation := by
  cases operation with
  | ensureSource source => exact ⟨fun _ => trivial, fun _ => settled⟩
  | recordMutation path site =>
    refine ⟨fun _ => trivial, fun _ name => ?_⟩
    simp only [apply, canonical_recordMutation]
    exact settled name
  | addAlias name source =>
    simp only [IsSettled, LeavesSources, apply, canonical_addAlias]
    constructor
    · rintro stays ⟨other, apart, stands⟩
      have fixed := stays other
      rw [if_neg apart.symm, if_pos stands.symm, stands] at fixed
      exact fixed
    · intro leaves other
      by_cases same : name = other
      · rw [if_pos same]
        split
        · rfl
        · exact settled source
      · rw [if_neg same]
        split
        · rename_i target
          rw [leaves ⟨other, Ne.symm same, target.symm⟩]
          exact target
        · exact settled other

/-! ### Standing for the source of one's group -/

theorem knows_iff {map : AliasMap σ} {name : String} :
    map.knows name = true ↔ name ∈ map.aliasOf.keys ∨ name ∈ map.groups.keys := by
  rw [knows, Bool.or_eq_true, Keyed.hasKey_iff, Keyed.hasKey_iff]

/-- A name that is no alias stands for itself. -/
theorem canonical_of_not_mem {map : AliasMap σ} {name : String}
    (unbound : name ∉ map.aliasOf.keys) : map.canonical name = name := by
  rw [← Keyed.get?_isSome_iff, Option.not_isSome_iff_eq_none] at unbound
  rw [canonical, unbound]
  rfl

namespace WellFormed

variable {map : AliasMap σ} (wellFormed : map.WellFormed)

include wellFormed

/-- A name that is known is listed where it belongs. -/
theorem lists_canonical {name : String} (known : map.knows name = true) :
    map.Lists (map.canonical name) name := by
  by_cases bound : name ∈ map.aliasOf.keys
  · obtain ⟨source, found⟩ := Option.isSome_iff_exists.1 ((Keyed.get?_isSome_iff _ _).2 bound)
    have stands : map.canonical name = source := by
      rw [canonical, found]
      rfl
    rw [stands]
    exact wellFormed.resolved name source found
  · rw [canonical_of_not_mem bound]
    have grouped : name ∈ map.groups.keys := (knows_iff.1 known).resolve_left bound
    obtain ⟨group, held⟩ := Option.isSome_iff_exists.1 ((Keyed.get?_isSome_iff _ _).2 grouped)
    exact ⟨group, held, (wellFormed.stored name group held).mem_aliases⟩

theorem knows_of_lists {key name : String} (lists : map.Lists key name) :
    map.knows name = true := by
  rw [knows_iff]
  rcases wellFormed.listed key name lists with rfl | recorded
  · obtain ⟨group, held, -⟩ := lists
    exact .inr ((Keyed.get?_isSome_iff _ _).1 (held ▸ rfl))
  · exact .inl recorded

theorem isCurrent_iff_lists :
    map.IsCurrent ↔ ∀ key name, map.Lists key name → map.canonical name = key := by
  constructor
  · rintro current key name ⟨group, held, listed⟩
    rw [current key group held name listed, (wellFormed.stored key group held).source_eq]
  · intro current key group held name listed
    rw [(wellFormed.stored key group held).source_eq]
    exact current key name ⟨group, held, listed⟩

/-- Groups list names that stand for their sources exactly when no name is in two groups. -/
theorem isCurrent_iff :
    map.IsCurrent ↔
      ∀ name first second, map.Lists first name → map.Lists second name → first = second := by
  rw [wellFormed.isCurrent_iff_lists]
  constructor
  · intro current name first second lists lists'
    rw [← current first name lists, current second name lists']
  · intro single key name lists
    exact single name _ _ (wellFormed.lists_canonical (wellFormed.knows_of_lists lists)) lists

/-- What a name stands for stands for itself, if groups are current. -/
theorem isSettled_of_isCurrent (current : map.IsCurrent) : map.IsSettled := by
  intro name
  by_cases known : map.knows name = true
  · have lists := wellFormed.lists_self (wellFormed.lists_canonical known)
    exact wellFormed.isCurrent_iff_lists.1 current _ _ lists
  · have itself := canonical_of_not_mem fun bound => known (knows_iff.2 (.inl bound))
    rw [itself, itself]

/-- An alias keeps groups current if it is new, or known as an alias of the same value. -/
theorem isCurrent_addAlias_iff (name source : String) :
    (map.addAlias name source).IsCurrent ↔
      map.IsCurrent ∧ (map.knows name = true → map.canonical name = map.canonical source) := by
  have lists_iff := wellFormed.lists_addAlias name source
  rw [(wellFormed.addAlias name source).isCurrent_iff]
  constructor
  · intro single
    constructor
    · rw [wellFormed.isCurrent_iff]
      intro other first second lists lists'
      exact single other first second ((lists_iff _ _).2 (.inl lists))
        ((lists_iff _ _).2 (.inl lists'))
    · intro known
      -- The name is listed where it belonged before, and now with its source.
      exact single name _ _ ((lists_iff _ _).2 (.inl (wellFormed.lists_canonical known)))
        ((lists_iff _ _).2 (.inr ⟨rfl, .inr rfl⟩))
  · rintro ⟨current, leaves⟩ other first second lists lists'
    have stands := wellFormed.isCurrent_iff_lists.1 current
    -- A name that joins the group of the source is in no other group.
    have joined : ∀ key, map.Lists key other → other = map.canonical source ∨ other = name →
        key = map.canonical source := by
      rintro key old (rfl | rfl)
      · rw [← stands key _ old]
        exact wellFormed.isSettled_of_isCurrent current source
      · rw [← stands key _ old]
        exact leaves (wellFormed.knows_of_lists old)
    rcases (lists_iff first other).1 lists with old | ⟨rfl, new⟩
    · rcases (lists_iff second other).1 lists' with old' | ⟨rfl, new'⟩
      · exact wellFormed.isCurrent_iff.1 current other first second old old'
      · exact joined first old new'
    · rcases (lists_iff second other).1 lists' with old' | ⟨rfl, -⟩
      · exact (joined second old' new).symm
      · rfl

/-- A source keeps groups current if it is not known as an alias of something else. -/
theorem isCurrent_ensureSource_iff (source : String) :
    (map.ensureSource source).IsCurrent ↔ map.IsCurrent ∧ map.canonical source = source := by
  have lists_iff := wellFormed.lists_ensureSource source
  have same : ∀ name, (map.ensureSource source).canonical name = map.canonical name := fun _ => rfl
  rw [(wellFormed.ensureSource source).isCurrent_iff_lists, wellFormed.isCurrent_iff_lists]
  constructor
  · intro current
    refine ⟨fun key name lists => ?_, ?_⟩
    · exact current key name ((lists_iff key name).2 (.inl lists))
    · exact current source source ((lists_iff source source).2 (.inr ⟨rfl, rfl⟩))
  · rintro ⟨current, itself⟩ key name lists
    rw [same]
    rcases (lists_iff key name).1 lists with old | ⟨rfl, rfl⟩
    · exact current key name old
    · exact itself

theorem isCurrent_recordMutation_iff (path : String) (site : σ) :
    (map.recordMutation path site).IsCurrent ↔ map.IsCurrent := by
  rw [(wellFormed.recordMutation path site).isCurrent_iff_lists, wellFormed.isCurrent_iff_lists]
  simp only [wellFormed.lists_recordMutation, canonical_recordMutation]

/-- A map is current after an operation exactly when it was so before and the operation gives no
other meaning to a name that is known. -/
theorem isCurrent_apply_iff (operation : Operation σ) :
    (map.apply operation).IsCurrent ↔ map.IsCurrent ∧ map.LeavesNames operation := by
  cases operation with
  | addAlias name source => exact wellFormed.isCurrent_addAlias_iff name source
  | ensureSource source => exact wellFormed.isCurrent_ensureSource_iff source
  | recordMutation path site =>
    rw [apply, wellFormed.isCurrent_recordMutation_iff]
    exact (and_iff_left trivial).symm

/-- Two different names stand for a value that is shared, if groups are current. -/
theorem exists_two_names (current : map.IsCurrent) {key : String} {group : AliasGroup σ}
    (held : map.groups.get? key = some group) (shared : group.shared = true) :
    ∃ first second, first ≠ second ∧
      map.canonical first = group.source ∧ map.canonical second = group.source := by
  have distinct := (wellFormed.stored key group held).distinct
  have stands := current key group held
  have two : 1 < group.aliases.length := of_decide_eq_true shared
  rcases names : group.aliases with _ | ⟨first, _ | ⟨second, rest⟩⟩
  · simp [names] at two
  · simp [names] at two
  · rw [names] at distinct stands
    refine ⟨first, second, ?_, stands first (by simp), stands second (by simp)⟩
    rintro rfl
    simp at distinct

end WellFormed

/-- A sequence of operations leaves groups current exactly when each of them does. -/
theorem isCurrent_run_iff (operations : List (Operation σ)) :
    (run operations).IsCurrent ↔ EachStep LeavesNames operations := by
  induction operations using List.reverseRecOn with
  | nil =>
    refine ⟨fun _ => eachStep_nil, fun _ key group found => ?_⟩
    cases found
  | append_singleton operations operation ih =>
    have wellFormed := (reached_run operations).wellFormed
    rw [run_concat, wellFormed.isCurrent_apply_iff, ih, eachStep_concat]

/-! ### Main statements -/

/-- All along a sequence of operations what a name stands for stands for itself, exactly when no
operation binds a name that other names stand for to something else. -/
theorem canonical_idempotent_iff (operations : List (Operation σ)) :
    (∀ before, before <+: operations →
      ∀ name, (run before).canonical ((run before).canonical name) = (run before).canonical name) ↔
      EachStep LeavesSources operations := by
  induction operations using List.reverseRecOn with
  | nil =>
    refine ⟨fun _ => eachStep_nil, fun _ before start name => ?_⟩
    rw [List.prefix_nil.1 start]
    rfl
  | append_singleton operations operation ih =>
    rw [eachStep_concat, ← ih]
    constructor
    · intro settled
      refine ⟨fun before start => settled before (start.trans (List.prefix_append _ _)), ?_⟩
      have before := settled operations (List.prefix_append _ _)
      have after := settled _ List.prefix_rfl
      rw [run_concat] at after
      exact (isSettled_apply_iff before operation).1 after
    · rintro ⟨settled, leaves⟩ before start
      rcases List.prefix_concat_iff.1 start with rfl | inner
      · rw [run_concat]
        exact (isSettled_apply_iff (settled operations List.prefix_rfl) operation).2 leaves
      · exact settled before inner

/-- In `var a = {}, b = a, c = {}, a = c` the name `b` stands for `a`, and `a` for `c`. -/
theorem canonical_not_idempotent :
    let operations : List (Operation Unit) := [.addAlias "b" "a", .addAlias "a" "c"]
    let root : Tree := .node { name := "program" }
      [.node { name := "variable_declaration" }
        [.node { name := "variable_declarator" }
          [.node { name := "identifier", role := some .name, text := "a" } [],
           .node { name := "object", role := some .value, text := "\x7b\x7d" } []],
         .node { name := "variable_declarator" }
          [.node { name := "identifier", role := some .name, text := "b" } [],
           .node { name := "identifier", role := some .value, text := "a" } []],
         .node { name := "variable_declarator" }
          [.node { name := "identifier", role := some .name, text := "c" } [],
           .node { name := "object", role := some .value, text := "\x7b\x7d" } []],
         .node { name := "variable_declarator" }
          [.node { name := "identifier", role := some .name, text := "a" } [],
           .node { name := "identifier", role := some .value, text := "c" } []]]]
    let index := Index.build root .unlimited
    let map := build index (TypeMap.build index)
    ((run operations).canonical "b" = "a" ∧
        (run operations).canonical ((run operations).canonical "b") = "c") ∧
      map.canonical "b" = "a" ∧ map.canonical (map.canonical "b") = "c" := by
  decide +kernel

/-- A group lists only names that stand for its source, exactly when no operation gives another
meaning to a name that is known. It comes to the same that no name is in two groups; and then two
different names stand for every value that is shared. -/
theorem listed_names_resolve_iff (operations : List (Operation σ)) :
    ((run operations).IsCurrent ↔ EachStep LeavesNames operations) ∧
      ((run operations).IsCurrent ↔ ∀ name first second,
        (run operations).Lists first name → (run operations).Lists second name →
          first = second) ∧
      ((run operations).IsCurrent →
        ∀ key group, (run operations).groups.get? key = some group → group.shared = true →
          ∃ first second, first ≠ second ∧
            (run operations).canonical first = group.source ∧
            (run operations).canonical second = group.source) := by
  have wellFormed := (reached_run operations).wellFormed
  refine ⟨isCurrent_run_iff operations, wellFormed.isCurrent_iff, ?_⟩
  intro current key group held shared
  exact wellFormed.exists_two_names current held shared

/-- In `var a = {}, c = {}, b = a, b = c; a.x = 1` the value of `a` counts as shared when it is
changed. Its group lists `b`, although `b` stands for `c` and no other name than `a` for `a`. -/
theorem listed_name_resolves_elsewhere :
    let operations : List (Operation Unit) :=
      [.addAlias "b" "a", .addAlias "b" "c", .recordMutation "a.x" ()]
    let root : Tree := .node { name := "program" }
      [.node { name := "variable_declaration" }
        [.node { name := "variable_declarator" }
          [.node { name := "identifier", role := some .name, text := "a" } [],
           .node { name := "object", role := some .value, text := "\x7b\x7d" } []],
         .node { name := "variable_declarator" }
          [.node { name := "identifier", role := some .name, text := "c" } [],
           .node { name := "object", role := some .value, text := "\x7b\x7d" } []],
         .node { name := "variable_declarator" }
          [.node { name := "identifier", role := some .name, text := "b" } [],
           .node { name := "identifier", role := some .value, text := "a" } []],
         .node { name := "variable_declarator" }
          [.node { name := "identifier", role := some .name, text := "b" } [],
           .node { name := "identifier", role := some .value, text := "c" } []]],
       .node { name := "expression_statement" }
        [.node { name := "assignment_expression" }
          [.node { name := "member_expression", role := some .left }
            [.node { name := "identifier", role := some .object, text := "a" } [],
             .node { name := "property_identifier", role := some .property, text := "x" } []],
           .node { name := "number", role := some .right, text := "1" } []]]]
    let index := Index.build root .unlimited
    let map := build index (TypeMap.build index)
    ((run operations).mutated.map (fun group => (group.source, group.aliases)) =
          [("a", ["a", "b"])] ∧
        (run operations).canonical "b" = "c" ∧
        ∀ name, (run operations).canonical name = "a" → name = "a") ∧
      map.mutated.map (fun group => (group.source, group.aliases)) = [("a", ["a", "b"])] ∧
        map.canonical "b" = "c" ∧
        ∀ name, map.canonical name = "a" → name = "a" := by
  intro operations root index map
  have alone : ∀ {τ : Type} {map : AliasMap τ}, map.aliasOf = [("b", "c")] →
      ∀ name, map.canonical name = "a" → name = "a" := by
    intro τ map bound name stands
    rw [canonical, bound, Keyed.get?_cons] at stands
    by_cases second : "b" = name
    · simp [second] at stands
    · simpa [second] using stands
  refine ⟨⟨by decide +kernel, by decide +kernel, alone (by decide +kernel)⟩, ?_⟩
  exact ⟨by decide +kernel, by decide +kernel, alone (by decide +kernel)⟩

end SnippetTutor.AliasMap
