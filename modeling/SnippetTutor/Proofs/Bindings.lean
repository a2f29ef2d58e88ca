import Mathlib.Data.List.OfFn
import SnippetTutor.Proofs.Parameters
import SnippetTutor.Shape.Binding

/-!
# What patterns bind

A binding pattern is worked off by an agenda of patterns. What comes out is what recursion on the
tree of the pattern gives.

* `Tree.bindings` is the recursion, `Node.boundNames_eq_flatMap` the invariant of the agenda;
* `Node.Binds` relates a pattern to the places in it whose texts are bound, one constructor for each
  form of patterns, and `Node.IsLeftOf` says that the ways down to two places part;
* `Node.exists_binders`: an agenda whose patterns stand from left to right comes down to the places
  that its patterns bind, from left to right;
* `Node.patternNames_eq_bindings` puts this together.
-/

namespace SnippetTutor

/-! ### The recursion -/

namespace Tree

mutual

/-- The names that a binding pattern binds, from left to right. A key or a default value in it binds
nothing. -/
def bindings : Tree → List String
  | node label subtrees =>
    match label.kind with
    | .identifier | .shorthandPropertyIdentifierPattern => [label.text]
    | .pairPattern => bindingsAt .value subtrees
    | .assignmentPattern | .objectAssignmentPattern => bindingsAt .left subtrees
    | .objectPattern | .arrayPattern | .restPattern => bindingsAmong subtrees
    | _ => []

/-- The names bound by the first of some trees that plays the given part. -/
def bindingsAt (role : Role) : List Tree → List String
  | [] => []
  | tree :: rest => if tree.label.role == some role then bindings tree else bindingsAt role rest

/-- The names bound by all constructs among some trees. -/
def bindingsAmong : List Tree → List String
  | [] => []
  | tree :: rest =>
    if tree.isConstruct then bindings tree ++ bindingsAmong rest else bindingsAmong rest

end

theorem bindingsAt_eq (role : Role) (forest : List Tree) :
    bindingsAt role forest =
      (forest.find? fun tree => tree.label.role == some role).toList.flatMap bindings := by
  induction forest with
  | nil => rfl
  | cons tree rest ih =>
    rw [bindingsAt, List.find?_cons]
    cases tree.label.role == some role with
    | true => simp
    | false => exact ih

theorem bindingsAmong_eq (forest : List Tree) :
    bindingsAmong forest = (forest.filter isConstruct).flatMap bindings := by
  induction forest with
  | nil => rfl
  | cons tree rest ih =>
    rw [bindingsAmong, List.filter_cons]
    split
    · rw [List.flatMap_cons, ih]
    · exact ih

end Tree

namespace Node

variable {root : Tree} {pattern place below first second : Node root} {agenda : List (Node root)}

/-- A pattern binds what it binds by itself, and then what the patterns directly inside it bind. -/
theorem bindings_tree (pattern : Node root) :
    pattern.tree.bindings =
      pattern.ownName.toList ++ pattern.innerPatterns.flatMap fun inner => inner.tree.bindings := by
  have fields : ∀ role, Tree.bindingsAt role pattern.tree.subtrees =
      (pattern.field role).toList.flatMap fun inner => inner.tree.bindings := by
    intro role
    have found := map_tree_field pattern role
    rw [Tree.field] at found
    rw [Tree.bindingsAt_eq, ← found, Option.toList_map, List.flatMap_map]
  have children : Tree.bindingsAmong pattern.tree.subtrees =
      pattern.children.flatMap fun inner => inner.tree.bindings := by
    rw [Tree.bindingsAmong_eq, ← map_tree_children, List.flatMap_map]
  have unfolded : pattern.tree = .node pattern.label pattern.tree.subtrees := by
    cases held : pattern.tree
    rw [label, held]
    rfl
  rw [unfolded, Tree.bindings, ownName, innerPatterns, kind]
  cases pattern.label.kind with
  | identifier | shorthandPropertyIdentifierPattern => rfl
  | pairPattern => exact fields .value
  | assignmentPattern | objectAssignmentPattern => exact fields .left
  | objectPattern | arrayPattern | restPattern => exact children
  | _ => rfl

/-- An agenda comes down to what its patterns bind, one after the other. -/
theorem boundNames_eq_flatMap (agenda : List (Node root)) :
    boundNames agenda = agenda.flatMap fun pattern => pattern.tree.bindings := by
  fun_induction boundNames agenda with
  | case1 => rfl
  | case2 pattern agenda ih =>
    rw [ih, List.flatMap_append, List.flatMap_cons, bindings_tree pattern, List.append_assoc]

/-! ### Places -/

/-- A place in a pattern whose text is a name that the pattern binds. -/
inductive Binds : Node root → Node root → Prop where
  | name {pattern : Node root}
    (kind : pattern.kind = .identifier ∨ pattern.kind = .shorthandPropertyIdentifierPattern) :
    Binds pattern pattern
  | value {pattern value place : Node root} (kind : pattern.kind = .pairPattern)
    (held : pattern.field .value = some value) (inside : Binds value place) : Binds pattern place
  | target {pattern target place : Node root}
    (kind : pattern.kind = .assignmentPattern ∨ pattern.kind = .objectAssignmentPattern)
    (held : pattern.field .left = some target) (inside : Binds target place) : Binds pattern place
  | part {pattern part place : Node root}
    (kind : pattern.kind ∈ [.objectPattern, .arrayPattern, .restPattern])
    (held : part ∈ pattern.children) (inside : Binds part place) : Binds pattern place

/-- The ways down to two places part, and the first one goes on further left. -/
def IsLeftOf (first second : Node root) : Prop :=
  ∃ above i j, i < j ∧ i :: above <:+ first.path ∧ j :: above <:+ second.path

theorem ownName_eq_some_iff {name : String} :
    pattern.ownName = some name ↔
      (pattern.kind = .identifier ∨ pattern.kind = .shorthandPropertyIdentifierPattern) ∧
        pattern.text = name := by
  unfold ownName
  split <;> simp_all

theorem mem_innerPatterns_iff :
    below ∈ pattern.innerPatterns ↔
      (pattern.kind = .pairPattern ∧ pattern.field .value = some below) ∨
        ((pattern.kind = .assignmentPattern ∨ pattern.kind = .objectAssignmentPattern) ∧
          pattern.field .left = some below) ∨
        pattern.kind ∈ [.objectPattern, .arrayPattern, .restPattern] ∧
          below ∈ pattern.children := by
  unfold innerPatterns
  split <;> simp_all

theorem innerPatterns_of_ownName {name : String} (own : pattern.ownName = some name) :
    pattern.innerPatterns = [] := by
  obtain ⟨kind | kind, -⟩ := ownName_eq_some_iff.1 own
  · rw [innerPatterns, kind]
  · rw [innerPatterns, kind]

/-- A pattern binds its own place, or what a pattern directly inside it binds. -/
theorem binds_iff (pattern : Node root) :
    Binds pattern place ↔
      (∃ name, pattern.ownName = some name) ∧ place = pattern ∨
        ∃ inner ∈ pattern.innerPatterns, Binds inner place := by
  constructor
  · intro binds
    cases binds with
    | name kind => exact .inl ⟨⟨_, ownName_eq_some_iff.2 ⟨kind, rfl⟩⟩, rfl⟩
    | value kind held inside => exact .inr ⟨_, mem_innerPatterns_iff.2 (.inl ⟨kind, held⟩), inside⟩
    | target kind held inside =>
      exact .inr ⟨_, mem_innerPatterns_iff.2 (.inr (.inl ⟨kind, held⟩)), inside⟩
    | part kind held inside =>
      exact .inr ⟨_, mem_innerPatterns_iff.2 (.inr (.inr ⟨kind, held⟩)), inside⟩
  · rintro (⟨⟨name, own⟩, rfl⟩ | ⟨inner, member, inside⟩)
    · exact .name (ownName_eq_some_iff.1 own).1
    · rcases mem_innerPatterns_iff.1 member with ⟨kind, held⟩ | ⟨kind, held⟩ | ⟨kind, held⟩
      · exact .value kind held inside
      · exact .target kind held inside
      · exact .part kind held inside

/-! ### From left to right -/

theorem IsLeftOf.ne (left : first.IsLeftOf second) : first ≠ second := by
  rintro rfl
  obtain ⟨above, i, j, before, down, down'⟩ := left
  have same := (List.suffix_of_suffix_length_le down down' (Nat.le_refl _)).eq_of_length rfl
  exact Nat.ne_of_lt before (List.cons.inj same).1

/-- What is at or below two places stands as these do. -/
theorem IsLeftOf.mono {first' second' : Node root} (left : first.IsLeftOf second)
    (down : first.path <:+ first'.path) (down' : second.path <:+ second'.path) :
    first'.IsLeftOf second' := by
  obtain ⟨above, i, j, before, part, part'⟩ := left
  exact ⟨above, i, j, before, part.trans down, part'.trans down'⟩

theorem suffix_of_mem_offspring (member : below ∈ pattern.offspring) :
    pattern.path <:+ below.path := by
  obtain ⟨i, rfl⟩ := List.mem_ofFn.1 member
  exact List.suffix_cons _ _

theorem pairwise_innerPatterns (pattern : Node root) :
    pattern.innerPatterns.Pairwise IsLeftOf := by
  have offspring : pattern.offspring.Pairwise IsLeftOf := by
    rw [Node.offspring, List.pairwise_ofFn]
    intro i j before
    exact ⟨pattern.path, i, j, before, List.suffix_rfl, List.suffix_rfl⟩
  exact offspring.sublist (innerPatterns_sublist pattern)

/-- What a pattern binds is at or below it. -/
theorem Binds.suffix (binds : Binds pattern place) : pattern.path <:+ place.path := by
  induction binds with
  | name _ => exact List.suffix_rfl
  | value _ held _ ih | target _ held _ ih =>
    exact (suffix_of_mem_offspring (mem_offspring_of_field held)).trans ih
  | part _ held _ ih =>
    exact (suffix_of_mem_offspring (mem_offspring_of_mem_children held)).trans ih

/-- An agenda of patterns from left to right comes down to the places that they bind, from left to
right. -/
theorem exists_binders (ordered : agenda.Pairwise IsLeftOf) :
    ∃ places : List (Node root), boundNames agenda = places.map text ∧
      places.Pairwise IsLeftOf ∧
        ∀ place, place ∈ places ↔ ∃ pattern ∈ agenda, Binds pattern place := by
  fun_induction boundNames agenda with
  | case1 => exact ⟨[], rfl, .nil, by simp⟩
  | case2 pattern agenda ih =>
    obtain ⟨before, later⟩ := List.pairwise_cons.1 ordered
    have inside : ∀ inner ∈ pattern.innerPatterns, ∀ other ∈ agenda, inner.IsLeftOf other := by
      intro inner member other listed
      have down := suffix_of_mem_offspring ((innerPatterns_sublist pattern).subset member)
      exact (before other listed).mono down List.suffix_rfl
    obtain ⟨places, names, inOrder, listed⟩ :=
      ih (List.pairwise_append.2 ⟨pairwise_innerPatterns pattern, later, inside⟩)
    -- A pattern with a name has no patterns inside it, so its name comes before all of the agenda.
    cases own : pattern.ownName with
    | none =>
      refine ⟨places, names, inOrder, fun place => ?_⟩
      simp [listed, binds_iff pattern, own, or_and_right, exists_or]
    | some name =>
      obtain ⟨-, rfl⟩ := ownName_eq_some_iff.1 own
      rw [innerPatterns_of_ownName own, List.nil_append] at listed
      refine ⟨pattern :: places, congrArg (pattern.text :: ·) names, ?_, fun place => ?_⟩
      · refine List.pairwise_cons.2 ⟨fun place member => ?_, inOrder⟩
        obtain ⟨other, later, binds⟩ := (listed place).1 member
        exact (before other later).mono List.suffix_rfl binds.suffix
      · simp [listed, binds_iff pattern, own, innerPatterns_of_ownName own]

/-- The names that a pattern binds are those that recursion on its tree gives. They are the texts of
the places that the pattern binds, each of them once and from left to right. -/
theorem patternNames_eq_bindings (pattern : Node root) :
    pattern.patternNames = pattern.tree.bindings ∧
      ∃ places : List (Node root), pattern.patternNames = places.map text ∧ places.Nodup ∧
        places.Pairwise IsLeftOf ∧ ∀ place, place ∈ places ↔ Binds pattern place := by
  obtain ⟨places, names, ordered, listed⟩ :=
    exists_binders (List.pairwise_singleton IsLeftOf pattern)
  refine ⟨?_, places, names, ordered.imp IsLeftOf.ne, ordered, fun place => ?_⟩
  · rw [patternNames, boundNames_eq_flatMap, List.flatMap_singleton]
  · rw [listed]
    simp

/-- The pattern `{ a: [b = c, ...d], e }` binds neither the key `a` nor the default value `c`. -/
example :
    let name (text : String) (role : Option Role) : Tree :=
      .node { name := "identifier", role := role, text := text } []
    (top (.node { name := "object_pattern" }
      [.node { name := "pair_pattern" }
        [.node { name := "property_identifier", role := some .key, text := "a" } [],
          .node { name := "array_pattern", role := some .value }
            [.node { name := "assignment_pattern" } [name "b" (some .left), name "c" (some .right)],
              .node { name := "rest_pattern" } [name "d" none]]],
        .node { name := "shorthand_property_identifier_pattern", text := "e" } []])).patternNames =
      ["b", "d", "e"] := by decide +kernel

end Node

end SnippetTutor
