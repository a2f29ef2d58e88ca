import SnippetTutor.Detectors.Functions
import SnippetTutor.Proofs.SourceOrder

/-!
# Functions without effects

A function that assigns to a part of an object, or to a variable that is none of its parameters, has
an effect outside. The check of declared functions looks for assignments, and sees through the
parentheses around a variable. It does not see through those around a part of an object, and it does
not look at `++` and `--` at all.

* `Node.writtenTarget` is what a construct writes, and `WritesOutside` says that this is not a
  parameter; `IsMissed` is about the two forms that the check has no eye for;
* `hasEffect_iff`: what the check sees are the other writes outside, and uses of some objects;
* `exists_pureFunction_iff`: which functions are praised;
* `pureFunctions_right_iff`: the praise is right unless the function has a write of a missed form,
  whichever names of its parameters count.
-/

namespace SnippetTutor

namespace Node

variable {root : Tree} {node : Node root}

theorem identifierName_eq_some_iff {name : String} :
    node.identifierName = some name ↔ node.unwrap.kind = .identifier ∧ node.unwrap.text = name := by
  simp [identifierName]

/-- What a construct writes, without the parentheses around it. -/
def writtenTarget (node : Node root) : Option (Node root) :=
  match node.kind with
  | .assignmentExpression | .augmentedAssignmentExpression => node.fieldInside .left
  | .updateExpression => node.fieldInside .argument
  | _ => none

/-- A part of an object, by a name or by a key. -/
def IsPart (target : Node root) : Prop :=
  target.kind = .memberExpression ∨ target.kind = .subscriptExpression

/-- The names of the parameters that bind a single one. -/
def plainParameters (function : Node root) : List String :=
  function.parameters.filterMap Parameter.name

/-- They are among the names that the parameters bind. -/
theorem plainParameters_subset (function : Node root) :
    function.plainParameters ⊆ function.parameterNames := by
  intro name member
  obtain ⟨param, listed, named⟩ := List.mem_filterMap.1 member
  refine List.mem_flatMap.2 ⟨param, listed, ?_⟩
  obtain ⟨target, held, found⟩ := Option.bind_eq_some_iff.1 named
  obtain ⟨pattern, given, inside⟩ := Option.bind_eq_some_iff.1 held
  split at found
  · rename_i kind
    cases found
    rw [namesIn, given, Option.toList_some]
    split at inside
    · -- What takes the remaining arguments binds what its pattern binds.
      rename_i rest
      obtain ⟨others, children⟩ := List.head?_eq_some_iff.1 inside
      rw [boundNames, innerPatterns, eq_of_beq rest]
      simp only [children, List.cons_append]
      exact List.mem_append_right _ (text_mem_boundNames (eq_of_beq kind) _)
    · cases inside
      exact text_mem_boundNames (eq_of_beq kind) []
  · cases found

end Node

namespace Detectors.Functions

variable {root : Tree} {context : Context root} {params : List String}
  {node target function body : Node root}

/-! ### Effects -/

/-- A part of an object is written, or a variable that is none of the given ones. -/
def WritesOutside (params : List String) (node : Node root) : Prop :=
  ∃ target, node.writtenTarget = some target ∧
    (target.IsPart ∨ target.kind = .identifier ∧ target.text ∉ params)

/-- A form of writing that the check has no eye for. -/
inductive IsMissed (node : Node root) : Prop
  | counted (kind : node.kind = .updateExpression)
  | wrapped {left : Node root} (field : node.field .left = some left)
    (around : left.kind = .parenthesizedExpression) (part : left.unwrap.IsPart)

/-- One of the objects is used whose use shows outside. -/
def UsesOutside (node : Node root) : Prop :=
  node.kind = .memberExpression ∧
    ∃ name ∈ outsideObjects, (node.field .object).bind Node.identifierName = some name

theorem WritesOutside.mono {fewer : List String} (writes : WritesOutside params node)
    (subset : fewer ⊆ params) : WritesOutside fewer node := by
  obtain ⟨target, written, outside⟩ := writes
  exact ⟨target, written, outside.imp_right fun ⟨kind, other⟩ => ⟨kind, fun known =>
    other (subset known)⟩⟩

/-- The left side of an assignment is found to be outside unless it is a part of an object in
parentheses. -/
theorem seen_iff {left : Node root} :
    ((left.identifierName.any fun name => !params.contains name) ||
        left.kind == .memberExpression || left.kind == .subscriptExpression) = true ↔
      (left.unwrap.IsPart ∨ left.unwrap.kind = .identifier ∧ left.unwrap.text ∉ params) ∧
        ¬(left.kind = .parenthesizedExpression ∧ left.unwrap.IsPart) := by
  have named : (left.identifierName.any fun name => !params.contains name) = true ↔
      left.unwrap.kind = .identifier ∧ left.unwrap.text ∉ params := by
    rw [Option.any_eq_true]
    simp only [Node.identifierName_eq_some_iff, Bool.not_eq_true', List.contains_eq_mem,
      decide_eq_false_iff_not]
    constructor
    · rintro ⟨name, ⟨kind, rfl⟩, other⟩
      exact ⟨kind, other⟩
    · rintro ⟨kind, other⟩
      exact ⟨_, ⟨kind, rfl⟩, other⟩
  rw [Bool.or_assoc, Bool.or_eq_true, Bool.or_eq_true, beq_iff_eq, beq_iff_eq, named]
  have apart : left.unwrap.kind = .identifier → ¬left.unwrap.IsPart := by
    rintro kind (other | other) <;> rw [kind] at other <;> cases other
  by_cases around : left.kind = .parenthesizedExpression
  · simp only [around, reduceCtorEq, or_self, or_false, true_and]
    tauto
  · have bare := Node.unwrap_of_kind_ne around
    simp only [bare, around, false_and, not_false_eq_true, and_true]
    exact or_comm

/-- Effects of assignments are those that are not missed. -/
theorem hasEffect_assignment_iff
    (kind : node.kind = .assignmentExpression ∨ node.kind = .augmentedAssignmentExpression) :
    hasEffect params node = true ↔ WritesOutside params node ∧ ¬IsMissed node := by
  have written : node.writtenTarget = node.fieldInside .left := by
    rcases kind with kind | kind <;> rw [Node.writtenTarget, kind]
  have missed : IsMissed node ↔ ∃ left, node.field .left = some left ∧
      (left.kind = .parenthesizedExpression ∧ left.unwrap.IsPart) := by
    constructor
    · rintro (update | ⟨field, around, part⟩)
      · rcases kind with kind | kind <;> rw [kind] at update <;> cases update
      · exact ⟨_, field, around, part⟩
    · rintro ⟨left, field, around, part⟩
      exact .wrapped field around part
  rw [hasEffect, if_pos (by simpa using kind), missed, WritesOutside, written, Node.fieldInside]
  cases node.field .left with
  | none => simp
  | some left => simpa using seen_iff

theorem hasEffect_other_iff (assigned : node.kind ≠ .assignmentExpression)
    (combined : node.kind ≠ .augmentedAssignmentExpression) :
    hasEffect params node = true ↔ UsesOutside node := by
  rw [hasEffect, if_neg (by simp [assigned, combined]), UsesOutside, Bool.and_eq_true, beq_iff_eq,
    Option.any_eq_true]
  simp only [List.contains_iff_mem, and_comm]

/-- What the check sees are the writes outside that it does not miss, and uses of some objects. -/
theorem hasEffect_iff :
    hasEffect params node = true ↔
      WritesOutside params node ∧ ¬IsMissed node ∨ UsesOutside node := by
  by_cases kind : node.kind = .assignmentExpression ∨ node.kind = .augmentedAssignmentExpression
  · have unused : ¬UsesOutside node := by
      rintro ⟨member, -⟩
      rcases kind with kind | kind <;> rw [kind] at member <;> cases member
    rw [hasEffect_assignment_iff kind, or_iff_left unused]
  · rw [not_or] at kind
    rw [hasEffect_other_iff kind.1 kind.2, or_iff_right]
    rintro ⟨⟨target, written, -⟩, seen⟩
    -- What writes without being an assignment counts up or down.
    refine seen (.counted ?_)
    by_contra other
    simp only [Node.writtenTarget] at written
    split at written
    · exact kind.1 ‹_›
    · exact kind.2 ‹_›
    · exact other ‹_›
    · cases written

/-! ### Praise -/

/-- Praised are the functions with a name that return something, use none of the objects and write
outside in no other way than the missed ones. -/
theorem exists_pureFunction_iff :
    (∃ finding ∈ pureFunctions context, finding.site = some function) ↔
      function ∈ context.ofKind .functionDeclaration ∧ function.functionName ≠ none ∧
        ∃ body, function.functionBody = some body ∧
          (∃ node ∈ body.descendants, node.kind = .returnStatement) ∧
          ∀ node ∈ body.descendants, ¬UsesOutside node ∧
            (WritesOutside function.plainParameters node → IsMissed node) := by
  have free : ∀ node : Node root, ¬hasEffect function.plainParameters node = true ↔
      ¬UsesOutside node ∧ (WritesOutside function.plainParameters node → IsMissed node) := by
    intro node
    rw [hasEffect_iff]
    tauto
  simp only [pureFunctions, List.mem_filterMap]
  constructor
  · rintro ⟨finding, ⟨other, listed, made⟩, site⟩
    split at made
    · rename_i name body named held
      split at made
      · rename_i passed
        cases made
        cases site
        rw [Bool.and_eq_true, List.any_eq_true, Bool.not_eq_true', List.any_eq_false] at passed
        obtain ⟨⟨node, inside, kind⟩, effects⟩ := passed
        refine ⟨listed, by simp [named], body, held, ⟨node, inside, eq_of_beq kind⟩, ?_⟩
        exact fun node inside => (free node).1 (effects node inside)
      · cases made
    · cases made
  · rintro ⟨listed, named, body, held, ⟨node, inside, kind⟩, clean⟩
    obtain ⟨name, named⟩ := Option.ne_none_iff_exists'.1 named
    have returns : (body.descendants.any fun node => node.kind == .returnStatement) = true :=
      List.any_eq_true.2 ⟨node, inside, beq_iff_eq.2 kind⟩
    have effects : body.descendants.any (hasEffect function.plainParameters) = false :=
      List.any_eq_false.2 fun node inside => (free node).2 (clean node inside)
    rw [Node.plainParameters] at effects
    refine ⟨.of .idiom function ("Function '" ++ name ++ "' appears to be a pure function"),
      ⟨function, listed, ?_⟩, rfl⟩
    simp only [named, held, returns, effects, Bool.not_false, Bool.and_self, if_true]

/-- Praised are the declared functions with a name that return something, use none of the objects
whose use shows outside, and write nothing outside but in the forms that are missed. So a praised
function writes nothing outside exactly if it has no write of these forms, whichever names count as
parameters, as long as those do that are parameters by themselves. -/
theorem pureFunctions_right_iff (root : Tree) (context : Context root) (function : Node root) :
    ((∃ finding ∈ pureFunctions context, finding.site = some function) ↔
      function ∈ context.ofKind .functionDeclaration ∧ function.functionName ≠ none ∧
        ∃ body, function.functionBody = some body ∧
          (∃ node ∈ body.descendants, node.kind = .returnStatement) ∧
          ∀ node ∈ body.descendants, ¬UsesOutside node ∧
            (WritesOutside function.plainParameters node → IsMissed node)) ∧
    ((∃ finding ∈ pureFunctions context, finding.site = some function) →
      ∀ params, function.plainParameters ⊆ params → ∀ body, function.functionBody = some body →
        ((∀ node ∈ body.descendants, ¬WritesOutside params node) ↔
          ∀ node ∈ body.descendants, IsMissed node → ¬WritesOutside params node)) := by
  refine ⟨exists_pureFunction_iff, fun praised params subset body held => ?_⟩
  obtain ⟨-, -, body', held', -, clean⟩ := exists_pureFunction_iff.1 praised
  obtain rfl := Option.some.inj (held'.symm.trans held)
  refine ⟨fun none node inside _ => none node inside, fun unseen node inside writes => ?_⟩
  exact unseen node inside ((clean node inside).2 (writes.mono subset)) writes

/-- In `function clamp(n) { (n) = 1; return n; }` the parameter is written, and nothing else. -/
theorem pureFunctions_right_clamp :
    let root : Tree := .node { name := "program" }
      [.node { name := "function_declaration" }
        [.node { name := "identifier", role := some .name, text := "clamp" } [],
         .node { name := "formal_parameters", role := some .parameters }
          [.node { name := "identifier", text := "n" } []],
         .node { name := "statement_block", role := some .body }
          [.node { name := "expression_statement" }
            [.node { name := "assignment_expression" }
              [.node { name := "parenthesized_expression", role := some .left }
                [.node { name := "identifier", text := "n" } []],
               .node { name := "number", role := some .right, text := "1" } []]],
           .node { name := "return_statement" }
            [.node { name := "identifier", text := "n" } []]]]]
    let context : Context root :=
      { index := Index.build root (.atMost 100), scanDepth := .int 20, treeDepth := .int 100 }
    ∃ function body, (∃ finding ∈ pureFunctions context, finding.site = some function) ∧
      function.plainParameters ⊆ function.parameterNames ∧ function.functionBody = some body ∧
        ∀ node ∈ body.descendants, ¬WritesOutside function.parameterNames node := by
  intro root context
  have computed : ∃ function ∈ context.index.nodes,
      (∃ finding ∈ pureFunctions context, finding.site = some function) ∧
        ∃ body ∈ context.index.nodes, function.functionBody = some body ∧
          ∀ node ∈ body.descendants, node.kind ≠ .updateExpression ∧
            ∀ left ∈ node.field .left, left.unwrap.kind ≠ .memberExpression ∧
              left.unwrap.kind ≠ .subscriptExpression := by
    decide +kernel
  obtain ⟨function, -, praised, body, -, held, plain⟩ := computed
  have subset := function.plainParameters_subset
  have right := (pureFunctions_right_iff root context function).2 praised _ subset body held
  refine ⟨function, body, praised, subset, held, right.2 fun node inside missed => ?_⟩
  obtain ⟨uncounted, whole⟩ := plain node inside
  rcases missed with counted | ⟨field, -, part⟩
  · exact absurd counted uncounted
  · obtain ⟨member, subscript⟩ := whole _ field
    exact absurd part (not_or.2 ⟨member, subscript⟩)

/-- In `function next(o) { (o.last) = n++; return n; }` a variable of the program and a part of the
argument are written, and the function is praised. -/
theorem pureFunctions_praise_counter :
    let root : Tree := .node { name := "program" }
      [.node { name := "function_declaration" }
        [.node { name := "identifier", role := some .name, text := "next" } [],
         .node { name := "formal_parameters", role := some .parameters }
          [.node { name := "identifier", text := "o" } []],
         .node { name := "statement_block", role := some .body }
          [.node { name := "expression_statement" }
            [.node { name := "assignment_expression" }
              [.node { name := "parenthesized_expression", role := some .left }
                [.node { name := "member_expression" }
                  [.node { name := "identifier", role := some .object, text := "o" } [],
                   .node { name := "property_identifier", role := some .property,
                           text := "last" } []]],
               .node { name := "update_expression", role := some .right }
                [.node { name := "identifier", role := some .argument, text := "n" } [],
                 .node { name := "++", role := some .operator, named := false } []]]],
           .node { name := "return_statement" }
            [.node { name := "identifier", text := "n" } []]]]]
    let context : Context root :=
      { index := Index.build root (.atMost 100), scanDepth := .int 20, treeDepth := .int 100 }
    ∃ function body, (∃ finding ∈ pureFunctions context, finding.site = some function) ∧
      function.functionBody = some body ∧
        (∃ node ∈ body.descendants, node.kind = .assignmentExpression ∧
          WritesOutside function.parameterNames node) ∧
        ∃ node ∈ body.descendants, node.kind = .updateExpression ∧
          WritesOutside function.parameterNames node := by
  intro root context
  have computed : ∃ function ∈ context.index.nodes,
      (∃ finding ∈ pureFunctions context, finding.site = some function) ∧
        ∃ body ∈ context.index.nodes, function.functionBody = some body ∧
          (∃ node ∈ body.descendants, node.kind = .assignmentExpression ∧
            ∃ target ∈ context.index.nodes, node.writtenTarget = some target ∧
              target.kind = .memberExpression) ∧
          ∃ node ∈ body.descendants, node.kind = .updateExpression ∧
            ∃ target ∈ context.index.nodes, node.writtenTarget = some target ∧
              target.kind = .identifier ∧ target.text ∉ function.parameterNames := by
    decide +kernel
  obtain ⟨function, -, praised, body, -, held, ⟨node, inside, kind, target, -, written, part⟩,
    node', inside', kind', target', -, written', other⟩ := computed
  exact ⟨function, body, praised, held,
    ⟨node, inside, kind, target, written, .inl (.inl part)⟩,
    node', inside', kind', target', written', .inr other⟩

end Detectors.Functions

end SnippetTutor
