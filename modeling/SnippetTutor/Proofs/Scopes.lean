import Mathlib.Data.List.Pairwise
import Mathlib.Data.List.Perm.Subperm
import SnippetTutor.Detector.Subject
import SnippetTutor.Detectors.Variables
import SnippetTutor.Proofs.Regions

/-!
# Scopes

The scopes of a program are the program itself and the bodies of its functions, each walked without
the inside of the functions below. So they should have nothing in common. But a walk always goes on
from its start: where the body of a function is a function again, as in `a => b => { ... }`, the
scope of the outer one goes on into the inner one, and the body of the inner one is in two scopes.

* `IsDoubled`: a scope is a function itself, so that its body is a scope as well;
* `nodup_flatMap_scopes_iff`: nothing is met twice exactly if no scope of this sort meets something
  again in its body;
* `mem_both_scopes_iff` says what such a scope meets again: the body and all that is in its scope,
  or the body alone if it is a function as well;
* `references_once_iff` puts this together for references, and for those that are reported.
-/

namespace SnippetTutor.Detectors.Variables

variable {root : Tree} {context : Context root} {function scope body inner outer node : Node root}

/-- An identifier or a property that is written short. -/
def isReference (node : Node root) : Bool :=
  node.kind == .identifier || node.kind == .shorthandPropertyIdentifier

/-- The references that are met in the scopes of a program, one scope after the other. -/
def metReferences (context : Context root) : List (Node root) :=
  (scopes context).flatMap fun scope => (scopeNodes scope).filter isReference

/-- A scope that is a function, and the body of this function. -/
structure IsDoubled (context : Context root) (scope body : Node root) : Prop where
  listed : scope ∈ scopes context
  function : scope ∈ context.ofKinds Node.functionKinds
  body : scope.functionBody = some body

/-! ### Bodies of functions -/

/-- Right above the body of a function is the function. -/
theorem ancestors_functionBody (found : function.functionBody = some body) :
    body.ancestors = function.lineage :=
  Node.ancestors_of_mem_offspring (Node.mem_offspring_of_field found)

/-- A construct is the body of one function at most. -/
theorem eq_of_functionBody {other : Node root} (found : function.functionBody = some body)
    (found' : other.functionBody = some body) : function = other :=
  Node.eq_of_mem_offspring (Node.mem_offspring_of_field found) (Node.mem_offspring_of_field found')

theorem isFunction_of_mem (listed : function ∈ context.ofKinds Node.functionKinds) :
    function.isFunction = true := by
  obtain ⟨-, kind⟩ := Index.mem_ofKinds_iff.1 listed
  exact List.contains_iff_mem.2 kind

theorem mem_scopes_iff :
    scope ∈ scopes context ↔
      scope = Node.top root ∨
        ∃ function ∈ context.ofKinds Node.functionKinds, function.functionBody = some scope := by
  rw [scopes, List.mem_cons, List.mem_filterMap, Context.top]

/-- No scope is listed twice. -/
theorem nodup_scopes (distinct : context.index.nodes.Nodup) : (scopes context).Nodup := by
  refine List.nodup_cons.2 ⟨fun member => ?_, ?_⟩
  · obtain ⟨function, -, found⟩ := List.mem_filterMap.1 member
    have above := ancestors_functionBody found
    rw [Context.top, Node.ancestors_top] at above
    cases above
  · refine List.Nodup.filterMap (fun function other body found found' => ?_)
      (Index.nodup_ofKinds distinct (by decide))
    exact eq_of_functionBody found found'

/-! ### Scopes in scopes -/

namespace IsDoubled

variable (doubled : IsDoubled context scope body)

include doubled

theorem body_listed : body ∈ scopes context :=
  mem_scopes_iff.2 (.inr ⟨scope, doubled.function, doubled.body⟩)

theorem above : scope ∈ body.ancestors := by
  rw [ancestors_functionBody doubled.body]
  exact List.mem_cons_self

theorem ne : scope ≠ body := by
  rintro rfl
  exact Node.not_mem_ancestors_self _ doubled.above

end IsDoubled

/-- In a scope is what is below its start and inside no function there. -/
theorem mem_scopeNodes_iff :
    node ∈ scopeNodes scope ↔
      node ∈ scope.descendants ∧
        ∀ inner ∈ node.ancestors, scope ∈ inner.ancestors → inner.isFunction = false :=
  Node.mem_walk_iff

theorem mem_lineage_of_mem_scopeNodes (met : node ∈ scopeNodes scope) : scope ∈ node.lineage :=
  (Node.mem_descendants_iff.1 (mem_scopeNodes_iff.1 met).1).1

/-- Of two scopes that meet the same construct, one is a function and the other its body. -/
theorem isDoubled_of_met (listed : outer ∈ scopes context) (listed' : inner ∈ scopes context)
    (above : outer ∈ inner.ancestors) (met : node ∈ scopeNodes outer)
    (met' : node ∈ scopeNodes inner) : IsDoubled context outer inner := by
  rcases mem_scopes_iff.1 listed' with rfl | ⟨function, known, found⟩
  · rw [Node.ancestors_top] at above
    cases above
  rw [ancestors_functionBody found] at above
  rcases Node.mem_lineage_iff.1 above with rfl | higher
  · exact ⟨listed, known, found⟩
  · -- Otherwise the function is below the outer scope, which then passes over the inner one.
    have between : function ∈ node.ancestors := by
      refine Node.mem_ancestors_of_mem_lineage ?_ (mem_lineage_of_mem_scopeNodes met')
      rw [ancestors_functionBody found]
      exact List.mem_cons_self
    have passed := (mem_scopeNodes_iff.1 met).2 function between higher
    rw [isFunction_of_mem known] at passed
    cases passed

/-- Nothing is met twice in the scopes of a program exactly if no scope that is a function meets
something again in its body. -/
theorem nodup_flatMap_scopes_iff (distinct : context.index.nodes.Nodup)
    {part : Node root → List (Node root)}
    (parts : ∀ scope, (part scope).Sublist (scopeNodes scope)) :
    ((scopes context).flatMap part).Nodup ↔
      ∀ scope body, IsDoubled context scope body → (part scope).Disjoint (part body) := by
  have once : ∀ scope ∈ scopes context, (part scope).Nodup := fun scope _ =>
    (Node.nodup_walk scope).sublist (parts scope)
  rw [List.nodup_flatMap, and_iff_right once]
  constructor
  · intro apart scope body doubled
    have : Std.Symm (Function.onFun List.Disjoint part) := ⟨fun _ _ => List.disjoint_symm⟩
    exact apart.forall doubled.listed doubled.body_listed doubled.ne
  · intro apart
    refine (nodup_scopes distinct).pairwise_of_forall_ne ?_
    intro first listed second listed' differ node member member'
    have met := (parts first).subset member
    have met' := (parts second).subset member'
    rcases Node.eq_or_above_of_mem_lineage (mem_lineage_of_mem_scopeNodes met)
        (mem_lineage_of_mem_scopeNodes met') with same | above | above
    · exact differ same
    · exact apart first second (isDoubled_of_met listed listed' above met met') member member'
    · exact apart second first (isDoubled_of_met listed' listed above met' met) member' member

/-- What a scope that is a function meets again in its body: all that the body meets, unless the
body is a function as well, and then the body alone. -/
theorem mem_both_scopes_iff (found : scope.functionBody = some body) :
    node ∈ scopeNodes scope ∧ node ∈ scopeNodes body ↔
      node ∈ scopeNodes body ∧ body.isConstruct = true ∧
        (node = body ∨ body.isFunction = false) := by
  have next := ancestors_functionBody found
  have above : scope ∈ body.ancestors := next ▸ List.mem_cons_self
  rw [and_comm]
  refine and_congr_right fun met => ?_
  have through := mem_lineage_of_mem_scopeNodes met
  constructor
  · intro met'
    obtain ⟨within, passed⟩ := mem_scopeNodes_iff.1 met'
    refine ⟨(Node.mem_descendants_iff.1 within).2 body through above, ?_⟩
    rcases Node.mem_lineage_iff.1 through with same | higher
    · exact .inl same.symm
    · exact .inr (passed body higher above)
  · rintro ⟨construct, free⟩
    obtain ⟨within, passed⟩ := mem_scopeNodes_iff.1 met
    refine mem_scopeNodes_iff.2 ⟨Node.mem_descendants_iff.2 ⟨?_, ?_⟩, ?_⟩
    · exact List.mem_cons_of_mem _ (Node.mem_ancestors_of_mem_lineage above through)
    · intro inner member below
      rcases Node.eq_or_below_of_mem_lineage next through member below with rfl | lower
      · exact construct
      · exact (Node.mem_descendants_iff.1 within).2 inner member lower
    · intro inner member below
      rcases Node.eq_or_below_of_mem_lineage next through (List.mem_cons_of_mem _ member) below with
        rfl | lower
      · rcases free with rfl | free
        · exact absurd member (Node.not_mem_ancestors_self _)
        · exact free
      · exact passed inner member lower

/-! ### References -/

theorem isFunction_eq_false_of_isReference (reference : isReference node = true) :
    node.isFunction = false := by
  rw [isReference, Bool.or_eq_true, beq_iff_eq, beq_iff_eq] at reference
  rcases reference with kind | kind <;> rw [Node.isFunction, Node.isOneOf, kind] <;> rfl

/-- A scope that is a function meets references again in its body exactly if the body is no function
and has a reference in its scope. -/
theorem disjoint_references_iff (found : scope.functionBody = some body) :
    ((scopeNodes scope).filter isReference).Disjoint ((scopeNodes body).filter isReference) ↔
      (body.isConstruct = true → body.isFunction = false →
        ∀ node ∈ scopeNodes body, isReference node = false) := by
  constructor
  · intro apart construct free node met
    by_contra reference
    rw [Bool.not_eq_false] at reference
    have met' := ((mem_both_scopes_iff found).2 ⟨met, construct, .inr free⟩).1
    exact apart (List.mem_filter.2 ⟨met', reference⟩) (List.mem_filter.2 ⟨met, reference⟩)
  · intro none node member member'
    obtain ⟨met, reference⟩ := List.mem_filter.1 member
    have met' := (List.mem_filter.1 member').1
    obtain ⟨-, construct, free⟩ := (mem_both_scopes_iff found).1 ⟨met, met'⟩
    have free : body.isFunction = false := by
      rcases free with rfl | free
      · exact isFunction_eq_false_of_isReference reference
      · exact free
    rw [none construct free node met'] at reference
    cases reference

theorem earlyReferences_sublist (scope : Node root) :
    (earlyReferences scope).Sublist ((scopeNodes scope).filter isReference) := by
  refine List.monotone_filter_right _ fun node early => ?_
  rw [Bool.and_assoc, Bool.and_eq_true] at early
  exact early.1

/-- The places that are reported, in the order of the scopes. -/
theorem perm_sites_temporalDeadZone (context : Context root) :
    ((temporalDeadZone context).map Finding.site).Perm
      (((scopes context).flatMap earlyReferences).map some) := by
  rw [temporalDeadZone, List.map_map]
  exact (List.mergeSort_perm _ _).map some

/-- No reference is reported twice exactly if no scope that is a function reports one that is
reported for its body, too. -/
theorem nodup_sites_iff (distinct : context.index.nodes.Nodup) :
    ((temporalDeadZone context).map Finding.site).Nodup ↔
      ∀ scope body, IsDoubled context scope body →
        (earlyReferences scope).Disjoint (earlyReferences body) := by
  rw [(perm_sites_temporalDeadZone context).nodup_iff,
    List.nodup_map_iff (Option.some_injective _),
    nodup_flatMap_scopes_iff distinct fun scope =>
      (earlyReferences_sublist scope).trans List.filter_sublist]

/-- What is reported are references that were met, no more often than they were met. -/
theorem subperm_metReferences (context : Context root) :
    ((temporalDeadZone context).map Finding.site).Subperm ((metReferences context).map some) := by
  refine (perm_sites_temporalDeadZone context).subperm.trans (List.Sublist.subperm ?_)
  exact (List.Sublist.flatMap_right _ fun scope _ => earlyReferences_sublist scope).map some

/-- In the scopes of a program no reference is met twice exactly if the scopes that are functions
have no references in their bodies, unless the body is a function as well. No reference is reported
twice exactly if no scope that is a function reports one that is reported for its body, too. What is
reported are references that were met, no more often than they were met. -/
theorem references_once_iff (root : Tree) (limits : SearchLimits) (levels : DepthLimit) :
    let context : Context root :=
      (Subject.ofParsed limits ⟨root, Index.build root levels⟩).context
    ((metReferences context).Nodup ↔
      ∀ scope body, IsDoubled context scope body →
        body.isConstruct = true → body.isFunction = false →
          ∀ node ∈ scopeNodes body, isReference node = false) ∧
    (((temporalDeadZone context).map Finding.site).Nodup ↔
      ∀ scope body, IsDoubled context scope body →
        (earlyReferences scope).Disjoint (earlyReferences body)) ∧
    ((temporalDeadZone context).map Finding.site).Subperm ((metReferences context).map some) := by
  intro context
  have distinct : context.index.nodes.Nodup := Index.nodup_nodes_build root levels
  refine ⟨?_, nodup_sites_iff distinct, subperm_metReferences context⟩
  rw [metReferences, nodup_flatMap_scopes_iff distinct fun scope => List.filter_sublist]
  exact forall₂_congr fun scope body => forall_congr' fun doubled =>
    disjoint_references_iff doubled.body

/-- In `const f = a => b => { use(x); let x = 1; }`, with a line for each statement, the block is in
two scopes, and the use of `x` is reported twice. -/
theorem references_twice :
    let root : Tree := .node { name := "program" }
      [.node { name := "lexical_declaration" }
        [.node { name := "variable_declarator" }
          [.node { name := "identifier", role := some .name, text := "f" } [],
           .node { name := "arrow_function", role := some .value }
            [.node { name := "identifier", role := some .parameter, text := "a" } [],
             .node { name := "arrow_function", role := some .body }
              [.node { name := "identifier", role := some .parameter, text := "b" } [],
               .node { name := "statement_block", role := some .body }
                [.node { name := "expression_statement", row := 1 }
                  [.node { name := "call_expression", row := 1 }
                    [.node { name := "identifier", role := some .function, text := "use" } [],
                     .node { name := "arguments", role := some .arguments, row := 1 }
                      [.node { name := "identifier", text := "x", row := 1 } []]]],
                 .node { name := "lexical_declaration", row := 2 }
                  [.node { name := "variable_declarator", row := 2 }
                    [.node { name := "identifier", role := some .name, text := "x", row := 2 } [],
                     .node { name := "number", role := some .value, text := "1" } []]]]]]]]]
    let context : Context root :=
      (Subject.ofParsed ⟨.int 20, .int 100⟩ ⟨root, Index.build root (.atMost 100)⟩).context
    ¬(metReferences context).Nodup ∧
      ¬((temporalDeadZone context).map Finding.site).Nodup := by
  intro root context
  have shared : ∃ function ∈ context.index.nodes, ∃ scope ∈ context.index.nodes,
      function.kind ∈ Node.functionKinds ∧ function.functionBody = some scope ∧
        scope.kind ∈ Node.functionKinds ∧ ∃ body ∈ context.index.nodes,
          scope.functionBody = some body ∧
            ∃ node ∈ earlyReferences scope, node ∈ earlyReferences body := by
    decide +kernel
  obtain ⟨function, listed, scope, listed', kind, found, kind', body, -, found', _, early, again⟩ :=
    shared
  have doubled : IsDoubled context scope body :=
    { listed := mem_scopes_iff.2
        (.inr ⟨function, Index.mem_ofKinds_iff.2 ⟨listed, kind⟩, found⟩)
      function := Index.mem_ofKinds_iff.2 ⟨listed', kind'⟩
      body := found' }
  have twice : ¬((temporalDeadZone context).map Finding.site).Nodup := fun once =>
    (nodup_sites_iff (Index.nodup_nodes_build root (.atMost 100))).1 once scope body doubled early
      again
  refine ⟨fun once => twice ?_, twice⟩
  obtain ⟨sites, same, part⟩ := subperm_metReferences context
  exact same.nodup_iff.1 ((once.map (Option.some_injective _)).sublist part)

end SnippetTutor.Detectors.Variables
