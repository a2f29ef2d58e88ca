import SnippetTutor.Detectors.Asynchrony
import SnippetTutor.Proofs.Regions

/-!
# Protected code

A `try` statement guards what stands in its body. If it has a handler, then failures of what it
guards are caught; a statement with nothing but a last part lets them through, and so does any
statement for what stands in its handler or its last part. The check of awaited expressions looks
for a guard and does not ask for the handler.

* `Node.Guards`: a statement guards a place, which can be told one step at a time
  (`Node.guards_child_iff`), in the way the search goes up (`Node.inTryBlock_child`);
* `Node.inTryBlock_iff`: the search finds a guard exactly if there is one;
* `Node.IsCaught` asks for the handler as well, and `Node.IsLetThrough` says that there are guards,
  but none with a handler;
* `Detectors.Asynchrony.await_approved_iff` puts this together.
-/

namespace SnippetTutor

namespace Node

variable {root : Tree} {node parent statement clause : Node root}

/-! ### Guards -/

/-- A `try` statement guards what is at or below the body of it. -/
structure Guards (statement node : Node root) : Prop where
  kind : statement.kind = .tryStatement
  inside : ∃ block, statement.tryParts.body = some block ∧ block ∈ node.lineage

/-- Some statement with a handler guards a place. -/
def IsCaught (node : Node root) : Prop :=
  ∃ statement, Guards statement node ∧ statement.tryParts.handler.isSome = true

/-- Some statement guards a place, but none that does has a handler. -/
structure IsLetThrough (node : Node root) : Prop where
  guarded : ∃ statement, Guards statement node
  uncaught : ∀ statement, Guards statement node → statement.tryParts.handler = none

theorem isLetThrough_iff :
    node.IsLetThrough ↔ (∃ statement, Guards statement node) ∧ ¬node.IsCaught := by
  constructor
  · rintro ⟨guarded, uncaught⟩
    refine ⟨guarded, ?_⟩
    rintro ⟨statement, guards, handled⟩
    rw [uncaught statement guards] at handled
    cases handled
  · rintro ⟨guarded, uncaught⟩
    refine ⟨guarded, fun statement guards => ?_⟩
    rw [← Option.not_isSome_iff_eq_none]
    exact fun handled => uncaught ⟨statement, guards, handled⟩

theorem IsCaught.guarded (caught : node.IsCaught) : ∃ statement, Guards statement node := by
  obtain ⟨statement, guards, -⟩ := caught
  exact ⟨statement, guards⟩

/-- What guards a place stands above it. -/
theorem Guards.mem_ancestors (guards : Guards statement node) : statement ∈ node.ancestors := by
  obtain ⟨-, block, body, within⟩ := guards
  refine mem_ancestors_of_mem_lineage ?_ within
  rw [ancestors_of_mem_offspring (mem_offspring_of_field body)]
  exact List.mem_cons_self

/-- A statement guards a place if the place is its body, or if it guards the place above. -/
theorem guards_child_iff {i : Fin parent.tree.subtrees.length} :
    Guards statement (parent.child i) ↔
      statement = parent ∧ parent.kind = .tryStatement ∧
          parent.tryParts.body = some (parent.child i) ∨
        Guards statement parent := by
  constructor
  · rintro ⟨kind, block, body, within⟩
    rw [lineage_child, List.mem_cons] at within
    rcases within with rfl | higher
    · obtain rfl : statement = parent :=
        eq_of_mem_offspring (mem_offspring_of_field body) (List.mem_ofFn.2 ⟨i, rfl⟩)
      exact .inl ⟨rfl, kind, body⟩
    · exact .inr ⟨kind, block, body, higher⟩
  · rintro (⟨rfl, kind, body⟩ | ⟨kind, block, body, higher⟩)
    · exact ⟨kind, _, body, List.mem_cons_self⟩
    · refine ⟨kind, block, body, ?_⟩
      rw [lineage_child]
      exact List.mem_cons_of_mem _ higher

theorem not_guards_top : ¬Guards statement (top root) := by
  rintro ⟨-, block, body, within⟩
  rw [lineage, ancestors_top, List.mem_singleton] at within
  have above := ancestors_of_mem_offspring (mem_offspring_of_field body)
  rw [within, ancestors_top] at above
  cases above

/-! ### The search for a guard -/

theorem inTryBlock_top : (top root).inTryBlock = false := by
  rw [inTryBlock, ancestors_top]
  rfl

/-- One step of the search looks at the place above and goes on from there. -/
theorem inTryBlock_child (parent : Node root) (i : Fin parent.tree.subtrees.length) :
    (parent.child i).inTryBlock =
      ((parent.kind == .tryStatement && parent.field .body == some (parent.child i)) ||
        parent.inTryBlock) := by
  rw [inTryBlock, ancestors_child, protectedBelow, inTryBlock]

/-- The search finds a guard exactly if there is one. -/
theorem inTryBlock_iff : node.inTryBlock = true ↔ ∃ statement, Guards statement node := by
  induction node using downInduction with
  | top =>
    rw [inTryBlock_top]
    exact iff_of_false Bool.false_ne_true fun ⟨_, guards⟩ => not_guards_top guards
  | child parent i ih =>
    -- One step down, the search and the guards both gain the statement whose body the place is.
    rw [inTryBlock_child, Bool.or_eq_true, Bool.and_eq_true, beq_iff_eq, beq_iff_eq, ih]
    simp only [guards_child_iff, exists_or, exists_eq_left]
    rfl

/-! ### Handlers and last parts -/

theorem role_of_field {below : Node root} {role : Role} (found : node.field role = some below) :
    below.label.role = some role :=
  eq_of_beq (List.find?_some (p := fun below : Node root => below.label.role == some role) found)

/-- A statement does not guard what stands in its handler or its last part. -/
theorem not_guards_of_clause
    (held : statement.tryParts.handler = some clause ∨ statement.tryParts.finalizer = some clause)
    (within : clause ∈ node.lineage) : ¬Guards statement node := by
  rintro ⟨-, block, body, inside⟩
  have below : clause ∈ statement.offspring :=
    held.elim mem_offspring_of_field mem_offspring_of_field
  obtain rfl : clause = block :=
    eq_of_mem_offspring_of_mem_lineage below (mem_offspring_of_field body) within inside
  have role := role_of_field body
  rcases held with handler | finalizer
  · rw [role_of_field handler] at role
    cases role
  · rw [role_of_field finalizer] at role
    cases role

end Node

namespace Detectors.Asynchrony

variable {root : Tree} {context : Context root} {node : Node root} {finding : Finding root}

/-! ### Awaited expressions -/

/-- A finding says that an awaited expression is in good hands. -/
def Approves (finding : Finding root) : Prop :=
  finding.verdict.positive = true ∧
    finding.details = some "await properly wrapped in try-catch"

theorem sites_asyncAwaitErrorHandling (context : Context root) :
    (asyncAwaitErrorHandling context).map Finding.site =
      (context.ofKind .awaitExpression).map some := by
  rw [asyncAwaitErrorHandling, List.map_map]
  refine List.map_congr_left fun node _ => ?_
  rw [Function.comp_apply]
  split <;> rfl

/-- An awaited expression is approved of if a guard is found for it. -/
theorem approves_iff (member : finding ∈ asyncAwaitErrorHandling context)
    (site : finding.site = some node) :
    Approves finding ↔ ∃ statement, Node.Guards statement node := by
  rw [← Node.inTryBlock_iff]
  obtain ⟨other, -, rfl⟩ := List.mem_map.1 member
  split at site
  · rename_i guarded
    cases site
    rw [if_pos guarded]
    exact iff_of_true ⟨rfl, rfl⟩ guarded
  · rename_i unguarded
    cases site
    rw [if_neg unguarded]
    exact iff_of_false (fun approves => Bool.false_ne_true approves.1) unguarded

/-- There is one finding for every awaited expression of the index, in the same order. It approves
of the expression exactly if some `try` statement guards it; so whether it approves says whether
failures are caught, unless there are only guards without a handler. No statement guards what stands
in its handler or its last part. -/
theorem await_approved_iff (root : Tree) (context : Context root) :
    (asyncAwaitErrorHandling context).map Finding.site =
      (context.ofKind .awaitExpression).map some ∧
    (∀ finding ∈ asyncAwaitErrorHandling context, ∀ node, finding.site = some node →
      (Approves finding ↔ ∃ statement, Node.Guards statement node) ∧
      ((Approves finding ↔ node.IsCaught) ↔ ¬node.IsLetThrough)) ∧
    (∀ statement clause node : Node root,
      statement.tryParts.handler = some clause ∨ statement.tryParts.finalizer = some clause →
        clause ∈ node.lineage → ¬Node.Guards statement node) := by
  refine ⟨sites_asyncAwaitErrorHandling context, fun finding member node site => ?_,
    fun statement clause node => Node.not_guards_of_clause⟩
  have approves := approves_iff member site
  refine ⟨approves, ?_⟩
  rw [approves, Node.isLetThrough_iff, not_and_not_right]
  exact ⟨fun same => same.1, fun caught => ⟨caught, Node.IsCaught.guarded⟩⟩

/-- In `async function go() { try { await load(); } finally { } }` the awaited expression is
approved of, and its failures are not caught. -/
theorem await_approved_without_handler :
    let root : Tree := .node { name := "program" }
      [.node { name := "function_declaration" }
        [.node { name := "async", named := false } [],
         .node { name := "identifier", role := some .name, text := "go" } [],
         .node { name := "formal_parameters", role := some .parameters } [],
         .node { name := "statement_block", role := some .body }
          [.node { name := "try_statement" }
            [.node { name := "statement_block", role := some .body }
              [.node { name := "expression_statement" }
                [.node { name := "await_expression" }
                  [.node { name := "call_expression" }
                    [.node { name := "identifier", role := some .function, text := "load" } [],
                     .node { name := "arguments", role := some .arguments } []]]]],
             .node { name := "finally_clause", role := some .finalizer }
              [.node { name := "statement_block", role := some .body } []]]]]]
    let context : Context root :=
      { index := Index.build root (.atMost 100), scanDepth := .int 20, treeDepth := .int 100 }
    ∃ finding ∈ asyncAwaitErrorHandling context, ∃ node, finding.site = some node ∧
      Approves finding ∧ ¬node.IsCaught := by
  intro root context
  have computed : ∃ finding ∈ asyncAwaitErrorHandling context, ∃ node ∈ context.index.nodes,
      finding.site = some node ∧ finding.verdict.positive = true ∧
        finding.details = some "await properly wrapped in try-catch" ∧
          ∀ above ∈ node.ancestors, above.tryParts.handler = none := by
    decide +kernel
  obtain ⟨finding, member, node, -, site, positive, details, uncaught⟩ := computed
  refine ⟨finding, member, node, site, ⟨positive, details⟩, ?_⟩
  rintro ⟨statement, guards, handled⟩
  rw [uncaught statement guards.mem_ancestors] at handled
  cases handled

end Detectors.Asynchrony

end SnippetTutor
