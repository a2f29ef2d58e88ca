import SnippetTutor.Detectors.Hazards.Lifetime
import SnippetTutor.Detectors.Hooks
import SnippetTutor.Proofs.ReturnChecks
import SnippetTutor.Proofs.StateChanges

/-!
# Two checks of cleanups

An effect that subscribes to something should return a function that ends the subscription. One
check praises an effect for any return among its statements, with a value or without; the other one
blames an effect that subscribes unless it returns a function that is written out on the spot.
Between the two lie effects that return nothing, or something that is not written as a function.

* `isSaidToCleanUp_iff` and `isSaidToLeak_iff`: when the two checks speak;
* `ReturnsInVain`: the effects between them;
* `cleaned_and_leaking_iff` puts this together.
-/

namespace SnippetTutor.Detectors

variable {root : Tree} {context : Context root} {call body node : Node root}

/-- An effect is praised for its cleanup. -/
def IsSaidToCleanUp (context : Context root) (call : Node root) : Prop :=
  ∃ finding ∈ Hooks.effectCleanup context, finding.site = some call

/-- An effect is reported for the lack of a cleanup. -/
def IsSaidToLeak (context : Context root) (call : Node root) : Prop :=
  ∃ hazard ∈ Hazards.missingCleanups context, hazard.site = call

/-- A call subscribes to something, by a method or by a bare name. -/
def Subscribes (node : Node root) : Prop :=
  node.kind = .callExpression ∧
    ∃ name ∈ Hazards.subscribing, Hazards.subscriptionName node = some name

/-- A statement returns a function that is written out. -/
def ReturnsFunction (statement : Node root) : Prop :=
  statement.kind = .returnStatement ∧
    ∃ value, statement.firstExpression = some value ∧ value.isFunctionLiteral = true

/-! ### What is looked for -/

/-- A subscription is found exactly if there is one anywhere inside the effect. -/
theorem exists_lastSubscription_iff {callback : Node root}
    (found : callback.functionBody = some body) :
    (∃ name, Hazards.lastSubscription callback = some name) ↔
      ∃ inner ∈ body.descendants, Subscribes inner := by
  have inside : callback.field .body = some body := found
  rw [Hazards.lastSubscription, inside, ← Option.isSome_iff_exists, List.getLast?_isSome]
  constructor
  · intro filled
    obtain ⟨name, listed⟩ := List.exists_mem_of_ne_nil _ filled
    obtain ⟨inner, met, named⟩ := List.mem_filterMap.1 listed
    obtain ⟨met, kind⟩ := List.mem_filter.1 met
    obtain ⟨named, known⟩ := Option.filter_eq_some_iff.1 named
    exact ⟨inner, met, eq_of_beq kind, name, List.contains_iff_mem.1 known, named⟩
  · rintro ⟨inner, met, kind, name, known, named⟩
    refine List.ne_nil_of_mem (a := name) (List.mem_filterMap.2 ⟨inner, ?_, ?_⟩)
    · exact List.mem_filter.2 ⟨met, beq_iff_eq.2 kind⟩
    · exact Option.filter_eq_some_iff.2 ⟨named, List.contains_iff_mem.2 known⟩

theorem effectReturns_iff (takes : TakesBlock call body) :
    call.effectReturns = true ↔
      ∃ statement ∈ body.children, statement.kind = .returnStatement := by
  obtain ⟨callback, head, -, found⟩ := takes.callback
  have block := Node.blockStatements_eq_some_iff.2 ⟨body, found, takes.block, rfl⟩
  rw [Node.effectReturns, head, Option.bind_some, block, Option.any_some, List.any_eq_true]
  simp only [beq_iff_eq]

theorem returnsCleanup_iff {callback : Node root} (found : callback.functionBody = some body)
    (block : body.kind = .statementBlock) :
    Hazards.returnsCleanup callback = true ↔
      ∃ statement ∈ body.children, ReturnsFunction statement := by
  have statements := Node.blockStatements_eq_some_iff.2 ⟨body, found, block, rfl⟩
  rw [Hazards.returnsCleanup, statements, Option.any_some, List.any_eq_true]
  simp only [Bool.and_eq_true, beq_iff_eq, Option.any_eq_true, ReturnsFunction]

/-! ### The two checks -/

/-- An effect with a block is praised if there is a return among its statements. -/
theorem isSaidToCleanUp_iff (takes : TakesBlock call body) :
    IsSaidToCleanUp context call ↔
      call ∈ context.callsOf "useEffect" ∧
        ∃ statement ∈ body.children, statement.kind = .returnStatement := by
  rw [← effectReturns_iff takes, ← List.mem_filter]
  constructor
  · rintro ⟨finding, member, site⟩
    obtain ⟨other, listed, rfl⟩ := List.mem_map.1 member
    cases site
    exact listed
  · intro listed
    exact ⟨_, List.mem_map_of_mem listed, rfl⟩

/-- The function that is given to a call subscribes to something, and does not return a function. -/
def Leaks (call : Node root) : Prop :=
  ∃ callback, call.arguments.head? = some callback ∧ callback.isFunctionLiteral = true ∧
    Hazards.returnsCleanup callback = false ∧ ∃ name, Hazards.lastSubscription callback = some name

/-- What is reported are the effects whose functions leak. -/
theorem isSaidToLeak_iff_leaks :
    IsSaidToLeak context call ↔ call ∈ context.callsOf "useEffect" ∧ Leaks call := by
  unfold IsSaidToLeak Hazards.missingCleanups
  refine Hazards.exists_hazard_filterMap_iff fun node site => ?_
  constructor
  · rintro ⟨hazard, made, rfl⟩
    obtain ⟨callback, head, made⟩ := Option.bind_eq_some_iff.1 made
    split at made
    · rename_i leaks
      obtain ⟨name, last, rfl⟩ := Option.map_eq_some_iff.1 made
      rw [Bool.and_eq_true, Bool.not_eq_true'] at leaks
      exact ⟨rfl, callback, head, leaks.1, leaks.2, name, last⟩
    · cases made
  · rintro ⟨rfl, callback, head, literal, leaks, name, last⟩
    simp [head, literal, leaks, last]

/-- An effect with a block is reported if it subscribes to something and returns no function. -/
theorem isSaidToLeak_iff (takes : TakesBlock call body) :
    IsSaidToLeak context call ↔
      call ∈ context.callsOf "useEffect" ∧
        (∃ inner ∈ body.descendants, Subscribes inner) ∧
          ∀ statement ∈ body.children, ¬ReturnsFunction statement := by
  obtain ⟨callback, head, literal, found⟩ := takes.callback
  have returnsNone : Hazards.returnsCleanup callback = false ↔
      ∀ statement ∈ body.children, ¬ReturnsFunction statement := by
    rw [← Bool.not_eq_true, returnsCleanup_iff found takes.block]
    simp only [not_exists, not_and]
  rw [isSaidToLeak_iff_leaks, ← exists_lastSubscription_iff found, ← returnsNone]
  refine and_congr_right fun _ => ⟨?_, fun ⟨subscribes, leaks⟩ =>
    ⟨callback, head, literal, leaks, subscribes⟩⟩
  rintro ⟨other, same, -, leaks, subscribes⟩
  cases head.symm.trans same
  exact ⟨subscribes, leaks⟩

/-! ### Both at once -/

/-- A block subscribes to something and has returns among its statements, but none of a function
that is written out. -/
structure ReturnsInVain (body : Node root) : Prop where
  subscribes : ∃ inner ∈ body.descendants, Subscribes inner
  returns : ∃ statement ∈ body.children, statement.kind = .returnStatement
  noFunction : ∀ statement ∈ body.children, ¬ReturnsFunction statement

/-- An effect is praised for a return among the statements of its function, which is a block. -/
theorem IsSaidToCleanUp.takesBlock (praised : IsSaidToCleanUp context call)
    {callback : Node root} (head : call.arguments.head? = some callback)
    (literal : callback.isFunctionLiteral = true) : ∃ body, TakesBlock call body := by
  obtain ⟨finding, member, site⟩ := praised
  obtain ⟨other, listed, rfl⟩ := List.mem_map.1 member
  cases site
  have returns := (List.mem_filter.1 listed).2
  rw [Node.effectReturns, head, Option.bind_some] at returns
  obtain ⟨statements, block, -⟩ := (Option.any_eq_true _ _).1 returns
  obtain ⟨body, found, kind, -⟩ := Node.blockStatements_eq_some_iff.1 block
  exact ⟨body, ⟨callback, head, literal, found⟩, kind⟩

/-- An effect is both praised for a cleanup and reported for the lack of one, exactly if its
function has a block as its body, and this block subscribes to something and has returns among its
statements, but none of a function that is written out. -/
theorem cleaned_and_leaking_iff (root : Tree) (context : Context root) (call : Node root) :
    IsSaidToCleanUp context call ∧ IsSaidToLeak context call ↔
      call ∈ context.callsOf "useEffect" ∧ ∃ body, TakesBlock call body ∧ ReturnsInVain body := by
  constructor
  · rintro ⟨praised, reported⟩
    obtain ⟨-, callback, head, literal, -⟩ := isSaidToLeak_iff_leaks.1 reported
    obtain ⟨body, takes⟩ := praised.takesBlock head literal
    obtain ⟨listed, returns⟩ := (isSaidToCleanUp_iff takes).1 praised
    obtain ⟨-, subscribes, noFunction⟩ := (isSaidToLeak_iff takes).1 reported
    exact ⟨listed, body, takes, subscribes, returns, noFunction⟩
  · rintro ⟨listed, body, takes, vain⟩
    exact ⟨(isSaidToCleanUp_iff takes).2 ⟨listed, vain.returns⟩,
      (isSaidToLeak_iff takes).2 ⟨listed, vain.subscribes, vain.noFunction⟩⟩

/-- In `useEffect(() => { setInterval(tick); return; })` the effect is praised for a cleanup and
reported for the lack of one. -/
theorem cleaned_and_leaking_bare_return :
    let root : Tree := .node { name := "program" }
      [.node { name := "expression_statement" }
        [.node { name := "call_expression" }
          [.node { name := "identifier", role := some .function, text := "useEffect" } [],
           .node { name := "arguments", role := some .arguments }
            [.node { name := "arrow_function" }
              [.node { name := "formal_parameters", role := some .parameters } [],
               .node { name := "statement_block", role := some .body }
                [.node { name := "expression_statement" }
                  [.node { name := "call_expression" }
                    [.node { name := "identifier", role := some .function, text := "setInterval" }
                      [],
                     .node { name := "arguments", role := some .arguments }
                      [.node { name := "identifier", text := "tick" } []]]],
                 .node { name := "return_statement" } []]]]]]]
    let context : Context root :=
      { index := Index.build root (.atMost 100), scanDepth := .int 20, treeDepth := .int 100 }
    ∃ call, IsSaidToCleanUp context call ∧ IsSaidToLeak context call := by
  intro root context
  have both : ∃ hazard ∈ Hazards.missingCleanups context,
      ∃ finding ∈ Hooks.effectCleanup context, finding.site = some hazard.site := by
    decide +kernel
  obtain ⟨hazard, reported, praised⟩ := both
  exact ⟨hazard.site, praised, hazard, reported, rfl⟩

end SnippetTutor.Detectors
