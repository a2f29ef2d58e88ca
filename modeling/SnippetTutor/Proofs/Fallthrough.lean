import SnippetTutor.Detectors.Control

/-!
# Falling through

The statements of a case run on into the next one unless the last of them leaves the switch. The
last case of a switch has no next one, so it does not matter how its statements end. The check of
switches asks for the end of every case, and so it also marks a switch that has nothing to fall
into.

* `Node.caseBody` is what stands in a case apart from its value (`Node.statements_eq_caseBody`), and
  `Node.EndsOpen` says how it ends;
* `Node.FallsThrough` is about a case that is followed by another one, `Node.RunsOff` about the last
  case; together they are all cases (`exists_mem_iff_followed_or_last`);
* `Detectors.Control.switchCase_right_iff` says which switches are marked, and when that is right.
-/

namespace SnippetTutor

/-- What holds of some item of a list holds of one that is followed by another, or of the last. -/
theorem exists_mem_iff_followed_or_last {α : Type} {items : List α} {holds : α → Prop} :
    (∃ item ∈ items, holds item) ↔
      (∃ before item next after, items = before ++ item :: next :: after ∧ holds item) ∨
        ∃ before item, items = before ++ [item] ∧ holds item := by
  constructor
  · rintro ⟨item, member, held⟩
    obtain ⟨before, rest, rfl⟩ := List.append_of_mem member
    cases rest with
    | nil => exact .inr ⟨before, item, rfl, held⟩
    | cons next after => exact .inl ⟨before, item, next, after, rfl, held⟩
  · rintro (⟨before, item, next, after, rfl, held⟩ | ⟨before, item, rfl, held⟩)
    · exact ⟨item, by simp, held⟩
    · exact ⟨item, by simp, held⟩

namespace Node

variable {root : Tree} {switch branch last : Node root}

/-! ### Cases -/

/-- What stands in a case apart from its value. -/
def caseBody (branch : Node root) : List (Node root) :=
  branch.children.filter fun child => branch.field .value ≠ some child

/-- There is something in a case, and the last of it is no statement that leaves the switch. -/
def EndsOpen (branch : Node root) : Prop :=
  ∃ last, branch.caseBody.getLast? = some last ∧ last.kind ≠ .breakStatement ∧
    last.kind ≠ .returnStatement ∧ last.kind ≠ .throwStatement

/-- A case that is followed by another one of the switch ends open. -/
def FallsThrough (switch : Node root) : Prop :=
  ∃ before branch next after, switch.switchCases = before ++ branch :: next :: after ∧
    branch.EndsOpen

/-- The last case of a switch ends open. -/
def RunsOff (switch : Node root) : Prop :=
  ∃ before branch, switch.switchCases = before ++ [branch] ∧ branch.EndsOpen

/-- The statements of a case are what stands in it apart from its value. -/
theorem statements_eq_caseBody (listed : branch ∈ switch.switchCases) :
    branch.statements = branch.caseBody := by
  have kind : (branch.kind == .switchCase || branch.kind == .switchDefault) = true :=
    (List.mem_filter.1 listed).2
  unfold statements caseBody
  rw [if_pos kind]
  cases valued : branch.field .value with
  | none => exact (List.filter_eq_self.2 fun child _ => rfl).symm
  | some value =>
    refine List.filter_congr fun child _ => decide_eq_decide.2 ?_
    rw [ne_eq, ne_eq, Option.some.injEq, eq_comm]

theorem FallsThrough.two_le_length (falls : switch.FallsThrough) :
    2 ≤ switch.switchCases.length := by
  obtain ⟨before, branch, next, after, cases, -⟩ := falls
  rw [cases, List.length_append, List.length_cons, List.length_cons]
  omega

end Node

namespace Detectors.Control

variable {root : Tree} {context : Context root} {switch branch : Node root}

/-! ### The check -/

theorem not_isOneOf_caseEnds_iff {last : Node root} :
    (!last.isOneOf caseEnds) = true ↔
      last.kind ≠ .breakStatement ∧ last.kind ≠ .returnStatement ∧ last.kind ≠ .throwStatement := by
  simp [Node.isOneOf, caseEnds]

theorem runsOn_iff (listed : branch ∈ switch.switchCases) :
    runsOn branch = true ↔ branch.EndsOpen := by
  rw [runsOn, Node.statements_eq_caseBody listed, Option.any_eq_true]
  simp only [not_isOneOf_caseEnds_iff]
  rfl

/-- The check finds every case that ends open, the last one included. -/
theorem hasFallthrough_iff :
    hasFallthrough switch = true ↔ switch.FallsThrough ∨ switch.RunsOff := by
  rw [hasFallthrough, List.any_eq_true, Node.FallsThrough, Node.RunsOff,
    ← exists_mem_iff_followed_or_last]
  exact exists_congr fun branch => and_congr_right runsOn_iff

theorem sites_switchCase (context : Context root) :
    (switchCase context).map Finding.site =
      (context.ofKind .switchStatement).head?.toList.map some := by
  rw [switchCase, List.map_map, ← List.take_one]
  rfl

/-- A switch is marked if the check finds something in it. -/
theorem negative_iff {finding : Finding root} (member : finding ∈ switchCase context)
    (site : finding.site = some switch) :
    finding.verdict.negative = true ↔ hasFallthrough switch = true := by
  obtain ⟨other, -, rfl⟩ := List.mem_map.1 member
  cases site
  exact Bool.eq_iff_iff.1 (Bool.not_not _)

/-- The first switch of the index has the only finding. It is marked exactly if some case ends open,
be it the last one or not. So that it is marked says that a case can fall into another one, unless
the last case is the only one to end open. -/
theorem switchCase_right_iff (root : Tree) (context : Context root) :
    (switchCase context).map Finding.site =
      (context.ofKind .switchStatement).head?.toList.map some ∧
    ∀ finding ∈ switchCase context, ∀ switch, finding.site = some switch →
      (finding.verdict.negative = true ↔ switch.FallsThrough ∨ switch.RunsOff) ∧
      ((finding.verdict.negative = true → switch.FallsThrough) ↔
        (switch.RunsOff → switch.FallsThrough)) := by
  refine ⟨sites_switchCase context, fun finding member switch site => ?_⟩
  have marked := (negative_iff member site).trans hasFallthrough_iff
  refine ⟨marked, ?_⟩
  rw [marked, or_imp]
  exact and_iff_right id

/-- In `switch (k) { case 1: run(); default: stop(); break; }` the first case falls into the other
one, and the switch is marked. -/
theorem switchCase_right_grouped :
    let root : Tree := .node { name := "program" }
      [.node { name := "switch_statement" }
        [.node { name := "parenthesized_expression", role := some .value }
          [.node { name := "identifier", text := "k" } []],
         .node { name := "switch_body", role := some .body }
          [.node { name := "switch_case" }
            [.node { name := "number", role := some .value, text := "1" } [],
             .node { name := "expression_statement", role := some .body }
              [.node { name := "call_expression" }
                [.node { name := "identifier", role := some .function, text := "run" } [],
                 .node { name := "arguments", role := some .arguments } []]]],
           .node { name := "switch_default" }
            [.node { name := "expression_statement", role := some .body }
              [.node { name := "call_expression" }
                [.node { name := "identifier", role := some .function, text := "stop" } [],
                 .node { name := "arguments", role := some .arguments } []]],
             .node { name := "break_statement", role := some .body } []]]]]
    let context : Context root :=
      { index := Index.build root (.atMost 100), scanDepth := .int 20, treeDepth := .int 100 }
    ∃ finding ∈ switchCase context, ∃ switch, finding.site = some switch ∧
      finding.verdict.negative = true ∧ switch.FallsThrough := by
  intro root context
  have computed : ∃ finding ∈ switchCase context, ∃ switch ∈ context.index.nodes,
      finding.site = some switch ∧ finding.verdict.negative = true ∧
        ∃ last ∈ switch.switchCases, switch.switchCases.getLast? = some last ∧
          runsOn last = false := by
    decide +kernel
  obtain ⟨finding, member, switch, -, site, marked, last, listed, final, leaves⟩ := computed
  obtain ⟨-, right⟩ := (switchCase_right_iff root context).2 finding member switch site
  refine ⟨finding, member, switch, site, marked, right.2 ?_ marked⟩
  -- The last case leaves the switch.
  rintro ⟨before, branch, cases, opens⟩
  rw [cases, List.getLast?_concat, Option.some.injEq] at final
  subst final
  rw [(runsOn_iff listed).2 opens] at leaves
  cases leaves

/-- In `switch (k) { case 1: run(); }` there is nothing to fall into, and the switch is marked. -/
theorem switchCase_marked_by_last :
    let root : Tree := .node { name := "program" }
      [.node { name := "switch_statement" }
        [.node { name := "parenthesized_expression", role := some .value }
          [.node { name := "identifier", text := "k" } []],
         .node { name := "switch_body", role := some .body }
          [.node { name := "switch_case" }
            [.node { name := "number", role := some .value, text := "1" } [],
             .node { name := "expression_statement", role := some .body }
              [.node { name := "call_expression" }
                [.node { name := "identifier", role := some .function, text := "run" } [],
                 .node { name := "arguments", role := some .arguments } []]]]]]]
    let context : Context root :=
      { index := Index.build root (.atMost 100), scanDepth := .int 20, treeDepth := .int 100 }
    ∃ finding ∈ switchCase context, ∃ switch, finding.site = some switch ∧
      finding.verdict.negative = true ∧ ¬switch.FallsThrough := by
  intro root context
  have computed : ∃ finding ∈ switchCase context, ∃ switch ∈ context.index.nodes,
      finding.site = some switch ∧ finding.verdict.negative = true ∧
        switch.switchCases.length = 1 := by
    decide +kernel
  obtain ⟨finding, member, switch, -, site, marked, single⟩ := computed
  refine ⟨finding, member, switch, site, marked, fun falls => ?_⟩
  have two := falls.two_le_length
  omega

end Detectors.Control

end SnippetTutor
