import SnippetTutor.Detectors.Hazards.Lifetime
import SnippetTutor.Detectors.State
import SnippetTutor.Proofs.SourceOrder

/-!
# Two searches for changes of state

State that is changed in place is searched for twice. One search reports the changes, or praises the
snippet if it has none; the other one only reports. What the first one finds the second one finds,
too, but the first one overlooks some changes, and praises a snippet that has no others.

* `Writes` and `Changes`: what makes an assignment or a call a change of state for the second search
  (`exists_stateMutation_iff`), and, with a narrower notion of both, for the first one
  (`exists_directChange_iff`);
* `IsOverlooked`: a change of a kind that the first search does not look for;
* `immutability_praises_iff` puts this together.
-/

namespace SnippetTutor.Detectors

variable {root : Tree} {context : Context root} {names methods : List String} {node : Node root}

/-- A part of one of the variables is assigned, whatever parentheses stand around it. -/
def Writes (names : List String) (node : Node root) : Prop :=
  ∃ target, node.fieldInside .left = some target ∧
    (target.kind = .memberExpression ∨ target.kind = .subscriptExpression) ∧
      ∃ name ∈ names, target.memberObject.bind Node.identifierName = some name

/-- One of the methods of one of the variables is called. -/
def Changes (names methods : List String) (node : Node root) : Prop :=
  ∃ name ∈ names, ∃ method ∈ methods, node.staticCall = (some name, some method)

/-- A change that is not looked for: one by a combined assignment, one of a part that is not written
with a dot, or is in parentheses, and one by `fill`. -/
@[mk_iff]
inductive IsOverlooked (node : Node root) : Prop
  | combined (kind : node.kind = .augmentedAssignmentExpression)
  | target (kind : node.kind = .assignmentExpression)
      (other : Node.kindOf (node.field .left) ≠ .memberExpression)
  | filled (kind : node.kind = .callExpression) (method : node.methodName = some "fill")

/-! ### The search that only reports -/

namespace Hazards

theorem exists_stateAssignment_iff {site : Node root} :
    (∃ hazard, stateAssignment names node = some hazard ∧ hazard.site = site) ↔
      node = site ∧ Writes names node := by
  unfold stateAssignment Writes
  constructor
  · rintro ⟨hazard, found, rfl⟩
    obtain ⟨target, written, found⟩ := Option.bind_eq_some_iff.1 found
    split at found
    · rename_i access
      obtain ⟨name, owner, rfl⟩ := Option.map_eq_some_iff.1 found
      obtain ⟨owner, known⟩ := Option.filter_eq_some_iff.1 owner
      exact ⟨rfl, target, written, by simpa using access, name, by simpa using known, owner⟩
    · cases found
  · rintro ⟨rfl, target, written, access, name, known, owner⟩
    simp [written, access, owner, known]

theorem exists_stateCall_iff {site : Node root} :
    (∃ hazard, stateCall names node = some hazard ∧ hazard.site = site) ↔
      node = site ∧ Changes names AliasMap.mutatingMethods node := by
  unfold stateCall Changes
  constructor
  · rintro ⟨hazard, found, rfl⟩
    split at found
    · rename_i name method called
      split at found
      · rename_i known
        cases found
        rw [Bool.and_eq_true, List.contains_iff_mem, List.contains_iff_mem] at known
        exact ⟨rfl, name, known.1, method, known.2, called⟩
      · cases found
    · cases found
  · rintro ⟨rfl, name, known, method, mutating, called⟩
    simp [called, known, mutating]

/-- The sites of the hazards that are found at some of a list of constructs. -/
theorem exists_hazard_filterMap_iff {nodes : List (Node root)}
    {find : Node root → Option (Hazard root)} {holds : Node root → Prop}
    (each : ∀ node site, (∃ hazard, find node = some hazard ∧ hazard.site = site) ↔
      node = site ∧ holds node) :
    (∃ hazard ∈ nodes.filterMap find, hazard.site = node) ↔ node ∈ nodes ∧ holds node := by
  constructor
  · rintro ⟨hazard, member, site⟩
    obtain ⟨found, listed, made⟩ := List.mem_filterMap.1 member
    obtain ⟨rfl, held⟩ := (each found node).1 ⟨hazard, made, site⟩
    exact ⟨listed, held⟩
  · rintro ⟨listed, held⟩
    obtain ⟨hazard, made, site⟩ := (each node node).2 ⟨rfl, held⟩
    exact ⟨hazard, List.mem_filterMap.2 ⟨node, listed, made⟩, site⟩

/-- What is reported are the assignments to parts of the state, and the calls of methods that change
it. -/
theorem exists_stateMutation_iff :
    (∃ hazard ∈ stateMutations context, hazard.site = node) ↔
      node ∈ context.index.nodes ∧
        (node.kind ∈ assignmentKinds ∧ Writes context.stateNames node ∨
          node.kind = .callExpression ∧
            Changes context.stateNames AliasMap.mutatingMethods node) := by
  simp only [stateMutations, List.mem_append, or_and_right, exists_or]
  rw [exists_hazard_filterMap_iff fun _ _ => exists_stateAssignment_iff,
    exists_hazard_filterMap_iff fun _ _ => exists_stateCall_iff]
  rw [Context.ofKinds, Index.mem_ofKinds_iff, Context.ofKind, Index.ofKind, List.mem_filter,
    beq_iff_eq, and_assoc, and_assoc, ← and_or_left]

end Hazards

/-! ### The search that praises -/

namespace State

/-- A part of one of the variables is assigned that is written with a dot. -/
def WritesWithDot (names : List String) (node : Node root) : Prop :=
  ∃ target, node.field .left = some target ∧ target.kind = .memberExpression ∧
    ∃ name ∈ names, target.memberObject.bind Node.identifierName = some name

theorem exists_directChange_call_iff (kind : node.kind = .callExpression) :
    (∃ text, directChange names node = some text) ↔ Changes names changingMethods node := by
  unfold directChange Changes
  rw [if_pos (beq_iff_eq.2 kind)]
  constructor
  · rintro ⟨text, found⟩
    split at found
    · rename_i name method called
      split at found
      · rename_i known
        rw [Bool.and_eq_true, List.contains_iff_mem, List.contains_iff_mem] at known
        exact ⟨name, known.2, method, known.1, called⟩
      · cases found
    · cases found
  · rintro ⟨name, known, method, changing, called⟩
    simp [called, known, changing]

theorem exists_directChange_other_iff (kind : node.kind ≠ .callExpression) :
    (∃ text, directChange names node = some text) ↔ WritesWithDot names node := by
  unfold directChange WritesWithDot
  rw [if_neg (by simpa using kind)]
  constructor
  · rintro ⟨text, found⟩
    split at found
    · rename_i written
      obtain ⟨target, field, access⟩ := (Option.any_eq_true _ _).1 written
      obtain ⟨dot, owner⟩ := Bool.and_eq_true_iff.1 access
      obtain ⟨name, owner, known⟩ := (Option.any_eq_true _ _).1 owner
      exact ⟨target, field, eq_of_beq dot, name, List.contains_iff_mem.1 known, owner⟩
    · cases found
  · rintro ⟨target, field, dot, name, known, owner⟩
    simp [field, dot, owner, known]

/-- The changes that are found. -/
def directChanges (context : Context root) : List (Finding root) :=
  (context.ofKinds [.callExpression, .assignmentExpression]).filterMap fun node =>
    (directChange context.stateNames node).map fun text => .of .bad node text

/-- The praise of a snippet without changes. -/
def praise : Finding root :=
  .overall .idiom "State updates appear to follow immutability patterns"

theorem immutability_eq (declared : context.stateNames ≠ []) :
    immutability context =
      if (directChanges context).isEmpty then [praise] else directChanges context := by
  unfold immutability
  split
  · rename_i none
    exact absurd none declared
  · rfl

theorem exists_site_of_mem_directChanges {finding : Finding root}
    (member : finding ∈ directChanges context) : ∃ node, finding.site = some node := by
  obtain ⟨node, -, made⟩ := List.mem_filterMap.1 member
  obtain ⟨text, -, rfl⟩ := Option.map_eq_some_iff.1 made
  exact ⟨node, rfl⟩

/-- What is found are the assignments to parts of the state that are written with a dot, and the
calls of methods that change it. -/
theorem exists_directChange_iff :
    (∃ finding ∈ directChanges context, finding.site = some node) ↔
      node ∈ context.index.nodes ∧
        (node.kind = .assignmentExpression ∧ WritesWithDot context.stateNames node ∨
          node.kind = .callExpression ∧ Changes context.stateNames changingMethods node) := by
  have found : (∃ finding ∈ directChanges context, finding.site = some node) ↔
      node ∈ context.ofKinds [.callExpression, .assignmentExpression] ∧
        ∃ text, directChange context.stateNames node = some text := by
    simp only [directChanges, List.mem_filterMap, Option.map_eq_some_iff]
    constructor
    · rintro ⟨_, ⟨other, listed, text, made, rfl⟩, site⟩
      cases site
      exact ⟨listed, text, made⟩
    · rintro ⟨listed, text, made⟩
      exact ⟨_, ⟨node, listed, text, made, rfl⟩, rfl⟩
  rw [found, Context.ofKinds, Index.mem_ofKinds_iff, and_assoc]
  refine and_congr_right fun _ => ?_
  by_cases call : node.kind = .callExpression
  · rw [exists_directChange_call_iff call, call]
    simp
  · rw [exists_directChange_other_iff call]
    simp [call]

end State

/-! ### What is overlooked -/

/-- The assignments that both searches look for are those with a target that is written with a dot
and has no parentheses around it. -/
theorem writesWithDot_iff :
    State.WritesWithDot names node ↔
      Writes names node ∧ Node.kindOf (node.field .left) = .memberExpression := by
  unfold State.WritesWithDot Writes
  constructor
  · rintro ⟨target, field, dot, name, known, owner⟩
    have bare : target.unwrap = target := Node.unwrap_of_kind_ne (by rw [dot]; decide)
    rw [Node.fieldInside, field, Option.map_some, bare]
    exact ⟨⟨target, rfl, .inl dot, name, known, owner⟩, dot⟩
  · rintro ⟨⟨target, written, -, name, known, owner⟩, dot⟩
    obtain ⟨left, field, rfl⟩ := Option.map_eq_some_iff.1 written
    rw [field] at dot
    have member : left.kind = .memberExpression := dot
    have bare : left.unwrap = left := Node.unwrap_of_kind_ne (by rw [member]; decide)
    rw [bare] at owner
    exact ⟨left, field, dot, name, known, owner⟩

/-- The methods that both searches look for are all but `fill`. -/
theorem changes_changingMethods_iff :
    Changes names State.changingMethods node ↔
      Changes names AliasMap.mutatingMethods node ∧ node.methodName ≠ some "fill" := by
  have subset : ∀ method ∈ State.changingMethods,
      method ∈ AliasMap.mutatingMethods ∧ method ≠ "fill" := by decide
  have others : ∀ method ∈ AliasMap.mutatingMethods, method ≠ "fill" →
      method ∈ State.changingMethods := by decide
  constructor
  · rintro ⟨name, known, method, changing, called⟩
    have named : node.methodName = some method := congrArg Prod.snd called
    obtain ⟨mutating, other⟩ := subset method changing
    refine ⟨⟨name, known, method, mutating, called⟩, ?_⟩
    rwa [named, ne_eq, Option.some.injEq]
  · rintro ⟨⟨name, known, method, mutating, called⟩, other⟩
    have named : node.methodName = some method := congrArg Prod.snd called
    rw [named, ne_eq, Option.some.injEq] at other
    exact ⟨name, known, method, others method mutating other, called⟩

/-- The first search finds what the second one reports, unless it is overlooked. -/
theorem exists_directChange_iff_not_isOverlooked :
    (∃ finding ∈ State.directChanges context, finding.site = some node) ↔
      (∃ hazard ∈ Hazards.stateMutations context, hazard.site = node) ∧ ¬IsOverlooked node := by
  rw [State.exists_directChange_iff, Hazards.exists_stateMutation_iff, writesWithDot_iff,
    changes_changingMethods_iff, isOverlooked_iff, and_assoc]
  refine and_congr_right fun _ => ?_
  by_cases assigned : node.kind = .assignmentExpression
  · simp [assigned, Hazards.assignmentKinds]
  · by_cases called : node.kind = .callExpression
    · simp [called, Hazards.assignmentKinds]
    · simp +contextual [assigned, called, Hazards.assignmentKinds]

/-- The snippet is praised if all changes are overlooked. -/
theorem praise_mem_immutability_iff (declared : context.stateNames ≠ []) :
    State.praise ∈ State.immutability context ↔
      ∀ hazard ∈ Hazards.stateMutations context, IsOverlooked hazard.site := by
  have empty : State.directChanges context = [] ↔
      ∀ hazard ∈ Hazards.stateMutations context, IsOverlooked hazard.site := by
    constructor
    · intro none hazard reported
      by_contra seen
      obtain ⟨finding, member, -⟩ :=
        exists_directChange_iff_not_isOverlooked.2 ⟨⟨hazard, reported, rfl⟩, seen⟩
      rw [none] at member
      cases member
    · intro overlooked
      refine List.eq_nil_iff_forall_not_mem.2 fun finding member => ?_
      obtain ⟨node, site⟩ := State.exists_site_of_mem_directChanges member
      obtain ⟨⟨hazard, reported, rfl⟩, seen⟩ :=
        exists_directChange_iff_not_isOverlooked.1 ⟨finding, member, site⟩
      exact seen (overlooked hazard reported)
  rw [State.immutability_eq declared, ← empty]
  split
  · rename_i none
    exact iff_of_true List.mem_cons_self (List.isEmpty_iff.1 none)
  · rename_i some
    refine iff_of_false (fun member => ?_) fun none => some (List.isEmpty_iff.2 none)
    obtain ⟨node, site⟩ := State.exists_site_of_mem_directChanges member
    cases site

/-- A finding about a construct is one of the changes. -/
theorem exists_immutability_iff (declared : context.stateNames ≠ []) :
    (∃ finding ∈ State.immutability context, finding.site = some node) ↔
      ∃ finding ∈ State.directChanges context, finding.site = some node := by
  rw [State.immutability_eq declared]
  split
  · rename_i none
    rw [List.isEmpty_iff.1 none]
    refine iff_of_false ?_ ?_
    · rintro ⟨finding, member, site⟩
      rw [List.mem_singleton.1 member] at site
      cases site
    · rintro ⟨finding, member, -⟩
      cases member
  · rfl

/-- Where state is declared, the first search reports a construct exactly if the second one does and
it is not overlooked, and it praises the snippet exactly if all that the second one reports is
overlooked. So the praise and the silence of the second search go together exactly if it is silent
or reports something that is not overlooked. -/
theorem immutability_praises_iff (root : Tree) (context : Context root)
    (declared : context.stateNames ≠ []) :
    (∀ node, (∃ finding ∈ State.immutability context, finding.site = some node) ↔
      (∃ hazard ∈ Hazards.stateMutations context, hazard.site = node) ∧ ¬IsOverlooked node) ∧
    (State.praise ∈ State.immutability context ↔
      ∀ hazard ∈ Hazards.stateMutations context, IsOverlooked hazard.site) ∧
    ((State.praise ∈ State.immutability context ↔ Hazards.stateMutations context = []) ↔
      Hazards.stateMutations context = [] ∨
        ∃ hazard ∈ Hazards.stateMutations context, ¬IsOverlooked hazard.site) := by
  refine ⟨fun node => ?_, praise_mem_immutability_iff declared, ?_⟩
  · rw [exists_immutability_iff declared, exists_directChange_iff_not_isOverlooked]
  · rw [praise_mem_immutability_iff declared]
    by_cases silent : Hazards.stateMutations context = []
    · simp [silent]
    · simp [silent]

/-- In `const [items, setItems] = useState([]); items.push(1)` the call is reported by both
searches, and the snippet is not praised. -/
theorem immutability_praises_pushed :
    let root : Tree := .node { name := "program" }
      [.node { name := "lexical_declaration" }
        [.node { name := "variable_declarator" }
          [.node { name := "array_pattern", role := some .name }
            [.node { name := "identifier", text := "items" } [],
             .node { name := "identifier", text := "setItems" } []],
           .node { name := "call_expression", role := some .value }
            [.node { name := "identifier", role := some .function, text := "useState" } [],
             .node { name := "arguments", role := some .arguments } []]]],
       .node { name := "expression_statement" }
        [.node { name := "call_expression" }
          [.node { name := "member_expression", role := some .function }
            [.node { name := "identifier", role := some .object, text := "items" } [],
             .node { name := "property_identifier", role := some .property, text := "push" } []],
           .node { name := "arguments", role := some .arguments }
            [.node { name := "number", text := "1" } []]]]]
    let context : Context root :=
      { index := Index.build root (.atMost 100), scanDepth := .int 20, treeDepth := .int 100 }
    context.stateNames ≠ [] ∧ State.praise ∉ State.immutability context ∧
      ∃ hazard ∈ Hazards.stateMutations context,
        ∃ finding ∈ State.immutability context, finding.site = some hazard.site := by
  intro root context
  have declared : context.stateNames ≠ [] := by decide +kernel
  have called : ∃ hazard ∈ Hazards.stateMutations context,
      hazard.site.kind = .callExpression ∧ hazard.site.methodName ≠ some "fill" := by
    decide +kernel
  obtain ⟨hazard, reported, kind, method⟩ := called
  have seen : ¬IsOverlooked hazard.site := by
    simp [isOverlooked_iff, kind, method]
  obtain ⟨found, praised, -⟩ := immutability_praises_iff root context declared
  exact ⟨declared, fun praise => seen (praised.1 praise hazard reported), hazard, reported,
    (found hazard.site).2 ⟨⟨hazard, reported, rfl⟩, seen⟩⟩

/-- In `const [items, setItems] = useState([]); items[0] = 1` the assignment is reported by the
second search, and the first one praises the snippet. -/
theorem immutability_praises_element_write :
    let root : Tree := .node { name := "program" }
      [.node { name := "lexical_declaration" }
        [.node { name := "variable_declarator" }
          [.node { name := "array_pattern", role := some .name }
            [.node { name := "identifier", text := "items" } [],
             .node { name := "identifier", text := "setItems" } []],
           .node { name := "call_expression", role := some .value }
            [.node { name := "identifier", role := some .function, text := "useState" } [],
             .node { name := "arguments", role := some .arguments } []]]],
       .node { name := "expression_statement" }
        [.node { name := "assignment_expression" }
          [.node { name := "subscript_expression", role := some .left }
            [.node { name := "identifier", role := some .object, text := "items" } [],
             .node { name := "number", role := some .index, text := "0" } []],
           .node { name := "number", role := some .right, text := "1" } []]]]
    let context : Context root :=
      { index := Index.build root (.atMost 100), scanDepth := .int 20, treeDepth := .int 100 }
    context.stateNames ≠ [] ∧ State.praise ∈ State.immutability context ∧
      Hazards.stateMutations context ≠ [] := by
  intro root context
  have declared : context.stateNames ≠ [] := by decide +kernel
  have written : ∀ hazard ∈ Hazards.stateMutations context,
      hazard.site.kind = .assignmentExpression ∧
        Node.kindOf (hazard.site.field .left) ≠ .memberExpression := by
    decide +kernel
  refine ⟨declared, (praise_mem_immutability_iff declared).2 fun hazard reported => ?_,
    List.ne_nil_of_length_pos (by decide +kernel)⟩
  obtain ⟨kind, other⟩ := written hazard reported
  exact .target kind other

end SnippetTutor.Detectors
