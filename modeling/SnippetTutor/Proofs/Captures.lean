import SnippetTutor.Detectors.Functions
import SnippetTutor.Proofs.Regions
import SnippetTutor.Proofs.SourceOrder

/-!
# What functions take from around them

A function captures a name if it uses it in its own body, a function around it declares it, and it
does not declare it itself. The search for captures walks the body of a function without going into
the functions below, asks for names that the functions around it declare, and leaves out those of
its parameters. It does not leave out those of its variables; it goes on into a body that is a
function itself, since a walk always goes on from its start; and among the variables of a function
it counts those of the methods inside.

* `Node.Owns`: the nearest function above a place; `Node.HasVariable` and `Node.Declares` say which
  names a function declares, and `Functions.IsCapture` what it captures;
* `Functions.IsReached` is the region of the search, `Functions.Lends` what it takes the names of a
  function for, and `Functions.SeemsCaptured` what it looks for (`Functions.captures_iff`);
* `Functions.isCapture_iff`: what seems captured is a capture unless it is misjudged in one of three
  ways, and `Functions.exists_stranger`: how a name is found that no function around declares;
* `Functions.closureBasics_right_iff` puts this together.
-/

namespace SnippetTutor

namespace Node

variable {root : Tree} {node parent function outer owner : Node root} {name : String}

/-! ### What functions declare -/

/-- The nearest function above a place. -/
structure Owns (function node : Node root) : Prop where
  above : function ∈ node.ancestors
  kind : function.isFunction = true
  nearest : ∀ inner ∈ node.ancestors, function ∈ inner.ancestors → inner.isFunction = false

/-- The names that a construct declares by `var`, `let` or `const`, in a statement or in the head of
a loop. -/
def variableNames (node : Node root) : List String :=
  if node.isOneOf declarationKinds then
    node.declarators.flatMap fun declarator => namesIn (declarator.field .name)
  else if node.kind == .forInStatement && node.tokens.any ["var", "let", "const"].contains then
    namesIn (node.field .left)
  else []

/-- A function has a variable, declared in it and in no function inside it. -/
def HasVariable (function : Node root) (name : String) : Prop :=
  ∃ node, Owns function node ∧ name ∈ node.variableNames

/-- A function declares a name, as a parameter or as a variable. -/
def Declares (function : Node root) (name : String) : Prop :=
  name ∈ function.parameterNames ∨ function.HasVariable name

/-- Below a function every place has a nearest one, at or below it. -/
theorem exists_owns (above : outer ∈ node.ancestors) (kind : outer.isFunction = true) :
    ∃ owner, Owns owner node ∧ outer ∈ owner.lineage := by
  induction node using downInduction with
  | top =>
    rw [ancestors_top] at above
    cases above
  | child parent i ih =>
    have next : (parent.child i).ancestors = parent.lineage := ancestors_child parent i
    rw [next] at above
    cases nearest : parent.isFunction with
    | true =>
      refine ⟨parent, ⟨next ▸ List.mem_cons_self, nearest, fun inner member below => ?_⟩, above⟩
      rw [next] at member
      rcases mem_lineage_iff.1 member with rfl | higher
      · exact absurd below (not_mem_ancestors_self _)
      · exact absurd below (not_mem_ancestors_of_mem higher)
    | false =>
      rcases mem_lineage_iff.1 above with rfl | higher
      · rw [nearest] at kind
        cases kind
      · obtain ⟨owner, owns, within⟩ := ih higher
        refine ⟨owner, ⟨next ▸ List.mem_cons_of_mem _ owns.above, owns.kind, ?_⟩, within⟩
        rw [next, lineage, List.forall_mem_cons]
        exact ⟨fun _ => nearest, owns.nearest⟩

theorem isFunction_of_isDeferred (deferred : node.isDeferred = true) : node.isFunction = true := by
  simp only [isDeferred, isFunction, isOneOf, deferredKinds, functionKinds, List.contains_eq_mem,
    decide_eq_true_eq, List.mem_cons] at deferred ⊢
  tauto

/-- A function whose body does not run later is a method. -/
theorem kind_of_not_isDeferred (kind : node.isFunction = true) (atOnce : node.isDeferred = false) :
    node.kind = .methodDefinition := by
  simp only [isDeferred, isFunction, isOneOf, deferredKinds, functionKinds, List.contains_eq_mem,
    decide_eq_true_eq, decide_eq_false_iff_not, List.mem_cons] at kind atOnce
  tauto

theorem mem_variableNames_of_declarator {declarator : Node root}
    (kind : node.isOneOf declarationKinds = true) (listed : declarator ∈ node.declarators)
    (named : declarator.declaratorName = some name) : name ∈ node.variableNames := by
  rw [variableNames, if_pos kind]
  exact List.mem_flatMap.2 ⟨declarator, listed, mem_namesIn_of_declaratorName named⟩

/-- Below the body of a function is below the function. -/
theorem mem_ancestors_of_functionBody {body : Node root}
    (held : function.functionBody = some body) (within : body ∈ node.lineage) :
    function ∈ node.ancestors := by
  refine mem_ancestors_of_mem_lineage ?_ within
  rw [ancestors_of_mem_offspring (mem_offspring_of_field held)]
  exact List.mem_cons_self

end Node

namespace Detectors.Functions

variable {root : Tree} {context : Context root} {function node outer body : Node root}
  {name : String}

/-! ### Captures -/

/-- A place in the own body of a function, outside the functions inside it that run later. -/
def StandsIn (function node : Node root) : Prop :=
  ∃ body, function.functionBody = some body ∧ node ∈ body.descendants ∧
    ∀ inner ∈ node.ancestors, function ∈ inner.ancestors → inner.isDeferred = false

/-- In the own body of a function stands an identifier whose name is declared by a function around
it, and not by the function itself. -/
structure IsCapture (function node : Node root) : Prop where
  identifier : node.kind = .identifier
  own : StandsIn function node
  around : ∃ outer ∈ function.ancestors, outer.isFunction = true ∧ outer.Declares node.text
  free : ¬function.Declares node.text

/-! ### The search -/

/-- A place that is reached from the body of a function without going into the functions below it
that run later. -/
def IsReached (function node : Node root) : Prop :=
  ∃ body, function.functionBody = some body ∧ node ∈ body.descendants ∧
    ∀ inner ∈ node.ancestors, body ∈ inner.ancestors → inner.isDeferred = false

/-- A function has a name among those that the search takes for its own: a parameter, or a variable
with a bare name that is declared where the search gets to from its body. -/
def Lends (function : Node root) (name : String) : Prop :=
  name ∈ function.parameterNames ∨
    ∃ node, IsReached function node ∧ node.isOneOf Node.declarationKinds = true ∧
      ∃ declarator ∈ node.declarators, declarator.declaratorName = some name

/-- What the search looks for: an identifier that is reached, with a name that a function around
lends, and that is no parameter. -/
structure SeemsCaptured (function node : Node root) : Prop where
  identifier : node.kind = .identifier
  reached : IsReached function node
  lent : ∃ outer ∈ function.ancestors, outer.isDeferred = true ∧ Lends outer node.text
  unbound : node.text ∉ function.parameterNames

theorem mem_ownNodes_iff : node ∈ ownNodes function ↔ IsReached function node := by
  unfold ownNodes IsReached
  cases function.functionBody with
  | none => simp
  | some body =>
    simp only [Option.some.injEq, exists_eq_left']
    exact Node.mem_walk_iff

theorem mem_localNames_iff : name ∈ localNames function ↔ Lends function name := by
  rw [localNames, List.mem_append, List.mem_flatMap, Lends]
  simp only [List.mem_filter, mem_ownNodes_iff, and_assoc, List.mem_filterMap]

/-- The search finds a function if something seems captured in it. -/
theorem captures_iff : captures function = true ↔ ∃ node, SeemsCaptured function node := by
  have lent : ∀ name, name ∈ (function.ancestors.filter Node.isDeferred).flatMap localNames ↔
      ∃ outer ∈ function.ancestors, outer.isDeferred = true ∧ Lends outer name := by
    simp only [List.mem_flatMap, List.mem_filter, mem_localNames_iff, and_assoc, implies_true]
  simp only [captures, List.any_eq_true, Bool.and_eq_true, beq_iff_eq, Bool.not_eq_true',
    List.contains_iff_mem, ← Bool.not_eq_true, lent, mem_ownNodes_iff]
  constructor
  · rintro ⟨node, reached, ⟨identifier, lent⟩, unbound⟩
    exact ⟨node, identifier, reached, lent, unbound⟩
  · rintro ⟨node, identifier, reached, lent, unbound⟩
    exact ⟨node, reached, ⟨identifier, lent⟩, unbound⟩

theorem mem_plainFunctions_iff :
    function ∈ plainFunctions context ↔
      function ∈ context.index.nodes ∧ function.kind ∈ Node.deferredKinds := by
  rw [plainFunctions, Context.ofKinds, Index.mem_ofKinds_iff]

/-- The first function that passes a test is reported, and no other. -/
theorem exists_firstFunction_iff {test : Node root → Bool} {details : String} :
    (∃ finding ∈ firstFunction context test details, finding.site = some function) ↔
      ∃ before after, plainFunctions context = before ++ function :: after ∧
        test function = true ∧ ∀ earlier ∈ before, ¬test earlier = true := by
  have found : (∃ finding ∈ firstFunction context test details, finding.site = some function) ↔
      (plainFunctions context).find? test = some function := by
    simp [firstFunction, Finding.of]
  rw [found, List.find?_eq_some_iff_append]
  simp only [Bool.not_eq_true', Bool.not_eq_true]
  constructor
  · rintro ⟨passed, before, after, split, others⟩
    exact ⟨before, after, split, passed, others⟩
  · rintro ⟨before, after, split, passed, others⟩
    exact ⟨passed, before, after, split, others⟩

/-- If something seems captured in some function, one is reported where something does. -/
theorem exists_closureBasics (listed : function ∈ plainFunctions context)
    (found : captures function = true) :
    ∃ first ∈ plainFunctions context, captures first = true ∧
      ∃ finding ∈ closureBasics context, finding.site = some first := by
  obtain ⟨first, selected⟩ :=
    Option.isSome_iff_exists.1 (List.find?_isSome.2 ⟨function, listed, found⟩)
  refine ⟨first, List.mem_of_find?_eq_some selected, List.find?_some selected, ?_⟩
  refine ⟨_, List.mem_map.2 ⟨first, Option.mem_toList.2 selected, rfl⟩, rfl⟩

/-! ### What is misjudged -/

/-- What seems captured is misjudged: the body of the function is a function that runs later, and
what is reached stands inside that one; or the function has a variable of the name; or no function
around it declares the name. -/
inductive IsMisjudged (function node : Node root) : Prop
  | inner {body : Node root} (held : function.functionBody = some body)
    (deferred : body.isDeferred = true)
  | shadowed (own : function.HasVariable node.text)
  | stranger (undeclared : ∀ outer ∈ function.ancestors, outer.isFunction = true →
    ¬outer.Declares node.text)

/-- What is reached stands in the own body of a function unless the body runs later. -/
theorem standsIn_iff (atOnce : node.isDeferred = false) :
    StandsIn function node ↔
      IsReached function node ∧
        ∀ body, function.functionBody = some body → body.isDeferred = false := by
  constructor
  · rintro ⟨body, held, met, outside⟩
    have within := (Node.mem_descendants_iff.1 met).1
    constructor
    · refine ⟨body, held, met, fun inner above below => outside inner above ?_⟩
      exact Node.mem_ancestors_of_functionBody held (List.mem_cons_of_mem _ below)
    · intro other held'
      obtain rfl : body = other := Option.some.inj (held.symm.trans held')
      rcases Node.mem_lineage_iff.1 within with rfl | above
      · exact atOnce
      · exact outside body above (Node.mem_ancestors_of_functionBody held List.mem_cons_self)
  · rintro ⟨⟨body, held, met, outside⟩, own⟩
    refine ⟨body, held, met, fun inner above below => ?_⟩
    have next := Node.ancestors_of_mem_offspring (Node.mem_offspring_of_field held)
    rcases Node.eq_or_below_of_mem_lineage next (Node.mem_descendants_iff.1 met).1
        (List.mem_cons_of_mem _ above) below with rfl | lower
    · exact own inner held
    · exact outside inner above lower

/-- What seems captured is a capture unless it is misjudged. -/
theorem isCapture_iff (seems : SeemsCaptured function node) :
    IsCapture function node ↔ ¬IsMisjudged function node := by
  have atOnce : node.isDeferred = false := by
    rw [Node.isDeferred, Node.isOneOf, seems.identifier]
    rfl
  constructor
  · rintro ⟨-, own, ⟨outer, above, kind, declares⟩, free⟩ (⟨held, deferred⟩ | kept | undeclared)
    · rw [((standsIn_iff atOnce).1 own).2 _ held] at deferred
      cases deferred
    · exact free (.inr kept)
    · exact undeclared outer above kind declares
  · intro right
    refine ⟨seems.identifier, (standsIn_iff atOnce).2 ⟨seems.reached, fun body held => ?_⟩, ?_, ?_⟩
    · rw [← Bool.not_eq_true]
      exact fun deferred => right (.inner held deferred)
    · by_contra none
      push Not at none
      exact right (.stranger none)
    · rintro (parameter | kept)
      · exact seems.unbound parameter
      · exact right (.shadowed kept)

/-- A name that a function lends is declared by it, or is a variable of a method inside it, or of
the function that is its body. -/
theorem Lends.declares_or (lends : Lends outer name) (kind : outer.isDeferred = true) :
    outer.Declares name ∨ ∃ owner, owner.HasVariable name ∧ outer ∈ owner.ancestors ∧
      (outer.functionBody = some owner ∨ owner.kind = .methodDefinition) := by
  rcases lends with parameter | ⟨node, ⟨body, held, met, outside⟩, declares, declarator, listed, named⟩
  · exact .inl (.inl parameter)
  · have within := (Node.mem_descendants_iff.1 met).1
    obtain ⟨owner, owns, higher⟩ := Node.exists_owns
      (Node.mem_ancestors_of_functionBody held within) (Node.isFunction_of_isDeferred kind)
    have kept : owner.HasVariable name :=
      ⟨node, owns, Node.mem_variableNames_of_declarator declares listed named⟩
    rcases Node.mem_lineage_iff.1 higher with rfl | below
    · exact .inl (.inr kept)
    · refine .inr ⟨owner, kept, below, ?_⟩
      -- The nearest function is the body, or the walk has gone into it below the body.
      have next := Node.ancestors_of_mem_offspring (Node.mem_offspring_of_field held)
      rcases Node.eq_or_below_of_mem_lineage next within (List.mem_cons_of_mem _ owns.above) below
        with rfl | lower
      · exact .inl held
      · exact .inr (Node.kind_of_not_isDeferred owns.kind (outside owner owns.above lower))

/-- A name that no function around declares is that of a variable that is out of reach: it belongs
to a method inside a function around, or to the function that is the body of one. -/
theorem exists_stranger (seems : SeemsCaptured function node)
    (undeclared : ∀ outer ∈ function.ancestors, outer.isFunction = true →
      ¬outer.Declares node.text) :
    ∃ outer ∈ function.ancestors, ∃ owner, owner.HasVariable node.text ∧
      outer ∈ owner.ancestors ∧ owner ∉ function.ancestors ∧
        (outer.functionBody = some owner ∨ owner.kind = .methodDefinition) := by
  obtain ⟨outer, above, kind, lends⟩ := seems.lent
  rcases lends.declares_or kind with declares | ⟨owner, kept, below, inside⟩
  · exact absurd declares (undeclared outer above (Node.isFunction_of_isDeferred kind))
  · refine ⟨outer, above, owner, kept, below, fun around => ?_, inside⟩
    obtain ⟨declaration, owns, named⟩ := kept
    exact undeclared owner around owns.kind (.inr ⟨declaration, owns, named⟩)

/-- The first function is reported in which an identifier seems captured, and no other. What seems
captured is a capture exactly unless the body of the function is itself a function that runs later,
or the function has a variable of the name, or no function around declares the name. In the last
case the name is that of a variable of a method inside a function around, or of the function that is
the body of one, and this is none of the functions around. -/
theorem closureBasics_right_iff (root : Tree) (context : Context root) :
    (∀ function, (∃ finding ∈ closureBasics context, finding.site = some function) ↔
      ∃ before after, plainFunctions context = before ++ function :: after ∧
        (∃ node, SeemsCaptured function node) ∧
          ∀ earlier ∈ before, ¬∃ node, SeemsCaptured earlier node) ∧
    ∀ function node : Node root, SeemsCaptured function node →
      (IsCapture function node ↔ ¬IsMisjudged function node) ∧
      ((∀ outer ∈ function.ancestors, outer.isFunction = true → ¬outer.Declares node.text) →
        ∃ outer ∈ function.ancestors, ∃ owner, owner.HasVariable node.text ∧
          outer ∈ owner.ancestors ∧ owner ∉ function.ancestors ∧
            (outer.functionBody = some owner ∨ owner.kind = .methodDefinition)) := by
  refine ⟨fun function => ?_, fun function node seems =>
    ⟨isCapture_iff seems, exists_stranger seems⟩⟩
  rw [closureBasics, exists_firstFunction_iff]
  simp only [captures_iff]

/-- In `(n) => (x) => n` the inner function captures `n`. -/
theorem closureBasics_right_curried :
    let root : Tree := .node { name := "program" }
      [.node { name := "expression_statement" }
        [.node { name := "arrow_function" }
          [.node { name := "formal_parameters", role := some .parameters }
            [.node { name := "identifier", text := "n" } []],
           .node { name := "arrow_function", role := some .body }
            [.node { name := "formal_parameters", role := some .parameters }
              [.node { name := "identifier", text := "x" } []],
             .node { name := "identifier", role := some .body, text := "n" } []]]]]
    let context : Context root :=
      { index := Index.build root (.atMost 100), scanDepth := .int 20, treeDepth := .int 100 }
    ∃ function node, (∃ finding ∈ closureBasics context, finding.site = some function) ∧
      SeemsCaptured function node ∧ IsCapture function node := by
  intro root context
  have caught : ∃ function ∈ context.index.nodes, function.kind ∈ Node.deferredKinds ∧
      captures function = true := by
    decide +kernel
  have whole : ∀ function ∈ context.index.nodes, captures function = true →
      ∀ body ∈ function.functionBody, body.isDeferred = false := by
    decide +kernel
  have bare : ∀ part ∈ root.parts, part.label.kind ∉ Node.declarationKinds ∧
      part.label.kind ≠ .forInStatement := by
    decide +kernel
  obtain ⟨other, met, kind, captured⟩ := caught
  obtain ⟨function, listed, found, reported⟩ :=
    exists_closureBasics (mem_plainFunctions_iff.2 ⟨met, kind⟩) captured
  obtain ⟨node, seems⟩ := captures_iff.1 found
  have novars : ∀ (owner : Node root) (name : String), ¬owner.HasVariable name := by
    rintro owner name ⟨declaration, -, named⟩
    obtain ⟨other, noLoop⟩ := bare _ declaration.tree_mem_parts
    have declares : declaration.isOneOf Node.declarationKinds = false := by
      simpa [Node.isOneOf, Node.kind, Node.label] using other
    have loops : declaration.kind ≠ .forInStatement := noLoop
    simp [Node.variableNames, declares, loops] at named
  have right : ¬IsMisjudged function node := by
    rintro (⟨held, deferred⟩ | own | undeclared)
    · rw [whole function (mem_plainFunctions_iff.1 listed).1 found _ held] at deferred
      cases deferred
    · exact novars _ _ own
    · obtain ⟨-, -, owner, kept, -⟩ :=
        ((closureBasics_right_iff root context).2 function node seems).2 undeclared
      exact novars _ _ kept
  exact ⟨function, node, reported, seems,
    ((closureBasics_right_iff root context).2 function node seems).1.2 right⟩

/-- In `function outer(x) { function inner() { const x = 1; return x; } }` the inner function is
reported. It uses its own variable only, and captures nothing. -/
theorem closureBasics_shadowed :
    let root : Tree := .node { name := "program" }
      [.node { name := "function_declaration" }
        [.node { name := "identifier", role := some .name, text := "outer" } [],
         .node { name := "formal_parameters", role := some .parameters }
          [.node { name := "identifier", text := "x" } []],
         .node { name := "statement_block", role := some .body }
          [.node { name := "function_declaration" }
            [.node { name := "identifier", role := some .name, text := "inner" } [],
             .node { name := "formal_parameters", role := some .parameters } [],
             .node { name := "statement_block", role := some .body }
              [.node { name := "lexical_declaration" }
                [.node { name := "const", named := false } [],
                 .node { name := "variable_declarator" }
                  [.node { name := "identifier", role := some .name, text := "x" } [],
                   .node { name := "number", role := some .value, text := "1" } []]],
               .node { name := "return_statement" }
                [.node { name := "identifier", text := "x" } []]]]]]]
    let context : Context root :=
      { index := Index.build root (.atMost 100), scanDepth := .int 20, treeDepth := .int 100 }
    ∃ function, (∃ finding ∈ closureBasics context, finding.site = some function) ∧
      ¬∃ node, IsCapture function node := by
  intro root context
  have caught : ∃ function ∈ context.index.nodes, function.kind ∈ Node.deferredKinds ∧
      captures function = true := by
    decide +kernel
  have own : ∀ function ∈ context.index.nodes, captures function = true →
      function.isFunction = true ∧
        (∃ declaration ∈ context.index.nodes, function ∈ declaration.ancestors ∧
          (∀ inner ∈ declaration.ancestors, function ∈ inner.ancestors →
            inner.isFunction = false) ∧
          "x" ∈ declaration.variableNames) ∧
        ∀ body ∈ function.functionBody, ∀ node ∈ body.descendants,
          node.kind = .identifier → node.text = "x" := by
    decide +kernel
  obtain ⟨other, met, deferred, captured⟩ := caught
  obtain ⟨function, listed, found, reported⟩ :=
    exists_closureBasics (mem_plainFunctions_iff.2 ⟨met, deferred⟩) captured
  obtain ⟨kind, ⟨declaration, -, above, nearest, named⟩, only⟩ :=
    own function (mem_plainFunctions_iff.1 listed).1 found
  refine ⟨function, reported, ?_⟩
  rintro ⟨node, identifier, ⟨body, held, met, -⟩, -, free⟩
  refine free (.inr ⟨declaration, ⟨above, kind, nearest⟩, ?_⟩)
  rw [only body held node met identifier]
  exact named

end Detectors.Functions

end SnippetTutor
