import SnippetTutor.Proofs.Initializers
import SnippetTutor.Proofs.Regions

/-!
# Code that runs later

Two searches are after code that runs at once: uses of variables before they have their values, and
changes of an array by the callback that is run over it. Both pass over the inside of functions,
since it runs later. What they take for a function is a declaration, a function expression or an
arrow function, and no method, so the inside of a method is searched as if it ran at once.

* `IsSearched`: a construct is in the region that is searched from a start. It is inside a function
  there only if inside a method (`IsSearched.inside_iff`);
* `exists_searched_of_mem_earlyUses` and `exists_mem_earlyUses_of_searched`: what is reported of
  variables is in such a region, and whatever is in one is reported;
* `exists_runsOver_of_mem_selfMutations` and `exists_selfMutation_iff`: the same for changes;
* `reports_inside_methods` puts this together for both searches.
-/

namespace SnippetTutor.Detectors.Hazards

variable {root : Tree} {context : Context root} {limit : DepthLimit} {start site : Node root}

/-- A construct is in the region that is searched from a start: the start is no function that is
passed over, and the construct is met below it, as deep as a limit allows, inside none either. -/
structure IsSearched (limit : DepthLimit) (start site : Node root) : Prop where
  atOnce : start.isDeferred = false
  met : site ∈ start.walk Node.whole limit
  outside : ¬Node.StandsInside Node.deferredKinds start site

theorem mem_walk_iff_isSearched (atOnce : start.isDeferred = false) :
    site ∈ start.walk Node.isDeferred limit ↔ IsSearched limit start site := by
  have met : site ∈ start.walk Node.isDeferred limit ↔
      site ∈ start.walk Node.whole limit ∧ ¬Node.StandsInside Node.deferredKinds start site :=
    Node.mem_walk_isOneOf_iff atOnce
  rw [met]
  exact ⟨fun both => ⟨atOnce, both.1, both.2⟩, fun searched => ⟨searched.met, searched.outside⟩⟩

/-- The functions that a construct of the region stands inside of are methods. -/
theorem IsSearched.inside_iff (searched : IsSearched limit start site) :
    Node.StandsInside Node.functionKinds start site ↔
      Node.StandsInside [.methodDefinition] start site := by
  have kinds : Node.functionKinds = Node.deferredKinds ++ [.methodDefinition] := rfl
  rw [kinds, Node.standsInside_append, or_iff_right searched.outside]

/-! ### Uses of variables before their values -/

/-- A construct uses a variable on a line before the one on which it gets its value. -/
def UsesEarly (context : Context root) (name : String) (site : Node root) : Prop :=
  ∃ hazard, earlyUse (initializerLines context.statements) (declaredFunctions context.statements)
    site = some (name, hazard)

/-- What is reported is in the region searched from a statement of the program. -/
theorem exists_searched_of_mem_earlyUses {hazards : List (Hazard root)}
    (found : earlyUses context = .ok hazards) {hazard : Hazard root}
    (reported : hazard ∈ hazards) :
    ∃ statement ∈ context.statements, ∃ limit, context.scanDepth.depthLimit = .ok limit ∧
      IsSearched limit statement hazard.site := by
  obtain ⟨statement, listed, atOnce, limit, limited, node, met, name, use⟩ :=
    exists_walk_of_mem found reported
  obtain ⟨-, -, line, -, -, -, rfl⟩ := earlyUse_eq_some_iff.1 use
  exact ⟨statement, listed, limit, limited, (mem_walk_iff_isSearched atOnce).1 met⟩

/-- Under a limit that makes sense there is a report of every variable that is used early in the
region searched from a statement. -/
theorem exists_mem_earlyUses_of_searched (limited : context.scanDepth.depthLimit = .ok limit) :
    ∃ hazards, earlyUses context = .ok hazards ∧
      ∀ statement ∈ context.statements, isVarStatement statement = false →
        ∀ site name, IsSearched limit statement site → UsesEarly context name site →
          ∃ hazard ∈ hazards, hazard.site.text = name := by
  by_cases empty : (initializerLines context.statements).isEmpty = true
  · refine ⟨[], by rw [earlyUses, if_pos empty], ?_⟩
    rintro statement - - site name - ⟨hazard, use⟩
    obtain ⟨-, -, line, known, -⟩ := earlyUse_eq_some_iff.1 use
    rw [List.isEmpty_iff.1 empty] at known
    cases known
  · have each : ∀ statement ∈ context.statements.filter fun statement =>
        !isVarStatement statement && !statement.isDeferred,
        ∃ walk, context.scan Node.isDeferred statement = .ok walk := by
      intro statement _
      rw [Context.scan, limited]
      exact ⟨_, rfl⟩
    obtain ⟨walks, walked, all⟩ := exists_mapM_eq_ok each
    refine ⟨_, by rw [earlyUses, if_neg empty, walked]; rfl, ?_⟩
    intro statement listed other site name searched use
    have chosen : statement ∈ context.statements.filter fun statement =>
        !isVarStatement statement && !statement.isDeferred :=
      List.mem_filter.2 ⟨listed, by rw [other, searched.atOnce]; rfl⟩
    have taken : statement.walk Node.isDeferred limit ∈ walks :=
      all statement chosen _ (by rw [Context.scan, limited]; rfl)
    have met := (mem_walk_iff_isSearched searched.atOnce).2 searched
    obtain ⟨first, use⟩ := use
    obtain ⟨hazard, reported, candidate⟩ := Hazard.exists_mem_oncePerName
      (List.mem_filterMap.2 ⟨site, List.mem_flatten.2 ⟨_, taken, met⟩, use⟩)
    obtain ⟨node, -, use⟩ := List.mem_filterMap.1 candidate
    obtain ⟨-, text, line, -, -, -, rfl⟩ := earlyUse_eq_some_iff.1 use
    exact ⟨_, reported, text⟩

/-! ### Callbacks that change their array -/

/-- A call runs a callback over an array that is known by name. -/
structure RunsOver (context : Context root) (call : Node root) (array : String)
    (callback : Node root) : Prop where
  listed : ∃ method, (call, method) ∈ context.methodCalls iterationMethods
  named : call.receiver.bind Node.identifierName = some array
  given : call.arguments.head? = some callback
  literal : callback.isFunctionLiteral = true

/-- A report is about the first change of an array by a callback that is run over it. -/
theorem exists_runsOver_of_mem_selfMutations {hazard : Hazard root}
    (reported : hazard ∈ selfMutations context) :
    ∃ call array callback, RunsOver context call array callback ∧
      ∃ change, selfMutation callback array = some (hazard.site, change) := by
  obtain ⟨name, listed⟩ := Hazard.exists_name_of_mem_oncePerName reported
  obtain ⟨⟨call, method⟩, member, made⟩ := List.mem_filterMap.1 listed
  dsimp only at made
  split at made
  · rename_i array callback named given
    split at made
    · rename_i literal
      obtain ⟨⟨site, change⟩, found, same⟩ := Option.map_eq_some_iff.1 made
      cases same
      exact ⟨call, _, callback, ⟨⟨method, member⟩, named, given, literal⟩, change, found⟩
    · cases made
  · cases made

/-- What is searched for changes are the parts of the callback. -/
theorem mem_searched_parts_iff {callback : Node root} :
    (site ∈ ((callbackParts callback).filter fun part => !part.isDeferred).flatMap
      (Node.descendantsOutside Node.isDeferred)) ↔
      ∃ part ∈ callbackParts callback, IsSearched .unlimited part site := by
  simp only [List.mem_flatMap, List.mem_filter, Bool.not_eq_true', and_assoc]
  constructor
  · rintro ⟨part, listed, atOnce, met⟩
    exact ⟨part, listed, (mem_walk_iff_isSearched atOnce).1 met⟩
  · rintro ⟨part, listed, searched⟩
    exact ⟨part, listed, searched.atOnce, (mem_walk_iff_isSearched searched.atOnce).2 searched⟩

/-- The change that is found is in the region searched from a part of the callback. -/
theorem exists_part_of_selfMutation {callback : Node root} {array change : String}
    (found : selfMutation callback array = some (site, change)) :
    ∃ part ∈ callbackParts callback, IsSearched .unlimited part site := by
  obtain ⟨node, met, changes⟩ := List.exists_of_findSome?_eq_some found
  obtain ⟨_, -, same⟩ := Option.map_eq_some_iff.1 changes
  cases same
  exact mem_searched_parts_iff.1 met

/-- A change is found if there is one in the region searched from a part of the callback. -/
theorem exists_selfMutation_iff {callback : Node root} {array : String} :
    (selfMutation callback array).isSome = true ↔
      ∃ part ∈ callbackParts callback, ∃ site, IsSearched .unlimited part site ∧
        (arrayChange array site).isSome = true := by
  rw [selfMutation, List.findSome?_isSome_iff]
  constructor
  · rintro ⟨site, met, changes⟩
    rw [Option.isSome_map] at changes
    obtain ⟨part, listed, searched⟩ := mem_searched_parts_iff.1 met
    exact ⟨part, listed, site, searched, changes⟩
  · rintro ⟨part, listed, site, searched, changes⟩
    refine ⟨site, mem_searched_parts_iff.2 ⟨part, listed, searched⟩, ?_⟩
    rwa [Option.isSome_map]

/-- What is reported stands inside no declaration of a function, function expression or arrow
function of the region that was searched: a statement of the program where a variable is used before
it has a value, and a part of the callback where an array is changed by its own callback. What
stands inside a method is searched and reported like what stands outside of it, so a report stands
inside a function of the region exactly if it stands inside a method. -/
theorem reports_inside_methods (root : Tree) (context : Context root) :
    (∀ hazards, earlyUses context = .ok hazards → ∀ hazard ∈ hazards,
      ∃ statement ∈ context.statements, ∃ limit, context.scanDepth.depthLimit = .ok limit ∧
        IsSearched limit statement hazard.site) ∧
    (∀ limit, context.scanDepth.depthLimit = .ok limit →
      ∃ hazards, earlyUses context = .ok hazards ∧
        ∀ statement ∈ context.statements, isVarStatement statement = false →
          ∀ site name, IsSearched limit statement site → UsesEarly context name site →
            ∃ hazard ∈ hazards, hazard.site.text = name) ∧
    (∀ hazard ∈ selfMutations context, ∃ call array callback,
      RunsOver context call array callback ∧
        (∃ change, selfMutation callback array = some (hazard.site, change)) ∧
          ∃ part ∈ callbackParts callback, IsSearched .unlimited part hazard.site) ∧
    (∀ (callback : Node root) (array : String), (selfMutation callback array).isSome = true ↔
      ∃ part ∈ callbackParts callback, ∃ site, IsSearched .unlimited part site ∧
        (arrayChange array site).isSome = true) ∧
    ∀ limit (start site : Node root), IsSearched limit start site →
      (Node.StandsInside Node.functionKinds start site ↔
        Node.StandsInside [.methodDefinition] start site) := by
  refine ⟨?_, ?_, ?_, fun _ _ => exists_selfMutation_iff, fun _ _ _ => IsSearched.inside_iff⟩
  · intro hazards found hazard reported
    exact exists_searched_of_mem_earlyUses found reported
  · intro limit limited
    exact exists_mem_earlyUses_of_searched limited
  · intro hazard reported
    obtain ⟨call, array, callback, runs, change, found⟩ :=
      exists_runsOver_of_mem_selfMutations reported
    exact ⟨call, array, callback, runs, ⟨change, found⟩, exists_part_of_selfMutation found⟩

/-- In `class A { m() { y; } }`, `xs.map(x => ({ m() { xs.pop(); } }))` and `var y = 1`, each on a
line of its own, the use of `y` and the change of `xs` are reported, although both stand inside
methods that are not called. -/
theorem reports_inside_uncalled_methods :
    let root : Tree := .node { name := "program" }
      [.node { name := "class_declaration" }
        [.node { name := "identifier", role := some .name, text := "A" } [],
         .node { name := "class_body", role := some .body }
          [.node { name := "method_definition" }
            [.node { name := "property_identifier", role := some .name, text := "m" } [],
             .node { name := "formal_parameters", role := some .parameters } [],
             .node { name := "statement_block", role := some .body }
              [.node { name := "expression_statement" }
                [.node { name := "identifier", text := "y" } []]]]]],
       .node { name := "expression_statement", row := 1 }
        [.node { name := "call_expression", row := 1 }
          [.node { name := "member_expression", role := some .function, row := 1 }
            [.node { name := "identifier", role := some .object, text := "xs", row := 1 } [],
             .node { name := "property_identifier", role := some .property, text := "map" } []],
           .node { name := "arguments", role := some .arguments, row := 1 }
            [.node { name := "arrow_function", row := 1 }
              [.node { name := "identifier", role := some .parameter, text := "x", row := 1 } [],
               .node { name := "parenthesized_expression", role := some .body, row := 1 }
                [.node { name := "object", row := 1 }
                  [.node { name := "method_definition", row := 1 }
                    [.node { name := "property_identifier", role := some .name, text := "m" } [],
                     .node { name := "formal_parameters", role := some .parameters } [],
                     .node { name := "statement_block", role := some .body, row := 1 }
                      [.node { name := "expression_statement", row := 1 }
                        [.node { name := "call_expression", row := 1 }
                          [.node { name := "member_expression", role := some .function }
                            [.node { name := "identifier", role := some .object, text := "xs" } [],
                             .node
                              { name := "property_identifier"
                                role := some .property
                                text := "pop" } []],
                           .node { name := "arguments", role := some .arguments } []]]]]]]]]]],
       .node { name := "variable_declaration", row := 2 }
        [.node { name := "variable_declarator", row := 2 }
          [.node { name := "identifier", role := some .name, text := "y", row := 2 } [],
           .node { name := "number", role := some .value, text := "1", row := 2 } []]]]
    let context : Context root :=
      { index := Index.build root (.atMost 100), scanDepth := .int 20, treeDepth := .int 100 }
    (∃ hazards, earlyUses context = .ok hazards ∧ ∃ hazard ∈ hazards,
      ∃ statement ∈ context.statements,
        Node.StandsInside Node.functionKinds statement hazard.site) ∧
    ∃ hazard ∈ selfMutations context, ∃ entry ∈ context.methodCalls iterationMethods,
      ∃ callback ∈ entry.1.arguments.head?, ∃ part ∈ callbackParts callback,
        Node.StandsInside Node.functionKinds part hazard.site := by
  intro root context
  have computed : (earlyUses context).toOption.any (fun hazards =>
      decide (∃ hazard ∈ hazards, ∃ statement ∈ context.statements,
        Node.StandsInside Node.functionKinds statement hazard.site)) = true := by
    decide +kernel
  obtain ⟨hazards, found, inside⟩ := exists_ok_of_any computed
  exact ⟨⟨hazards, found, of_decide_eq_true inside⟩, by decide +kernel⟩

end SnippetTutor.Detectors.Hazards
