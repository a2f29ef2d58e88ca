import Mathlib.Data.List.Forall2
import SnippetTutor.Shape.Function

/-!
# Parameters across grammars

Some grammars list the patterns of a function's parameters as they are; the others wrap each of them
in a parameter with fields for its pattern and its default value. Both ways the parameters come out
the same: what is bound, the default value, whether it takes the remaining arguments, and the name.

* `Tree.bare` is a tree apart from the part it plays under its parent; two trees that are the same
  apart from this part bind the same names (`Node.boundNames_congr`);
* `Tree.WrappedAs` relates a parameter to its wrapped form, `Tree.Matches` two lists whose constructs
  correspond, with comments and tokens anywhere between them, and `Tree.FunctionsMatch` two functions
  whose parameters do;
* `Parameter.Shape` is what a parameter says, and `Tree.shapes` reads the shapes off a function;
  `Tree.WrappedAs.shape?_eq` compares single parameters, `Tree.FunctionsMatch.shapes_eq` lists of any
  length, and `Node.map_shape_parameters` says that the parameters of a function have these shapes;
* `Node.parameters_agree` puts this together.
-/

namespace SnippetTutor

namespace Tree

variable {first second plain wrapper : Tree}

/-! ### Trees -/

/-- A tree apart from the part that it plays under its parent. -/
def bare (tree : Tree) : Tree := .node { tree.label with role := none } tree.subtrees

/-- The first of the trees directly below that plays the given part. -/
def field (tree : Tree) (role : Role) : Option Tree :=
  tree.subtrees.find? fun below => below.label.role == some role

/-- A named construct that is no comment. -/
def isConstruct (tree : Tree) : Bool := tree.label.named && tree.label.name != "comment"

theorem kind_of_bare_eq (same : first.bare = second.bare) : first.label.kind = second.label.kind :=
  congrArg (fun tree => tree.label.kind) same

theorem text_of_bare_eq (same : first.bare = second.bare) : first.label.text = second.label.text :=
  congrArg (fun tree => tree.label.text) same

theorem subtrees_of_bare_eq (same : first.bare = second.bare) : first.subtrees = second.subtrees :=
  congrArg (fun tree => tree.subtrees) same

/-! ### Wrapped parameters -/

/-- Patterns that bind a single argument. -/
def bindingKinds : List Kind := [.identifier, .objectPattern, .arrayPattern]

/-- The given part of a wrapper is taken by a tree. -/
def Holds (wrapper : Tree) (role : Role) (tree : Tree) : Prop :=
  ∃ held, wrapper.field role = some held ∧ held.bare = tree.bare

/-- A parameter and the form in which it is wrapped. A pattern becomes the pattern of the wrapper; of
a pattern with a default value, one side becomes the pattern and the other the value. What else the
wrapper holds, such as a type, is left open. -/
inductive WrappedAs (plain wrapper : Tree) : Prop
  | binding (kind : plain.label.kind ∈ bindingKinds)
    (wraps : wrapper.label.kind = .requiredParameter ∨ wrapper.label.kind = .optionalParameter)
    (pattern : wrapper.Holds .pattern plain) (noValue : wrapper.field .value = none)
  | default {left right : Tree} (kind : plain.label.kind = .assignmentPattern)
    (binds : plain.field .left = some left) (leftKind : left.label.kind ∈ bindingKinds)
    (defaults : plain.field .right = some right)
    (wraps : wrapper.label.kind = .requiredParameter ∨ wrapper.label.kind = .optionalParameter)
    (pattern : wrapper.Holds .pattern left) (value : wrapper.Holds .value right)
  | rest (kind : plain.label.kind = .restPattern) (wraps : wrapper.label.kind = .requiredParameter)
    (pattern : wrapper.Holds .pattern plain) (noValue : wrapper.field .value = none)

/-- The constructs of two lists correspond one by one; comments and tokens stand anywhere between
them. -/
inductive Matches (related : Tree → Tree → Prop) : List Tree → List Tree → Prop
  | nil : Matches related [] []
  | both {first second : Tree} {firsts seconds : List Tree} (construct : first.isConstruct = true)
    (construct' : second.isConstruct = true) (relate : related first second)
    (others : Matches related firsts seconds) : Matches related (first :: firsts) (second :: seconds)
  | skipFirst {aside : Tree} {firsts seconds : List Tree} (idle : aside.isConstruct = false)
    (others : Matches related firsts seconds) : Matches related (aside :: firsts) seconds
  | skipSecond {aside : Tree} {firsts seconds : List Tree} (idle : aside.isConstruct = false)
    (others : Matches related firsts seconds) : Matches related firsts (aside :: seconds)

/-- Two functions have the same single parameter without a list, or none, and their parameter lists
correspond. -/
structure FunctionsMatch (related : Tree → Tree → Prop) (first second : Tree) : Prop where
  single : first.field .parameter = second.field .parameter
  lists : Option.Rel (fun list list' => Matches related list.subtrees list'.subtrees)
    (first.field .parameters) (second.field .parameters)

/-- Comments and tokens are left aside. -/
theorem Matches.forall₂ {related : Tree → Tree → Prop} {firsts seconds : List Tree}
    (matched : Matches related firsts seconds) :
    List.Forall₂ related (firsts.filter isConstruct) (seconds.filter isConstruct) := by
  induction matched with
  | nil => exact .nil
  | both construct construct' relate _ ih =>
    rw [List.filter_cons_of_pos construct, List.filter_cons_of_pos construct']
    exact .cons relate ih
  | skipFirst idle _ ih =>
    rw [List.filter_cons_of_neg (Bool.eq_false_iff.1 idle)]
    exact ih
  | skipSecond idle _ ih =>
    rw [List.filter_cons_of_neg (Bool.eq_false_iff.1 idle)]
    exact ih

end Tree

/-! ### Places -/

namespace Node

variable {root other : Tree} {node : Node root} {node' : Node other}

theorem map_tree_field (node : Node root) (role : Role) :
    (node.field role).map tree = node.tree.field role := by
  rw [field, Tree.field, ← map_tree_offspring, List.find?_map]
  rfl

theorem map_tree_children (node : Node root) :
    node.children.map tree = node.tree.subtrees.filter Tree.isConstruct := by
  rw [children, ← map_tree_offspring, List.filter_map]
  rfl

theorem map_tree_field_congr (same : node.tree.subtrees = node'.tree.subtrees) (role : Role) :
    (node.field role).map tree = (node'.field role).map tree := by
  rw [map_tree_field, map_tree_field, Tree.field, Tree.field, same]

theorem map_tree_children_congr (same : node.tree.subtrees = node'.tree.subtrees) :
    node.children.map tree = node'.children.map tree := by
  rw [map_tree_children, map_tree_children, same]

/-! ### Names -/

theorem ownName_congr (same : node.tree.bare = node'.tree.bare) : node.ownName = node'.ownName := by
  have kind : node.kind = node'.kind := Tree.kind_of_bare_eq same
  have text : node.text = node'.text := Tree.text_of_bare_eq same
  rw [ownName, ownName, kind, text]

theorem map_tree_innerPatterns_congr (same : node.tree.bare = node'.tree.bare) :
    node.innerPatterns.map tree = node'.innerPatterns.map tree := by
  have kind : node.kind = node'.kind := Tree.kind_of_bare_eq same
  have subtrees := Tree.subtrees_of_bare_eq same
  have children := map_tree_children_congr subtrees
  have fields : ∀ role, (node.field role).toList.map tree = (node'.field role).toList.map tree := by
    intro role
    rw [← Option.toList_map, ← Option.toList_map, map_tree_field_congr subtrees]
  rw [innerPatterns, innerPatterns, kind]
  split
  · exact fields .value
  · exact fields .left
  · exact fields .left
  · exact children
  · exact children
  · exact children
  · rfl

/-- Patterns that are the same apart from the part they play bind the same names. -/
theorem boundNames_congr {agenda : List (Node root)} {agenda' : List (Node other)}
    (same : agenda.map (fun node => node.tree.bare) = agenda'.map fun node => node.tree.bare) :
    boundNames agenda = boundNames agenda' := by
  fun_induction boundNames agenda generalizing agenda' with
  | case1 =>
    rw [List.map_nil, eq_comm, List.map_eq_nil_iff] at same
    rw [same, boundNames]
  | case2 pattern agenda ih =>
    cases agenda' with
    | nil => cases same
    | cons pattern' agenda' =>
      obtain ⟨first, others⟩ := List.cons.inj same
      have inner := congrArg (List.map Tree.bare) (map_tree_innerPatterns_congr first)
      rw [List.map_map, List.map_map] at inner
      rw [boundNames, ownName_congr first]
      refine congrArg _ (ih ?_)
      rw [List.map_append, List.map_append]
      exact congrArg₂ (· ++ ·) inner others

end Node

/-! ### Shapes -/

/-- What a parameter says, apart from where it stands and what it is wrapped in. -/
structure Parameter.Shape where
  pattern : Option Tree
  default : Option Tree
  rest : Bool
  name : Option String

/-- The shape of a parameter. -/
def Parameter.shape {root : Tree} (param : Parameter root) : Parameter.Shape where
  pattern := param.pattern.map fun pattern => pattern.tree.bare
  default := param.default.map fun default => default.tree.bare
  rest := param.rest
  name := param.name

namespace Tree

variable {first second plain wrapper : Tree}

/-- The name of an identifier. -/
def identifierText (tree : Tree) : Option String :=
  if tree.label.kind == .identifier then some tree.label.text else none

/-- The name that a pattern gives to a parameter: its own, or, if it takes the remaining arguments,
that of what stands first in it. -/
def parameterName (pattern : Tree) : Option String :=
  if pattern.label.kind == .restPattern then
    (pattern.subtrees.filter isConstruct).head?.bind identifierText
  else pattern.identifierText

/-- The shape of a parameter with the given parts. -/
def shapeWith (pattern default : Option Tree) (rest : Bool) : Parameter.Shape where
  pattern := pattern.map bare
  default := default.map bare
  rest := rest
  name := pattern.bind parameterName

/-- The shape of a parameter in a list; nothing for constructs that are no parameters. -/
def shape? (tree : Tree) : Option Parameter.Shape :=
  match tree.label.kind with
  | .requiredParameter | .optionalParameter =>
    (tree.field .pattern).map fun pattern =>
      shapeWith (some pattern) (tree.field .value) (pattern.label.kind == .restPattern)
  | .assignmentPattern => some (shapeWith (tree.field .left) (tree.field .right) false)
  | .restPattern => some (shapeWith (some tree) none true)
  | .identifier | .objectPattern | .arrayPattern => some (shapeWith (some tree) none false)
  | _ => none

/-- The shapes of the parameters in a list. -/
def listShapes (list : Tree) : List Parameter.Shape :=
  (list.subtrees.filter isConstruct).filterMap shape?

/-- The shapes of the parameters of a function. -/
def shapes (function : Tree) : List Parameter.Shape :=
  match function.field .parameter with
  | some single => [shapeWith (some single) none false]
  | none => ((function.field .parameters).map listShapes).getD []

/-! ### Shapes of wrapped parameters -/

theorem parameterName_congr (same : first.bare = second.bare) :
    first.parameterName = second.parameterName := by
  have kind := kind_of_bare_eq same
  have text := text_of_bare_eq same
  have subtrees := subtrees_of_bare_eq same
  rw [parameterName, parameterName, identifierText, identifierText, kind, text, subtrees]

theorem shapeWith_congr {default default' : Option Tree} {rest : Bool}
    (same : first.bare = second.bare) (same' : default.map bare = default'.map bare) :
    shapeWith (some first) default rest = shapeWith (some second) default' rest := by
  simp [shapeWith, same, same', parameterName_congr same]

theorem not_rest_of_mem_bindingKinds {kind : Kind} (binds : kind ∈ bindingKinds) :
    (kind == .restPattern) = false := by
  revert kind
  decide

theorem shape?_of_binds (binds : plain.label.kind ∈ bindingKinds) :
    plain.shape? = some (shapeWith (some plain) none false) := by
  have cases : plain.label.kind = .identifier ∨ plain.label.kind = .objectPattern ∨
      plain.label.kind = .arrayPattern := by
    simpa [bindingKinds] using binds
  rcases cases with kind | kind | kind
  · rw [shape?, kind]
  · rw [shape?, kind]
  · rw [shape?, kind]

theorem shape?_of_wraps {pattern : Tree}
    (wraps : wrapper.label.kind = .requiredParameter ∨ wrapper.label.kind = .optionalParameter)
    (held : wrapper.field .pattern = some pattern) :
    wrapper.shape? =
      some (shapeWith (some pattern) (wrapper.field .value) (pattern.label.kind == .restPattern)) := by
  rcases wraps with kind | kind
  · rw [shape?, kind, held]
    rfl
  · rw [shape?, kind, held]
    rfl

/-- A parameter and its wrapped form have the same shape. -/
theorem WrappedAs.shape?_eq (wrapped : plain.WrappedAs wrapper) :
    plain.shape? = wrapper.shape? := by
  cases wrapped with
  | binding kind wraps pattern noValue =>
    obtain ⟨held, found, same⟩ := pattern
    have single : (held.label.kind == .restPattern) = false := by
      rw [kind_of_bare_eq same]
      exact not_rest_of_mem_bindingKinds kind
    rw [shape?_of_binds kind, shape?_of_wraps wraps found, noValue, single,
      shapeWith_congr same rfl]
  | @default left right kind binds leftKind defaults wraps pattern value =>
    obtain ⟨held, found, same⟩ := pattern
    obtain ⟨held', found', same'⟩ := value
    have single : (held.label.kind == .restPattern) = false := by
      rw [kind_of_bare_eq same]
      exact not_rest_of_mem_bindingKinds leftKind
    have unwrapped : plain.shape? = some (shapeWith (some left) (some right) false) := by
      rw [shape?, kind, binds, defaults]
    have sides : (some held').map bare = (some right).map bare := congrArg some same'
    rw [unwrapped, shape?_of_wraps wraps found, found', single, shapeWith_congr same sides]
  | rest kind wraps pattern noValue =>
    obtain ⟨held, found, same⟩ := pattern
    have remaining : (held.label.kind == .restPattern) = true := by
      rw [kind_of_bare_eq same, kind]
      rfl
    have unwrapped : plain.shape? = some (shapeWith (some plain) none true) := by
      rw [shape?, kind]
    rw [unwrapped, shape?_of_wraps (.inl wraps) found, noValue, remaining, shapeWith_congr same rfl]

theorem filterMap_shape?_eq {related : Tree → Tree → Prop} {firsts seconds : List Tree}
    (aligned : List.Forall₂ related firsts seconds)
    (each : ∀ {param param' : Tree}, related param param' → param.shape? = param'.shape?) :
    firsts.filterMap shape? = seconds.filterMap shape? := by
  induction aligned with
  | nil => rfl
  | cons relate _ ih => rw [List.filterMap_cons, List.filterMap_cons, each relate, ih]

/-- Functions whose parameters correspond have parameters of the same shapes, in the same order. -/
theorem FunctionsMatch.shapes_eq {related : Tree → Tree → Prop}
    (matched : FunctionsMatch related first second)
    (each : ∀ {param param' : Tree}, related param param' → param.shape? = param'.shape?) :
    first.shapes = second.shapes := by
  have listed : ∀ {list? list'? : Option Tree},
      Option.Rel (fun list list' => Matches related list.subtrees list'.subtrees) list? list'? →
        list?.map listShapes = list'?.map listShapes := by
    intro list? list'? lists
    cases lists with
    | none => rfl
    | some matched => exact congrArg some (filterMap_shape?_eq matched.forall₂ each)
  rw [shapes, shapes, matched.single, listed matched.lists]

end Tree

namespace Node

variable {root other : Tree} {node : Node root} {node' : Node other}

/-! ### Parameters of a place -/

theorem name_eq (param : Parameter root) :
    param.name = (param.pattern.map tree).bind Tree.parameterName := by
  cases pattern : param.pattern with
  | none =>
    rw [Parameter.name, pattern]
    rfl
  | some node =>
    rw [Parameter.name, pattern, Option.bind_some, Option.map_some, Option.bind_some,
      Tree.parameterName, ← map_tree_children, List.head?_map, Option.bind_map]
    by_cases remaining : (node.kind == .restPattern) = true
    · rw [if_pos remaining]
      exact (if_pos remaining).symm
    · rw [if_neg remaining]
      exact (if_neg remaining).symm

theorem shape_eq (param : Parameter root) :
    param.shape = Tree.shapeWith (param.pattern.map tree) (param.default.map tree) param.rest := by
  rw [Parameter.shape, Tree.shapeWith, name_eq, Option.map_map, Option.map_map]
  rfl

/-- A place is read as the parameter that its tree says. -/
theorem map_shape_parameter? (node : Node root) :
    node.parameter?.map Parameter.shape = node.tree.shape? := by
  have same : node.tree.label.kind = node.kind := rfl
  -- Both kinds of wrappers are read alike, and so are all patterns that bind one argument.
  have wrapped : ((node.field .pattern).map fun pattern =>
      ({ node := node, pattern := some pattern, default := node.field .value,
         rest := pattern.kind == .restPattern } : Parameter root)).map Parameter.shape =
      (node.tree.field .pattern).map fun pattern =>
        Tree.shapeWith (some pattern) (node.tree.field .value)
          (pattern.label.kind == .restPattern) := by
    rw [← map_tree_field, ← map_tree_field, Option.map_map, Option.map_map]
    exact congrArg (fun f => Option.map f _) (funext fun pattern => shape_eq _)
  have assigned : Parameter.shape
      { node := node, pattern := node.field .left, default := node.field .right } =
      Tree.shapeWith (node.tree.field .left) (node.tree.field .right) false := by
    rw [shape_eq, map_tree_field, map_tree_field]
  have bound : ∀ rest, Parameter.shape { node := node, pattern := some node, rest := rest } =
      Tree.shapeWith (some node.tree) none rest := fun rest => shape_eq _
  rw [Tree.shape?, same, parameter?]
  cases node.kind with
  | requiredParameter | optionalParameter => exact wrapped
  | assignmentPattern => exact congrArg some assigned
  | restPattern => exact congrArg some (bound true)
  | identifier | objectPattern | arrayPattern => exact congrArg some (bound false)
  | _ => rfl

/-- The parameters of a function have the shapes that its tree says. -/
theorem map_shape_parameters (function : Node root) :
    function.parameters.map Parameter.shape = function.tree.shapes := by
  have single := map_tree_field function .parameter
  have list := map_tree_field function .parameters
  rw [parameters, Tree.shapes, ← single, ← list]
  cases function.field .parameter with
  | some single => exact congrArg (fun shape => [shape]) (shape_eq _)
  | none =>
    cases function.field .parameters with
    | none => rfl
    | some list =>
      have read : (fun child : Node root => child.parameter?.map Parameter.shape) =
          Tree.shape? ∘ tree := funext map_shape_parameter?
      have listed : list.tree.listShapes = list.children.filterMap (Tree.shape? ∘ tree) := by
        rw [Tree.listShapes, ← map_tree_children, List.filterMap_map]
      exact (List.map_filterMap ..).trans (read ▸ listed.symm)

/-- Parameters of the same shapes bind the same names. -/
theorem names_congr {params : List (Parameter root)} {params' : List (Parameter other)}
    (same : params.map Parameter.shape = params'.map Parameter.shape) :
    (params.flatMap fun param => namesIn param.pattern) =
      params'.flatMap fun param => namesIn param.pattern := by
  induction params generalizing params' with
  | nil =>
    rw [List.map_nil, eq_comm, List.map_eq_nil_iff] at same
    rw [same]
    rfl
  | cons param params ih =>
    cases params' with
    | nil => cases same
    | cons param' params' =>
      obtain ⟨first, others⟩ := List.cons.inj same
      have patterns : (param.pattern.map fun pattern => pattern.tree.bare) =
          param'.pattern.map fun pattern => pattern.tree.bare :=
        congrArg Parameter.Shape.pattern first
      have bound : namesIn param.pattern = namesIn param'.pattern := by
        refine boundNames_congr ?_
        rw [← Option.toList_map, ← Option.toList_map, patterns]
      rw [List.flatMap_cons, List.flatMap_cons, bound, ih others]

theorem parameters_congr (same : node.tree.shapes = node'.tree.shapes) :
    node.parameters.map Parameter.shape = node'.parameters.map Parameter.shape ∧
      node.parameterNames = node'.parameterNames := by
  have shapes : node.parameters.map Parameter.shape = node'.parameters.map Parameter.shape := by
    rw [map_shape_parameters, map_shape_parameters, same]
  exact ⟨shapes, names_congr shapes⟩

/-- A function whose parameters are listed as they are and one whose parameters are wrapped have
parameters that agree, one by one, on what is bound, on the default value, on whether the remaining
arguments are taken and on the name, and they bind the same names. Comments and tokens among the
parameters change nothing. -/
theorem parameters_agree :
    (∀ {root other : Tree} (plain : Node root) (typed : Node other),
      plain.tree.FunctionsMatch Tree.WrappedAs typed.tree →
        plain.parameters.map Parameter.shape = typed.parameters.map Parameter.shape ∧
          plain.parameterNames = typed.parameterNames) ∧
    ∀ {root other : Tree} (first : Node root) (second : Node other),
      first.tree.FunctionsMatch Eq second.tree →
        first.parameters.map Parameter.shape = second.parameters.map Parameter.shape ∧
          first.parameterNames = second.parameterNames := by
  constructor
  · intro root other plain typed matched
    exact parameters_congr (matched.shapes_eq Tree.WrappedAs.shape?_eq)
  · intro root other first second matched
    exact parameters_congr (matched.shapes_eq fun same => congrArg Tree.shape? same)

/-- The parameters `a, {b}, [c], d = 2, ...e` with a type, question marks and comments, and without
them. -/
theorem parameters_agree_all_forms :
    let identifier (role : Option Role) (text : String) : Tree :=
      .node { name := "identifier", role := role, text := text } []
    let object (role : Option Role) : Tree :=
      .node { name := "object_pattern", role := role }
        [.node { name := "shorthand_property_identifier_pattern", text := "b" } []]
    let array (role : Option Role) : Tree :=
      .node { name := "array_pattern", role := role } [identifier none "c"]
    let rest (role : Option Role) : Tree :=
      .node { name := "rest_pattern", role := role } [identifier none "e"]
    let two (role : Role) : Tree := .node { name := "number", role := some role, text := "2" } []
    let comment : Tree := .node { name := "comment" } []
    let comma : Tree := .node { name := ",", named := false } []
    let assigned : Tree :=
      .node { name := "assignment_pattern" } [identifier (some .left) "d", two .right]
    let withList (params : List Tree) : Tree :=
      .node { name := "function_declaration" }
        [.node { name := "formal_parameters", role := some .parameters } params]
    let plain := withList [identifier none "a", object none, array none, assigned, rest none]
    let spaced := withList
      [identifier none "a", comma, comment, object none, array none, assigned, rest none, comment]
    let typed := withList
      [.node { name := "required_parameter" }
        [identifier (some .pattern) "a", .node { name := "type_annotation" } []],
       comment, .node { name := "optional_parameter" } [object (some .pattern)], comma,
       .node { name := "required_parameter" } [array (some .pattern)],
       .node { name := "required_parameter" } [identifier (some .pattern) "d", two .value],
       .node { name := "required_parameter" } [rest (some .pattern)]]
    plain.FunctionsMatch Tree.WrappedAs typed ∧ plain.FunctionsMatch Eq spaced ∧
      (top plain).parameters.map Parameter.shape = (top typed).parameters.map Parameter.shape ∧
      (top plain).parameters.map Parameter.shape = (top spaced).parameters.map Parameter.shape ∧
      (top typed).parameterNames = ["a", "b", "c", "d", "e"] := by
  intro identifier object array rest two comment comma assigned withList plain spaced typed
  have wrapped : plain.FunctionsMatch Tree.WrappedAs typed := by
    refine ⟨rfl, .some ?_⟩
    refine .both rfl rfl (.binding (by decide) (.inl rfl) ⟨_, rfl, rfl⟩ rfl) (.skipSecond rfl ?_)
    refine .both rfl rfl (.binding (by decide) (.inr rfl) ⟨_, rfl, rfl⟩ rfl) (.skipSecond rfl ?_)
    refine .both rfl rfl (.binding (by decide) (.inl rfl) ⟨_, rfl, rfl⟩ rfl) ?_
    refine .both rfl rfl
      (.default rfl rfl (by decide) rfl (.inl rfl) ⟨_, rfl, rfl⟩ ⟨_, rfl, rfl⟩) ?_
    exact .both rfl rfl (.rest rfl rfl ⟨_, rfl, rfl⟩ rfl) .nil
  have same : plain.FunctionsMatch Eq spaced := by
    refine ⟨rfl, .some ?_⟩
    refine .both rfl rfl rfl (.skipSecond rfl (.skipSecond rfl (.both rfl rfl rfl ?_)))
    exact .both rfl rfl rfl (.both rfl rfl rfl (.both rfl rfl rfl (.skipSecond rfl .nil)))
  obtain ⟨acrossGrammars, withComments⟩ := parameters_agree
  refine ⟨wrapped, same, (acrossGrammars (top plain) (top typed) wrapped).1,
    (withComments (top plain) (top spaced) same).1, ?_⟩
  decide +kernel

end Node

end SnippetTutor
