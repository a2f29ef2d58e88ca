import SnippetTutor.Shape.Binding

/-!
# Functions

`parameters` gives the formal parameters in one form, although some grammars wrap a parameter
together with its type and default value and others do not.
-/

namespace SnippetTutor

/-- One formal parameter. -/
structure Parameter (root : Tree) where
  node : Node root
  /-- What the parameter binds. -/
  pattern : Option (Node root)
  default : Option (Node root) := none
  /-- Whether it takes all remaining arguments. -/
  rest : Bool := false

namespace Node

variable {root : Tree}

/-- Constructs that are functions. -/
def functionKinds : List Kind :=
  [.functionDeclaration, .functionExpression, .arrowFunction, .methodDefinition]

/-- Functions that are written as expressions. -/
def functionLiteralKinds : List Kind := [.functionExpression, .arrowFunction]

/-- Functions whose body runs later than the code around them. -/
def deferredKinds : List Kind := [.functionDeclaration, .functionExpression, .arrowFunction]

/-- Whether a construct is one of the given kinds. -/
def isOneOf (node : Node root) (kinds : List Kind) : Bool := kinds.contains node.kind

/-- Whether a construct is a function. -/
def isFunction (node : Node root) : Bool := node.isOneOf functionKinds

/-- Whether a construct is a function written as an expression. -/
def isFunctionLiteral (node : Node root) : Bool := node.isOneOf functionLiteralKinds

/-- Whether a construct is a function whose body runs later. -/
def isDeferred (node : Node root) : Bool := node.isOneOf deferredKinds

/-- A parameter as it stands in a parameter list; nothing for constructs that are none. -/
def parameter? (param : Node root) : Option (Parameter root) :=
  match param.kind with
  | .requiredParameter | .optionalParameter =>
    (param.field .pattern).map fun pattern =>
      { node := param
        pattern := some pattern
        default := param.field .value
        rest := pattern.kind == .restPattern }
  | .assignmentPattern =>
    some { node := param, pattern := param.field .left, default := param.field .right }
  | .restPattern => some { node := param, pattern := some param, rest := true }
  | .identifier | .objectPattern | .arrayPattern => some { node := param, pattern := some param }
  | _ => none

/-- The formal parameters of a function. -/
def parameters (function : Node root) : List (Parameter root) :=
  match function.field .parameter with
  | some single => [{ node := single, pattern := some single }]
  | none => (childrenOf (function.field .parameters)).filterMap parameter?

/-- The names bound by the parameters of a function. -/
def parameterNames (function : Node root) : List String :=
  function.parameters.flatMap fun param => namesIn param.pattern

/-- The body of a function. -/
def functionBody (function : Node root) : Option (Node root) := function.field .body

/-- The statements of a function with a block as its body. -/
def blockStatements (function : Node root) : Option (List (Node root)) :=
  match function.functionBody with
  | some body => if body.kind == .statementBlock then some body.children else none
  | none => none

/-- The name of a function, method or class. -/
def functionName (function : Node root) : Option String := (function.field .name).map text

/-- Whether a function is asynchronous. -/
def isAsync (function : Node root) : Bool := function.tokens.contains "async"

end Node

/-- The name of a parameter that binds a single one. -/
def Parameter.name {root : Tree} (param : Parameter root) : Option String :=
  let target? := param.pattern.bind fun pattern =>
    if pattern.kind == .restPattern then pattern.children.head? else some pattern
  target?.bind fun target => if target.kind == .identifier then some target.text else none

end SnippetTutor
