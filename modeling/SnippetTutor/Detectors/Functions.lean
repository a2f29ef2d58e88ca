import SnippetTutor.Detector.Basic

/-!
# Functions and closures

Parameters, purity, callbacks, functions that make functions, and what functions take from the
scopes around them.
-/

namespace SnippetTutor.Detectors.Functions

variable {root : Tree}

/-- Functions that are not methods. -/
def plainFunctions (context : Context root) : List (Node root) :=
  context.ofKinds Node.deferredKinds

/-- The first function that passes a test, with a text of praise. -/
def firstFunction (context : Context root) (test : Node root → Bool) (details : String) :
    List (Finding root) :=
  ((plainFunctions context).find? test).toList.map fun function =>
    .of .idiom function details

/-- A parameter with a default value. -/
def defaultParameters (context : Context root) : List (Finding root) :=
  firstFunction context
    (fun function => function.parameters.any fun param => param.default.isSome)
    "Default parameter values used"

/-- A parameter that takes all remaining arguments. -/
def restParameters (context : Context root) : List (Finding root) :=
  firstFunction context (fun function => function.parameters.any fun param => param.rest)
    "Rest parameters (...args) used"

/-- Objects whose use shows outside a function. -/
def outsideObjects : List String := ["console", "document", "window"]

/-- Whether a construct has an effect outside a function with the given parameters. -/
def hasEffect (params : List String) (node : Node root) : Bool :=
  if node.kind == .assignmentExpression || node.kind == .augmentedAssignmentExpression then
    (node.field .left).any fun left =>
      (left.identifierName.any fun name => !params.contains name) ||
        left.kind == .memberExpression || left.kind == .subscriptExpression
  else
    node.kind == .memberExpression &&
      ((node.field .object).bind Node.identifierName).any outsideObjects.contains

/-- Declared functions that return something and have no effect outside. -/
def pureFunctions (context : Context root) : List (Finding root) :=
  (context.ofKind .functionDeclaration).filterMap fun function =>
    match function.functionName, function.functionBody with
    | some name, some body =>
      let params := function.parameters.filterMap Parameter.name
      let nodes := body.descendants
      if (nodes.any fun node => node.kind == .returnStatement) && !nodes.any (hasEffect params) then
        some (.of .idiom function ("Function '" ++ name ++ "' appears to be a pure function"))
      else none
    | _, _ => none

/-- Kinds of arguments that may be functions. -/
def callbackKinds : List Kind := [.arrowFunction, .functionExpression, .identifier]

/-- A function given to another one, hooks excepted. -/
def callbackFunctions (context : Context root) : List (Finding root) :=
  (((context.ofKind .callExpression).find? fun call =>
    !call.calledName.any isHookName &&
      call.arguments.any fun argument => argument.isOneOf callbackKinds)).toList.map fun call =>
        .of .idiom call "Function passed as callback argument"

/-- The constructs of a function's body outside the functions inside it. -/
def ownNodes (function : Node root) : List (Node root) :=
  match function.functionBody with
  | some body => body.descendantsOutside Node.isDeferred
  | none => []

/-- Whether a function returns a function. -/
def returnsFunction (function : Node root) : Bool :=
  function.functionBody.any Node.isFunctionLiteral ||
    (ownNodes function).any fun node =>
      node.kind == .returnStatement && node.firstExpression.any Node.isFunctionLiteral

/-- Functions that return functions. -/
def higherOrderFunctions (context : Context root) : List (Finding root) :=
  ((plainFunctions context).filter returnsFunction).map fun function =>
    .of .idiom function "Higher-order function that returns a function"

/-- The parameters and variables that a function declares in its own scope. -/
def localNames (function : Node root) : List String :=
  function.parameterNames ++
    ((ownNodes function).filter fun node => node.isOneOf Node.declarationKinds).flatMap fun node =>
      node.declarators.filterMap Node.declaratorName

/-- Whether a function reads a name that a function around it declares. -/
def captures (function : Node root) : Bool :=
  let outer := (function.ancestors.filter Node.isDeferred).flatMap localNames
  let own := function.parameterNames
  (ownNodes function).any fun node =>
    node.kind == .identifier && outer.contains node.text && !own.contains node.text

/-- A function that reads names of the functions around it. -/
def closureBasics (context : Context root) : List (Finding root) :=
  firstFunction context captures "Closure: inner function accesses outer scope variables"

/-- A function made inside a loop. -/
def closureInLoops (context : Context root) : List (Finding root) :=
  (((context.ofKinds [.functionExpression, .arrowFunction]).find? fun function =>
    function.ancestors.any fun above => above.isOneOf Node.loopKinds)).toList.map fun function =>
      .of .bad function "Function created inside loop - may capture loop variable by reference"

/-- Kinds of returned values that give access to local state. -/
def statefulKinds : List Kind := [.object, .arrowFunction, .functionExpression]

/-- Whether a function declares variables and returns something that gives access to them. -/
def keepsState (function : Node root) : Bool :=
  match function.blockStatements with
  | some body =>
    (body.any fun statement => statement.isOneOf Node.declarationKinds) &&
      body.any fun statement =>
        statement.kind == .returnStatement &&
          statement.firstExpression.any fun value => value.isOneOf statefulKinds
  | none => false

/-- A function that keeps private state. -/
def closureState (context : Context root) : List (Finding root) :=
  firstFunction context keepsState "Closure used to encapsulate private state"

/-- Detectors of functions. -/
def functions : Collection where
  suite :=
    { name := "function_patterns"
      category := "functions"
      order := 50
      home := "codecoach.rules.javascript.function_patterns" }
  detectors :=
    [.of "find_default_parameters" "default-parameters" defaultParameters,
     .of "find_rest_parameters" "rest-parameters" restParameters,
     .of "find_pure_functions" "pure-functions" pureFunctions,
     .of "find_callback_functions" "callback-functions" callbackFunctions,
     .of "find_higher_order_functions" "higher-order-functions" higherOrderFunctions,
     .of "find_closure_basics" "closure-basics" closureBasics,
     .of "find_closure_in_loops" "closure-in-loops" closureInLoops,
     .of "find_closure_state" "closure-state" closureState]

end SnippetTutor.Detectors.Functions
