import SnippetTutor.Detector.Basic

/-!
# Errors, requests and everyday notation

How a snippet handles and raises errors, how it asks a server for data, and which of the everyday
forms of the language it uses: block-scoped declarations, destructuring, spreading, arrows.
-/

namespace SnippetTutor.Detectors.Essentials

variable {root : Tree}

/-- How a protected block is judged by whether it has a handler and a last part. -/
def tryVerdict (caught finished : Bool) : Verdict where
  positive := caught
  negative := !caught && !finished
  idiomatic := caught
  praised := by simp +contextual

/-- What is said about a protected block. -/
def tryText : (caught finished : Bool) → String
  | true, true => "try-catch-finally block"
  | true, false => "try-catch block"
  | false, _ => "try without catch handler"

/-- Protected blocks, which should have a handler. -/
def tryCatch (context : Context root) : List (Finding root) :=
  (context.ofKind .tryStatement).map fun node =>
    let parts := node.tryParts
    .of (tryVerdict parts.handler.isSome parts.finalizer.isSome) node
      (tryText parts.handler.isSome parts.finalizer.isSome)

/-- Classes of errors that may be thrown. -/
def throwable : List String := ["Error", "TypeError", "RangeError", "SyntaxError"]

/-- Whether an expression constructs an error. -/
def constructsError (node : Node root) : Bool :=
  node.kind == .newExpression && node.callName.any throwable.contains

/-- Thrown values, which should be errors. -/
def errorThrowing (context : Context root) : List (Finding root) :=
  (context.ofKind .throwStatement).map fun node =>
    .tested .idiomOrMinorBad (node.firstExpression.any constructsError) node
      "Throwing proper Error object" "Consider throwing an Error object instead of primitives"

/-- Classes of errors that take a message. -/
def withMessage : List String :=
  ["Error", "TypeError", "RangeError", "SyntaxError", "ReferenceError"]

/-- A message longer than this counts as descriptive. -/
def descriptiveLength : Nat := 10

/-- Whether a message is a literal that says enough. -/
def isDescriptive (message : Node root) : Bool :=
  message.stringValue.any fun text => descriptiveLength < text.length

/-- How the message of an error, if it has one, is judged. -/
def messageVerdict (message? : Option (Node root)) : Verdict where
  positive := message?.any isDescriptive
  negative := !message?.isSome
  idiomatic := message?.any isDescriptive
  trivial := message?.isSome && !message?.any isDescriptive
  praised := by cases message? <;> simp +contextual

/-- Constructed errors, which should have a descriptive message. -/
def errorMessages (context : Context root) : List (Finding root) :=
  (context.constructions withMessage).map fun (node, _) =>
    let message? := node.arguments.head?
    .of (messageVerdict message?) node
      (if message?.any isDescriptive then "Error with descriptive message"
       else if message?.isSome then "Error message could be more descriptive"
       else "Error constructed without message")

/-- Requests. -/
def fetchBasics (context : Context root) : List (Finding root) :=
  (context.callsNamed ["fetch"]).map fun (call, _) => .of .idiom call "fetch API used"

/-- Requests with options. -/
def fetchWithOptions (context : Context root) : List (Finding root) :=
  ((context.callsNamed ["fetch"]).filter fun (call, _) =>
    Node.kindOf (call.arguments[1]?) == .object).map fun (call, _) =>
      .of .idiom call "fetch with request options"

/-- Requests, which should be followed by a look at the status of the response. -/
def fetchErrorChecking (context : Context root) : List (Finding root) :=
  let checks := (context.ofKind .memberExpression).any fun node =>
    node.memberProperty.any fun name => name == "ok" || name == "status"
  (context.callsNamed ["fetch"]).map fun (call, _) =>
    .tested .idiomOrBad checks call "fetch with response status checking"
      "fetch without checking response.ok or response.status"

/-- Declarations that are not block-scoped, or one finding when all of them are. -/
def letConstUsage (context : Context root) : List (Finding root) :=
  let declarations := context.ofKinds [.variableDeclaration, .lexicalDeclaration]
  let unscoped := declarations.filter fun node => node.declarationWord == some "var"
  if unscoped.isEmpty then
    if declarations.isEmpty then [] else [.overall .idiom "Using let/const instead of var"]
  else unscoped.map fun node => .of .minorBad node "var used instead of let/const"

/-- The first object pattern and the first array pattern. -/
def destructuring (context : Context root) : List (Fin 2 × Finding root) :=
  keepFirst Prod.fst
    ((context.ofKinds [.objectPattern, .arrayPattern]).map fun node =>
      if node.kind == .objectPattern then
        (0, .of .idiom node "Object destructuring used")
      else (1, .of .idiom node "Array destructuring used"))

/-- A spread element. -/
def spreadOperator (context : Context root) : List (Finding root) :=
  ((context.ofKind .spreadElement).take 1).map fun node =>
    .of .idiom node "Spread operator used"

/-- An arrow function. -/
def arrowFunctions (context : Context root) : List (Finding root) :=
  ((context.ofKind .arrowFunction).take 1).map fun node =>
    .of .idiom node "Arrow function syntax used"

/-- Detectors of errors, requests and everyday notation. -/
def essentials : Collection where
  suite :=
    { name := "error_handling"
      category := "errors"
      order := 30
      home := "codecoach.rules.javascript.error_handling" }
  detectors :=
    [.of "find_try_catch" "try-catch" tryCatch,
     .of "find_error_throwing" "error-throwing" errorThrowing,
     .of "find_error_messages" "error-messages" errorMessages,
     .of "find_fetch_basics" "fetch-basics" fetchBasics,
     .of "find_fetch_with_options" "fetch-with-options" fetchWithOptions,
     .of "find_fetch_error_checking" "fetch-error-checking" fetchErrorChecking,
     .of "find_let_const_usage" "let-const-usage" letConstUsage,
     { name := "find_destructuring"
       topics := ["object-destructuring", "array-destructuring"]
       find := fun _ context => .ok (destructuring context) },
     .of "find_spread_operator" "spread-operator" spreadOperator,
     .of "find_arrow_functions" "arrow-functions" arrowFunctions]

end SnippetTutor.Detectors.Essentials
