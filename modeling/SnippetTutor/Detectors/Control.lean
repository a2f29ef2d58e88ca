import SnippetTutor.Detector.Basic

/-!
# Control flow

* `loops`: loops, and what `this` refers to;
* `branches`: switches, guards at the start of functions, and operators that skip an operand.
-/

namespace SnippetTutor.Detectors.Control

variable {root : Tree}

/-! ### Loops and `this` -/

/-- A counted loop. -/
def forLoopBasics (context : Context root) : List (Finding root) :=
  ((context.ofKind .forStatement).take 1).map fun node => .of .idiom node "for loop used"

/-- The first loop over values and the first one over keys. -/
def forOfLoops (context : Context root) : List (Finding root) :=
  keepFirst Finding.details
    ((context.ofKind .forInStatement).filterMap fun node =>
      if node.isForOf then some (.of .idiom node "for...of loop used for iteration")
      else if node.isForIn then
        some (.of .minorBad node "for...in iterates over keys - consider for...of for values")
      else none)

/-- A loop with a test only. -/
def whileLoops (context : Context root) : List (Finding root) :=
  ((context.ofKinds [.whileStatement, .doStatement]).take 1).map fun node =>
    .of .idiom node "while loop used"

/-- A use of `this`. -/
def thisBinding (context : Context root) : List (Finding root) :=
  ((context.ofKind .thisKeyword).take 1).map fun node => .of .idiom node "'this' keyword used"

/-- The first use of each way to choose what `this` refers to. -/
def bindCallApply (context : Context root) : List (Finding root) :=
  keepFirst Finding.details
    ((context.methodCalls ["bind", "call", "apply"]).map fun (call, method) =>
      .of .idiom call ("." ++ method ++ "() used for context binding"))

/-- The first use of `this` under an arrow and the first one under another function, by the
nearest of either. -/
def arrowVsRegularThis (context : Context root) : List (Finding root) :=
  keepFirst Finding.details
    ((context.ofKind .thisKeyword).filterMap fun node =>
      (node.ancestors.find? Node.isDeferred).map fun function =>
        if function.kind == .arrowFunction then
          .of .idiom node "'this' in arrow function inherits from enclosing scope (lexical this)"
        else .of .good node "'this' in regular function depends on call site (dynamic this)")

/-- Detectors of loops and `this`. -/
def loops : Collection where
  suite :=
    { name := "loops_and_context"
      category := "control"
      order := 60
      home := "codecoach.rules.javascript.loops_and_context" }
  detectors :=
    [.of "find_for_loop_basics" "for-loop-basics" forLoopBasics,
     .of "find_for_of_loops" "for-of-loops" forOfLoops,
     .of "find_while_loops" "while-loops" whileLoops,
     .of "find_this_binding" "this-binding" thisBinding,
     .of "find_bind_call_apply" "bind-call-apply" bindCallApply,
     .of "find_arrow_vs_regular_this" "arrow-vs-regular-this" arrowVsRegularThis]

/-! ### Branches -/

/-- Statements that end a case. -/
def caseEnds : List Kind := [.breakStatement, .returnStatement, .throwStatement]

/-- Whether a case has statements and does not end with one that leaves the switch. -/
def runsOn (case : Node root) : Bool :=
  case.statements.getLast?.any fun last => !last.isOneOf caseEnds

/-- Whether some case of a switch runs on. -/
def hasFallthrough (node : Node root) : Bool := node.switchCases.any runsOn

/-- A switch. -/
def switchCase (context : Context root) : List (Finding root) :=
  ((context.ofKind .switchStatement).take 1).map fun node =>
    .tested .idiomOrMinorBad (!hasFallthrough node) node "switch/case statement used"
      "switch statement has potential fall-through cases"

/-- A loop over keys. -/
def forInLoops (context : Context root) : List (Finding root) :=
  ((context.ofKind .forInStatement).find? Node.isForIn).toList.map fun node =>
    .of .idiom node "for...in loop used for object key iteration"

/-- Whether a statement leaves the function under a condition and does nothing else. -/
def isGuard (statement : Node root) : Bool :=
  statement.kind == .ifStatement &&
    statement.ifParts.consequence.any fun consequence =>
      consequence.kind == .returnStatement ||
        (consequence.kind == .statementBlock &&
          match consequence.children with
          | [inner] => inner.kind == .returnStatement
          | _ => false)

/-- The number of leading statements among which guards are looked for. -/
def guardWindow : Nat := 3

/-- A function that starts with a guard. -/
def guardClauses (context : Context root) : List (Finding root) :=
  ((context.ofKinds Node.deferredKinds).find? fun function =>
    function.blockStatements.any fun body => (body.take guardWindow).any isGuard).toList.map
      fun function => .of .idiom function "Guard clause pattern — early return for edge cases"

/-- What is said about an operator that may skip its second operand. -/
def shortCircuit? (node : Node root) : Option (Finding root) :=
  if node.kind == .expressionStatement then
    node.firstExpression.bind fun expression =>
      if expression.kind == .binaryExpression then
        expression.operator.bind fun token =>
          if token == "&&" || token == "||" then
            some (.of .idiom node ("Short-circuit evaluation with " ++ token))
          else none
      else none
  else if node.hasOperator "||" then
    some (.of .idiom node "Logical OR (||) used for default value pattern")
  else none

/-- An operator that may skip its second operand. -/
def shortCircuitEvaluation (context : Context root) : List (Finding root) :=
  ((context.ofKinds [.expressionStatement, .binaryExpression]).filterMap shortCircuit?).take 1

/-- Detectors of branches. -/
def branches : Collection where
  suite :=
    { name := "control_flow"
      category := "control"
      order := 130
      home := "codecoach.rules.javascript.control_flow" }
  detectors :=
    [.of "find_switch_case" "switch-case" switchCase,
     .of "find_for_in_loops" "for-in-loops" forInLoops,
     .of "find_guard_clauses" "guard-clauses" guardClauses,
     .of "find_short_circuit_evaluation" "short-circuit-evaluation" shortCircuitEvaluation]

end SnippetTutor.Detectors.Control
