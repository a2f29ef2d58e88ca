import SnippetTutor.Detector.Basic
import SnippetTutor.Number.Printer
import SnippetTutor.Shape.Numeral

/-!
# Pitfalls

Habits that lead to errors. Each is reported at its first occurrence.
-/

namespace SnippetTutor.Detectors.Pitfalls

variable {root : Tree}

/-- A declaration that is not block-scoped, or one finding when all of them are. -/
def noVar (context : Context root) : List (Finding root) :=
  let declarations := context.ofKinds [.variableDeclaration, .lexicalDeclaration]
  match declarations.find? fun node => node.declarationWord == some "var" with
  | some node => [.of .minorBad node "var declaration found — use let or const instead"]
  | none =>
    if declarations.isEmpty then []
    else [.overall .idiom "No var declarations — using modern let/const"]

/-- A loose comparison, except with null. -/
def strictEquality (context : Context root) : List (Finding root) :=
  ((Context.named (context.ofKind .binaryExpression) Node.operator ["==", "!="]).find?
    fun (node, _) => !node.comparesNull).toList.map fun (node, token) =>
      .of .minorBad node
        ("Loose equality (" ++ token ++ ") used — prefer strict equality (" ++ token ++ "=)")

/-- Running text as code. -/
def noEval (context : Context root) : List (Finding root) :=
  ((context.callsNamed ["eval"]).take 1).map fun (call, _) =>
    .of .bad call "eval() used — security risk and performance issue"

/-- Text put into a document as markup. -/
def noInnerHtml (context : Context root) : List (Finding root) :=
  ((context.ofKinds [.assignmentExpression, .jsxAttribute]).filterMap fun node =>
    if node.kind == .assignmentExpression then
      if (node.field .left).bind Node.memberProperty == some "innerHTML" then
        some (.of .bad node "innerHTML assignment — XSS risk, use textContent or DOM methods")
      else none
    else if node.children.head?.any fun name => name.text == "dangerouslySetInnerHTML" then
      some (.of .bad node "dangerouslySetInnerHTML used — ensure input is sanitized")
    else none).take 1

/-- Whether a number needs no name. -/
def isPlainNumber (x : Float) : Bool := x == 0 || x == 1 || x == -1 || x == 2 || x == 100

/-- Constructs that name or index the numbers directly below them. -/
def namingKinds : List Kind :=
  [.variableDeclarator, .memberExpression, .subscriptExpression, .pair, .array]

/-- The first number without a name that needs one. -/
def firstMagicNumber : List (Node root) → Except Fault (Option (Node root × Float))
  | [] => .ok none
  | node :: rest => do
    match ← node.numberValue with
    | none => firstMagicNumber rest
    | some value =>
      if isPlainNumber value || namingKinds.contains (Node.kindOf node.parent?) then
        firstMagicNumber rest
      else .ok (some (node, value))

/-- A number without a name. -/
def noMagicNumbers (context : Context root) : Except Fault (List (Finding root)) :=
  (firstMagicNumber (context.ofKind .number)).map fun found =>
    found.toList.map fun (node, value) =>
      .of .minorBad node
        ("Magic number " ++ Number.amount value ++ " — consider extracting to a named constant")

/-- A handler that does nothing. -/
def emptyCatch (context : Context root) : List (Finding root) :=
  ((context.ofKind .tryStatement).find? fun node =>
    node.tryParts.handler.any fun handler =>
      (Node.childrenOf (handler.field .body)).isEmpty).toList.map fun node =>
        .of .bad node "Empty catch block — errors are silently swallowed"

/-- Whether a construct is a negation. -/
def isNegation (node : Node root) : Bool := node.kind == .unaryExpression && node.hasOperator "!"

/-- Whether one side of a binary expression is an empty string. -/
def joinsEmptyString (node : Node root) : Bool :=
  (node.field .left).bind Node.stringValue == some "" ||
    (node.field .right).bind Node.stringValue == some ""

/-- A conversion that is not written as one. -/
def implicitCoercion (context : Context root) : List (Finding root) :=
  ((context.ofKinds [.unaryExpression, .binaryExpression]).filterMap fun node =>
    if node.kind == .unaryExpression then
      if node.hasOperator "!" && (node.fieldInside .argument).any isNegation then
        some (.of .minorGood node "Double negation (!!) for boolean coercion — consider Boolean()")
      else none
    else if node.hasOperator "+" && joinsEmptyString node then
      some (.of .minorBad node "Empty string concatenation for type coercion — consider String()")
    else none).take 1

/-- Detectors of pitfalls. -/
def pitfalls : Collection where
  suite :=
    { name := "anti_patterns"
      category := "anti-patterns"
      order := 230
      home := "codecoach.rules.javascript.anti_patterns" }
  detectors :=
    [.of "find_no_var_usage" "no-var-usage" noVar,
     .of "find_strict_equality" "strict-equality" strictEquality,
     .of "find_no_eval" "no-eval" noEval,
     .of "find_no_inner_html" "no-innerHTML" noInnerHtml,
     .fallible "find_no_magic_numbers" "no-magic-numbers" noMagicNumbers,
     .of "find_empty_catch_blocks" "empty-catch-blocks" emptyCatch,
     .of "find_implicit_type_coercion" "implicit-type-coercion" implicitCoercion]

end SnippetTutor.Detectors.Pitfalls
