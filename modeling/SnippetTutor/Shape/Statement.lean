import SnippetTutor.Shape.Expression

/-!
# Statements

The parts of branching, looping and protected statements.
-/

namespace SnippetTutor

/-- The parts of an `if` statement. -/
structure IfParts (root : Tree) where
  condition : Option (Node root)
  consequence : Option (Node root)
  /-- The statement after `else`. -/
  alternative : Option (Node root)

/-- The parts of a `try` statement. -/
structure TryParts (root : Tree) where
  body : Option (Node root)
  handler : Option (Node root)
  finalizer : Option (Node root)

namespace Node

variable {root : Tree}

/-- Constructs that repeat. -/
def loopKinds : List Kind := [.forStatement, .forInStatement, .whileStatement, .doStatement]

/-- Statements that declare variables. -/
def declarationKinds : List Kind := [.variableDeclaration, .lexicalDeclaration]

/-- The statements of a block, a program or a case; the value of a case is not one of them. -/
def statements (node : Node root) : List (Node root) :=
  if node.kind == .switchCase || node.kind == .switchDefault then
    match node.field .value with
    | some value => node.children.filter fun child => child ≠ value
    | none => node.children
  else node.children

/-- The parts of an `if` statement. -/
def ifParts (node : Node root) : IfParts root :=
  let alternative := (node.field .alternative).bind fun clause =>
    if clause.kind == .elseClause then clause.children.head? else some clause
  { condition := node.fieldInside .condition
    consequence := node.field .consequence
    alternative := alternative }

/-- The test of a counted loop. -/
def forCondition (node : Node root) : Option (Node root) :=
  (node.field .condition).bind fun condition =>
    if condition.kind == .expressionStatement then condition.firstExpression
    else if condition.kind == .emptyStatement then none
    else some condition.unwrap

/-- The step of a counted loop. -/
def forIncrement (node : Node root) : Option (Node root) := node.fieldInside .increment

/-- The start of a counted loop. -/
def forInitializer (node : Node root) : Option (Node root) := node.field .initializer

/-- Whether a loop runs over values. -/
def isForOf (node : Node root) : Bool := node.kind == .forInStatement && node.tokens.contains "of"

/-- Whether a loop runs over keys. -/
def isForIn (node : Node root) : Bool := node.kind == .forInStatement && node.tokens.contains "in"

/-- The parts of a `try` statement. -/
def tryParts (node : Node root) : TryParts root :=
  ⟨node.field .body, node.field .handler, node.field .finalizer⟩

/-- The cases of a `switch` statement. -/
def switchCases (node : Node root) : List (Node root) :=
  (childrenOf (node.field .body)).filter fun child =>
    child.kind == .switchCase || child.kind == .switchDefault

/-- Whether a child reached on the way up is the protected block of a `try` statement above. -/
def protectedBelow (child : Node root) : List (Node root) → Bool
  | [] => false
  | parent :: above =>
    (parent.kind == .tryStatement && parent.field .body == some child) ||
      protectedBelow parent above

/-- Whether a construct stands inside the protected block of some `try` statement. -/
def inTryBlock (node : Node root) : Bool := protectedBelow node node.ancestors

end Node

end SnippetTutor
