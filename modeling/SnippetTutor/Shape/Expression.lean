import SnippetTutor.Tree.Walk

/-!
# Expressions

Names, operators and string literals, read through any parentheses around them. `Node.unwrap`
goes down through parentheses until something else, or an empty pair, is met.
-/

namespace SnippetTutor.Node

variable {root : Tree}

/-- What stands inside the parentheses around an expression. -/
def unwrap (node : Node root) : Node root :=
  if node.kind == .parenthesizedExpression then
    match _found : node.children.head? with
    | some inner => inner.unwrap
    | none => node
  else node
termination_by node.tree.height
decreasing_by exact height_lt_of_mem_children (List.mem_of_head? ‹_›)

theorem unwrap_of_kind_ne {node : Node root} (bare : node.kind ≠ .parenthesizedExpression) :
    node.unwrap = node := by
  rw [unwrap, if_neg (by simpa using bare)]

/-- A field of a node, read through parentheses. -/
def fieldInside (node : Node root) (role : Role) : Option (Node root) :=
  (node.field role).map unwrap

/-- The name of a bare identifier. -/
def identifierName (node : Node root) : Option String :=
  let inner := node.unwrap
  if inner.kind == .identifier then some inner.text else none

/-- The operator of a unary, binary, update or combined assignment expression. -/
def operator (node : Node root) : Option String := (node.field .operator).map name

/-- Whether a node has the given operator. -/
def hasOperator (node : Node root) (token : String) : Bool := node.operator == some token

/-- The contents of a text between its first and its last character. -/
def unquoted (text : String) : String :=
  let chars := text.toList
  if 2 ≤ chars.length then String.ofList (chars.drop 1).dropLast else ""

/-- The contents of a string literal. -/
def stringValue (node : Node root) : Option String :=
  let inner := node.unwrap
  if inner.kind == .string then some (unquoted inner.text) else none

/-- Whether an expression is a string literal. -/
def isStringLiteral (node : Node root) : Bool := node.unwrap.kind == .string

/-- Whether a template literal has a part to be computed. -/
def hasSubstitution (node : Node root) : Bool :=
  node.children.any fun part => part.kind == .templateSubstitution

/-- The first expression of a node, read through parentheses. -/
def firstExpression (node : Node root) : Option (Node root) := node.children.head?.map unwrap

/-- Whether one side of a comparison is null. -/
def comparesNull (node : Node root) : Bool :=
  kindOf (node.fieldInside .left) == .nullLiteral ||
    kindOf (node.fieldInside .right) == .nullLiteral

end SnippetTutor.Node
