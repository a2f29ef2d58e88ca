import SnippetTutor.Shape.Function

/-!
# Objects and classes

Keys and pairs of object literals, and the parts of classes in either of the two ways in which
the grammars lay them out.
-/

namespace SnippetTutor.Node

variable {root : Tree}

/-- The key of a pair, when it is written out. -/
def pairKeyName (pair : Node root) : Option String :=
  (pair.field .key).bind fun key =>
    match key.kind with
    | .propertyIdentifier | .identifier | .number => some key.text
    | .string => key.stringValue
    | _ => none

/-- Whether the key of a pair is computed. -/
def isComputedKey (pair : Node root) : Bool := kindOf (pair.field .key) == .computedPropertyName

/-- The pairs of an object literal. -/
def objectPairs (node : Node root) : List (Node root) :=
  node.children.filter fun child => child.kind == .pair

/-- What a heritage clause names first: the expression itself, or the value of its `extends`
part. -/
def heritageValue (heritage : Node root) : Option (Node root) :=
  heritage.children.head?.bind fun inner =>
    if inner.name == "extends_clause" then
      ((inner.field .value).or inner.children.head?).map unwrap
    else some inner.unwrap

/-- The superclass of a class. -/
def classSuperclass (node : Node root) : Option (Node root) :=
  (node.children.find? fun child => child.kind == .classHeritage && !child.children.isEmpty).bind
    heritageValue

/-- The members of a class. -/
def classMembers (node : Node root) : List (Node root) := childrenOf (node.field .body)

/-- The name of a class field. -/
def fieldNameNode (node : Node root) : Option (Node root) :=
  (node.field .property).or (node.field .name)

/-- Whether a method reads, writes, constructs or is an ordinary one. -/
def methodWord (node : Node root) : String :=
  if node.tokens.contains "get" then "get"
  else if node.tokens.contains "set" then "set"
  else if node.functionName == some "constructor" then "constructor"
  else "method"

/-- Constructs that are classes. -/
def classKinds : List Kind := [.classDeclaration, .classExpression]

end SnippetTutor.Node
