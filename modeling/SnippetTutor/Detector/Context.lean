import SnippetTutor.Inference.Aliases
import SnippetTutor.Shape.Call
import SnippetTutor.Snippet.Bound

/-!
# What a detector can see

The index of a tree with everything inferred from it, and the selections of calls that detectors
commonly start from.
-/

namespace SnippetTutor

/-- An indexed tree with the types, aliases and limits for its analysis. -/
structure Context (root : Tree) where
  index : Index root
  types : TypeMap := []
  aliases : AliasMap (Node root) := {}
  /-- How deep detectors look below a construct. -/
  scanDepth : Bound
  /-- How deep the tree was read. -/
  treeDepth : Bound

namespace Context

variable {root : Tree}

/-- The top of the tree. -/
def top (_context : Context root) : Node root := Node.top root

/-- The statements of the program. -/
def statements (context : Context root) : List (Node root) := context.top.children

/-- The constructs of one kind in source order. -/
def ofKind (context : Context root) (kind : Kind) : List (Node root) := context.index.ofKind kind

/-- The constructs of the given kinds in source order. -/
def ofKinds (context : Context root) (kinds : List Kind) : List (Node root) :=
  context.index.ofKinds kinds

/-- The type of a declared name. -/
def typeOf (context : Context root) (name : String) : ValueType := context.types.typeOf name

/-- The type of a name that may be absent. -/
def typeOf? (context : Context root) (name? : Option String) : ValueType :=
  (name?.map context.typeOf).getD .unknown

/-- Constructs with the name that a function reads off them, where it is one of the given ones. -/
def named (nodes : List (Node root)) (name : Node root → Option String) (names : List String) :
    List (Node root × String) :=
  nodes.filterMap fun node =>
    (name node).bind fun found => if names.contains found then some (node, found) else none

/-- Calls of methods with one of the given names. -/
def methodCalls (context : Context root) (names : List String) : List (Node root × String) :=
  named (context.ofKind .callExpression) Node.methodName names

/-- Calls of functions with one of the given names. -/
def callsNamed (context : Context root) (names : List String) : List (Node root × String) :=
  named (context.ofKind .callExpression) Node.callName names

/-- Constructions of one of the given classes. -/
def constructions (context : Context root) (names : List String) : List (Node root × String) :=
  named (context.ofKind .newExpression) Node.callName names

/-- Calls of one of the given methods of an object known by name. -/
def staticCalls (context : Context root) (owner : String) (methods : List String) :
    List (Node root × String) :=
  (context.methodCalls methods).filter fun entry => entry.1.staticCall.1 == some owner

/-- The constructs of a walk that keeps to the scan depth. -/
def scan (context : Context root) (prune : Node root → Bool) (node : Node root) :
    Except Fault (List (Node root)) :=
  context.scanDepth.depthLimit.map fun limit => node.walk prune limit

/-- Whether a construct passes a test, or one within the scan depth below it does. -/
def scanContains (context : Context root) (node : Node root) (test : Node root → Bool) :
    Except Fault Bool :=
  if test node then .ok true
  else (context.scan Node.whole node).map fun nodes => nodes.any test

end Context

end SnippetTutor
