import SnippetTutor.Detector.Basic

/-!
# Hooks

What the detectors for React share: the state that a snippet declares with `useState`, the hooks
that it defines, and the elements and handlers of its markup.
-/

namespace SnippetTutor

/-- A declaration of state, with the names of the value and of the function that replaces it. -/
structure StateBinding (root : Tree) where
  state : Option String
  setter : Option String
  call : Node root

/-- A function that is named like a hook. -/
structure HookDefinition (root : Tree) where
  /-- The function declaration, or the declarator that names the function. -/
  site : Node root
  name : String
  function : Node root

namespace Node

variable {root : Tree}

/-- Elements with a tag. -/
def elementKinds : List Kind := [.jsxElement, .jsxSelfClosingElement]

/-- Whether a construct is an element with a tag. -/
def isElement (node : Node root) : Bool := node.isOneOf elementKinds

/-- The array pattern that the result of a call is taken apart with. -/
def statePattern (call : Node root) : Option (Node root) :=
  (call.enclosingDeclarator.bind fun declarator => declarator.declaratorParts.1).filter
    fun target => target.kind == .arrayPattern

/-- The text of an identifier in a pattern. -/
def plainName (node : Node root) : Option String :=
  if node.kind == .identifier then some node.text else none

/-- The state that a call declares. -/
def stateBinding (call : Node root) : StateBinding root :=
  let elements := childrenOf call.statePattern
  { state := elements[0]?.bind plainName
    setter := elements[1]?.bind plainName
    call := call }

/-- Whether the function given to a call returns something at the top level of its block. -/
def effectReturns (call : Node root) : Bool :=
  (call.arguments.head?.bind blockStatements).any fun body =>
    body.any fun statement => statement.kind == .returnStatement

/-- The hook that a construct defines. -/
def hookDefinition (node : Node root) : Option (HookDefinition root) :=
  let definition : Option (HookDefinition root) :=
    if node.kind == .functionDeclaration then
      node.functionName.map fun name => ⟨node, name, node⟩
    else
      match node.declaratorParts with
      | (some target, some function) =>
        if function.isFunctionLiteral then
          target.plainName.map fun name => ⟨node, name, function⟩
        else none
      | _ => none
  definition.filter fun found => isHookName found.name

/-- Whether an attribute handles an event: `on` and a capital letter. -/
def isHandlerName (name : String) : Bool :=
  match name.toList with
  | 'o' :: 'n' :: c :: _ => 'A' ≤ c && c ≤ 'Z'
  | _ => false

/-- The value of an attribute that is written in braces. -/
def bracedValue (value? : Option (Node root)) : Option (Node root) :=
  value?.bind fun value => if value.kind == .jsxExpression then value.firstExpression else none

/-- Form fields. -/
def formTags : List String := ["input", "textarea", "select"]

/-- The name of an element in its opening tag. -/
def tagNode (element : Node root) : Option (Node root) := fieldOf element.openingTag .name

end Node

namespace Context

variable {root : Tree}

/-- Elements with a tag. -/
def elements (context : Context root) : List (Node root) := context.ofKinds Node.elementKinds

/-- The attributes of all elements. -/
def allAttributes (context : Context root) : List (Attribute root) :=
  context.elements.flatMap Node.attributes

/-- The calls of a function. -/
def callsOf (context : Context root) (name : String) : List (Node root) :=
  (context.callsNamed [name]).map Prod.fst

/-- The calls of a method. -/
def methodCallsOf (context : Context root) (name : String) : List (Node root) :=
  (context.methodCalls [name]).map Prod.fst

/-- The state that the snippet declares. -/
def stateBindings (context : Context root) : List (StateBinding root) :=
  (context.callsOf "useState").map Node.stateBinding

/-- The names of the state values. -/
def stateNames (context : Context root) : List String :=
  (context.stateBindings.filterMap StateBinding.state).filter fun name => name != ""

/-- The names of the functions that replace state. -/
def stateSetters (context : Context root) : List String :=
  (context.stateBindings.filterMap StateBinding.setter).filter fun name => name != ""

/-- The hooks that the snippet defines. -/
def hookDefinitions (context : Context root) : List (HookDefinition root) :=
  (context.ofKinds [.functionDeclaration, .variableDeclarator]).filterMap Node.hookDefinition

end Context

end SnippetTutor
