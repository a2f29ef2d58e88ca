import SnippetTutor.Detector.Hook

/-!
# Elements of markup

Rendering with conditions and lists, keys, properties, handlers and form fields.
-/

namespace SnippetTutor.Detectors.Elements

variable {root : Tree}

/-- What stands around an expression and its parentheses. -/
def expressionParent (node : Node root) : Option (Node root) :=
  node.ancestors.find? fun above => above.kind != .parenthesizedExpression

/-- Whether markup stands somewhere inside a construct. -/
def holdsMarkup (node : Node root) : Bool := node.contains Node.isMarkup

/-- Any markup at all. -/
def syntaxUse (context : Context root) : List (Finding root) :=
  ((context.ofKinds Node.markupKinds).take 1).map fun node =>
    .of .idiom node "JSX syntax used"

/-- An expression in braces that is not a spread. -/
def expressions (context : Context root) : List (Finding root) :=
  ((context.ofKind .jsxExpression).find? fun node =>
    !node.children.head?.any fun inner => inner.kind == .spreadElement).toList.map fun node =>
      .of .idiom node "JSX expression container used"

/-- Rendering under a condition. -/
def conditionalRendering (context : Context root) : List (Finding root) :=
  ((context.ofKinds [.binaryExpression, .ternaryExpression]).filter fun node =>
    Node.kindOf (expressionParent node) == .jsxExpression).filterMap fun node =>
      if node.kind == .ternaryExpression then
        some (.of .idiom node "Ternary operator for conditional rendering")
      else if node.hasOperator "&&" then
        some (.of .idiom node "&& operator for conditional rendering")
      else none

/-- Rendering of lists. -/
def listRendering (context : Context root) : List (Finding root) :=
  ((context.methodCallsOf "map").filter fun call =>
    call.arguments.head?.any holdsMarkup).map fun call =>
      .of .idiom call ".map() returning JSX for list rendering"

/-! ### Keys -/

/-- Where the key of an element comes from. -/
inductive KeyOrigin where
  | position
  | identity
  | other
  deriving DecidableEq, Repr

/-- Where a key comes from, given the name of the position in the list. -/
def keyOrigin (position : Option String) (value? : Option (Node root)) : KeyOrigin :=
  match Node.bracedValue value? with
  | none => .other
  | some value =>
    if value.kind == .identifier then
      if some value.text == position || value.text == "index" || value.text == "i" then .position
      else .other
    else if value.memberProperty == some "id" then .identity
    else .other

/-- The verdict on the key of an element. -/
def judgeKey (position : Option String) (element : Node root) : Finding root :=
  match element.attributeNamed "key" with
  | none => .of .bad element "Missing key prop in list-rendered JSX"
  | some attr =>
    match keyOrigin position attr.value with
    | .position =>
      .of .minorBad element "Using array index as key - can cause issues with reordering"
    | .identity => .of .idiom element "Using unique id as key - good practice"
    | .other => .of .idiom element "Key prop present"

/-- The verdicts on all elements that a callback renders. -/
def judgeKeys (callback : Node root) : List (Finding root) :=
  let position := callback.parameters[1]?.bind Parameter.name
  match callback.functionBody with
  | some body => (body.descendants.filter Node.isElement).map (judgeKey position)
  | none => []

/-- Keys of elements in lists. -/
def keys (context : Context root) : List (Finding root) :=
  (context.methodCallsOf "map").flatMap fun call =>
    call.arguments.head?.toList.flatMap judgeKeys

/-! ### Properties -/

/-- Attributes that are not passed on to components. -/
def ownAttributes : List String := ["className", "style", "key", "ref"]

/-- A property that is passed on. -/
def propsBasics (context : Context root) : List (Finding root) :=
  (context.allAttributes.find? fun attr => !ownAttributes.contains attr.name).toList.map
    fun attr => .of .idiom attr.node "Props passed to components"

/-- The key of a property of an object pattern. -/
def boundKey (property : Node root) : Option String :=
  match property.kind with
  | .shorthandPropertyIdentifierPattern => some property.text
  | .pairPattern => (property.field .key).map Node.text
  | .objectAssignmentPattern => (property.field .left).map Node.text
  | _ => none

/-- Use of the children of an element. -/
def childrenProp (context : Context root) : List (Finding root) :=
  (context.ofKinds [.memberExpression, .objectPattern]).filterMap fun node =>
    if node.kind == .memberExpression then
      if node.memberProperty == some "children" then
        some (.of .idiom node "children prop accessed")
      else none
    else if node.children.any fun property => boundKey property == some "children" then
      some (.of .idiom node "children destructured from props")
    else none

/-- The first handler of every name. -/
def eventHandlers (context : Context root) : List (Finding root) :=
  (keepFirst Attribute.name
    (context.allAttributes.filter fun attr => Node.isHandlerName attr.name)).map fun attr =>
      .of .idiom attr.node (attr.name ++ " event handler")

/-- Form fields whose value is held by the component. -/
def controlledFields (context : Context root) : List (Finding root) :=
  (context.elements.filter fun element => Node.formTags.contains element.tagName).filterMap
    fun element =>
      if (element.attributeNamed "value").isSome then
        if (element.attributeNamed "onChange").isSome then
          some (.of .idiom element "Controlled component with value and onChange")
        else some (.of .bad element "Controlled component missing onChange handler")
      else none

/-- Detectors of markup. -/
def elements : Collection where
  suite :=
    { name := "jsx_patterns"
      category := "jsx"
      order := 310
      home := "codecoach.rules.react.jsx_patterns"
      requiresReact := true }
  detectors :=
    [.of "find_jsx_syntax" "jsx-syntax" syntaxUse,
     .of "find_jsx_expressions" "jsx-expressions" expressions,
     .of "find_jsx_conditional_rendering" "jsx-conditional-rendering" conditionalRendering,
     .of "find_jsx_list_rendering" "jsx-list-rendering" listRendering,
     .of "find_jsx_keys" "jsx-keys" keys,
     .of "find_props_basics" "props-basics" propsBasics,
     .of "find_children_prop" "children-prop" childrenProp,
     .of "find_event_handlers" "event-handlers" eventHandlers,
     .of "find_controlled_components" "controlled-components" controlledFields]

end SnippetTutor.Detectors.Elements
