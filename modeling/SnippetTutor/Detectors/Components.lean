import SnippetTutor.Detector.Hook
import SnippetTutor.Text.Infix

/-!
# Components

* `components`: properties of components, their composition and the handling of events;
* `boundaries`: components that catch errors, and retrying.
-/

namespace SnippetTutor.Detectors.Components

variable {root : Tree}

/-! ### Composition -/

/-- The object pattern that a function takes its properties apart with, without a default. -/
def propsPattern (function : Node root) : Option (Node root) :=
  match function.parameters with
  | param :: _ =>
    if param.default.isSome then none
    else param.pattern.filter fun pattern => pattern.kind == .objectPattern
  | [] => none

/-- The name of an element with a plain capitalized tag. -/
def componentName (element : Node root) : Option String :=
  if Node.kindOf element.tagNode == .identifier && isCapitalized element.tagName then
    some element.tagName
  else none

/-- Whether a construct is an element that stands for a component. -/
def isComponent (node : Node root) : Bool := node.isElement && (componentName node).isSome

/-- Whether markup stands within the scan depth of a function's body. -/
def rendersMarkup (context : Context root) (function : Node root) : Except Fault Bool :=
  match function.functionBody with
  | some body => context.scanContains body Node.isMarkup
  | none => .ok false

/-- The first construct that a test with faults accepts. -/
def firstAccepted (test : Node root → Except Fault (Option (Finding root))) :
    List (Node root) → Except Fault (List (Finding root))
  | [] => .ok []
  | node :: rest => do
    match ← test node with
    | some finding => .ok [finding]
    | none => firstAccepted test rest

/-- A component that takes its properties apart. -/
def propsDestructuring (context : Context root) : Except Fault (List (Finding root)) :=
  firstAccepted (fun function => do
    if (propsPattern function).isNone then return none
    let renders ←
      if function.functionName.any isCapitalized then pure true
      else rendersMarkup context function
    return if renders then
      some (.of .idiom function "Props destructured in function parameters")
    else none) (context.ofKinds Node.deferredKinds)

/-- The check of properties while the program runs. -/
def propTypes (context : Context root) : List (Finding root) :=
  ((context.ofKinds [.importStatement, .assignmentExpression]).filterMap fun node =>
    if node.kind == .importStatement then
      if (node.field .source).bind Node.stringValue == some "prop-types" then
        some (.of .idiom node "PropTypes imported for runtime type checking")
      else none
    else if (node.field .left).bind Node.memberProperty == some "propTypes" then
      some (.of .idiom node "PropTypes validation defined")
    else none).take 1

/-- Whether a property of an object pattern has a default. -/
def hasDefault (property : Node root) : Bool :=
  property.kind == .objectAssignmentPattern ||
    (property.kind == .pairPattern &&
      Node.kindOf (property.field .value) == .assignmentPattern)

/-- Defaults of properties. -/
def defaultProps (context : Context root) : Except Fault (List (Finding root)) :=
  firstAccepted (fun node => do
    if node.kind == .assignmentExpression then
      return if (node.field .left).bind Node.memberProperty == some "defaultProps" then
        some (.of .minorGood node "defaultProps used - consider default parameter values instead")
      else none
    let renders ←
      if (Node.childrenOf (propsPattern node)).any hasDefault then rendersMarkup context node
      else pure false
    return if renders then
      some (.of .idiom node "Default prop values via destructuring defaults")
    else none)
    (context.ofKinds [.assignmentExpression, .functionDeclaration, .arrowFunction])

/-- A form field that holds its own value. -/
def uncontrolledFields (context : Context root) : List (Finding root) :=
  (context.elements.find? fun element =>
    Node.formTags.contains element.tagName &&
      ((element.attributeNamed "defaultValue").isSome ||
        (element.attributeNamed "defaultChecked").isSome)).toList.map fun element =>
      .of .idiom element "Uncontrolled component with defaultValue/defaultChecked"

/-- A component inside a component. -/
def composition (context : Context root) : List (Finding root) :=
  ((context.ofKind .jsxElement).find? fun element =>
    (componentName element).isSome && element.childElements.any isComponent).toList.map
    fun element =>
      .of .idiom element "Component composition - components nested within components"

/-- A component rendered under a condition. -/
def conditionalRendering (context : Context root) : List (Finding root) :=
  ((context.ofKinds [.ternaryExpression, .binaryExpression]).filterMap fun node =>
    if node.kind == .ternaryExpression then
      if (node.fieldInside .consequence).any isComponent ||
          (node.fieldInside .alternative).any isComponent then
        some (.of .idiom node "Conditional rendering of components")
      else none
    else if node.hasOperator "&&" && (node.fieldInside .right).any isComponent then
      some (.of .idiom node "Conditional component rendering with && operator")
    else none).take 1

/-- Usual names of an event. -/
def eventNames : List String := ["e", "event", "evt"]

/-- A handler that takes the event. -/
def handlerParameters (context : Context root) : List (Finding root) :=
  ((context.allAttributes.filter fun attr => Node.isHandlerName attr.name).filterMap fun attr =>
    (Node.bracedValue attr.value).bind fun handler =>
      if handler.isFunctionLiteral then
        handler.parameters.head?.map fun param =>
          .tested .idiomOrGood (param.name.any eventNames.contains) attr.node
            "Event handler with properly named event parameter"
            "Event handler accepts event parameter"
      else none).take 1

/-- Keeping the browser from its usual response. -/
def preventDefault (context : Context root) : List (Finding root) :=
  ((context.methodCallsOf "preventDefault").take 1).map fun call =>
    .of .idiom call "preventDefault() called to prevent default browser behavior"

/-- Elements that hold others. -/
def containerTags : List String :=
  ["div", "ul", "ol", "table", "tbody", "section", "main", "nav", "form"]

/-- Whether an element holds anything between its tags. -/
def hasContent (element : Node root) : Bool :=
  element.children.any fun child =>
    child.kind != .jsxOpeningElement && child.kind != .jsxClosingElement

/-- A handler on an element that holds others. -/
def delegation (context : Context root) : List (Finding root) :=
  ((context.ofKind .jsxElement).find? fun element =>
    containerTags.contains element.tagName &&
      (element.attributes.any fun attr => Node.isHandlerName attr.name) &&
      hasContent element).toList.map fun element =>
        .of .idiom element
          ("Event handler on container <" ++ element.tagName ++ "> - event delegation pattern")

/-- Detectors of components. -/
def components : Collection where
  suite :=
    { name := "component_patterns"
      category := "react-components"
      order := 330
      home := "codecoach.rules.react.component_patterns"
      requiresReact := true }
  detectors :=
    [.fallible "find_props_destructuring" "props-destructuring" propsDestructuring,
     .of "find_prop_types_validation" "prop-types-validation" propTypes,
     .fallible "find_default_props" "default-props" defaultProps,
     .of "find_uncontrolled_components" "uncontrolled-components" uncontrolledFields,
     .of "find_component_composition" "component-composition" composition,
     .of "find_conditional_component_rendering" "conditional-component-rendering"
       conditionalRendering,
     .of "find_event_handler_params" "event-handler-params" handlerParameters,
     .of "find_prevent_default" "prevent-default" preventDefault,
     .of "find_event_delegation" "event-delegation" delegation]

/-! ### Errors -/

/-- Whether a class is a component. -/
def extendsComponent (cls : Node root) : Bool :=
  cls.classSuperclass.any fun base =>
    base.identifierName == some "Component" || base.identifierName == some "PureComponent" ||
      base.memberProperty == some "Component"

/-- The member by which a class catches errors. -/
def catchingMember (cls : Node root) : Option String :=
  let methods := (cls.classMembers.filter fun member =>
    member.kind == .methodDefinition).filterMap Node.functionName
  let fields := (cls.classMembers.filter fun member =>
    member.kind == .fieldDefinition).filterMap fun member => member.fieldNameNode.map Node.text
  if methods.contains "componentDidCatch" then some "componentDidCatch"
  else if methods.contains "getDerivedStateFromError" ||
      fields.contains "getDerivedStateFromError" then
    some "getDerivedStateFromError"
  else none

/-- How a text mentions a class. -/
def classLabel (cls : Node root) : String :=
  match cls.functionName with
  | some "" | none => ""
  | some name => " '" ++ name ++ "'"

/-- Components that catch errors, and the library for them. -/
def boundaryBasics (context : Context root) : List (Finding root) :=
  ((context.ofKind .classDeclaration).filter extendsComponent).filterMap (fun cls =>
    (catchingMember cls).map fun member =>
      .of .idiom cls ("Error boundary class" ++ classLabel cls ++ " with " ++ member)) ++
  ((context.ofKind .importStatement).find? fun node =>
    (node.field .source).bind Node.stringValue == some "react-error-boundary").toList.map fun node =>
      .of .idiom node "react-error-boundary library used"

/-- Whether an element is an error boundary with one of the given attributes. -/
def boundaryHas (names : List String) (element : Node root) : Bool :=
  (element.tagNode.any fun tag =>
    tag.kind == .identifier && Text.mentions tag.text "errorboundary") &&
      element.attributes.any fun attr => names.contains attr.name

/-- What is shown after an error. -/
def boundaryFallback (context : Context root) : List (Finding root) :=
  ((context.ofKinds (Node.elementKinds ++ [.ifStatement])).filterMap fun node =>
    if node.kind == .ifStatement then
      if node.ifParts.condition.bind Node.memberProperty == some "hasError" then
        some (.of .idiom node "Error boundary renders fallback when hasError is true")
      else none
    else if boundaryHas ["fallback", "FallbackComponent", "fallbackRender"] node then
      some (.of .idiom node "Error boundary with fallback UI")
    else none).take 1

/-- Going on after an error. -/
def boundaryRecovery (context : Context root) : List (Finding root) :=
  ((context.ofKinds (.callExpression :: Node.elementKinds)).filterMap fun node =>
    if node.kind == .callExpression then
      if node.callName.any ["resetErrorBoundary", "resetError", "retry"].contains then
        some (.of .idiom node "Error recovery mechanism with reset/retry function")
      else none
    else if boundaryHas ["onReset", "resetKeys"] node then
      some (.of .idiom node "Error boundary with recovery/reset capability")
    else none).take 1

/-- Whether a loop waits inside a protected block. -/
def isRetryLoop (loop : Node root) : Bool :=
  (loop.contains fun node => node.kind == .tryStatement) &&
    loop.contains fun node => node.kind == .awaitExpression

/-- The text about a construct that retries. -/
def retryText (node : Node root) : Option String :=
  match node.kind with
  | .functionDeclaration =>
    (node.functionName.filter fun name => Text.mentions name "retry").map fun name =>
      "Retry logic in function '" ++ name ++ "'"
  | .variableDeclarator =>
    (node.declaratorName.filter fun name => Text.mentions name "retry").map fun name =>
      "Retry logic with '" ++ name ++ "'"
  | _ =>
    if isRetryLoop node then some "Retry loop with try-catch and async operations" else none

/-- Retrying. -/
def retry (context : Context root) : List (Finding root) :=
  ((context.ofKinds
    [.functionDeclaration, .variableDeclarator, .whileStatement, .forStatement]).filterMap
      fun node => (retryText node).map fun text => .of .idiom node text).take 1

/-- Detectors of error boundaries. -/
def boundaries : Collection where
  suite :=
    { name := "error_boundaries"
      category := "react-errors"
      order := 360
      home := "codecoach.rules.react.error_boundaries"
      requiresReact := true }
  detectors :=
    [.of "find_error_boundary_basics" "error-boundary-basics" boundaryBasics,
     .of "find_error_boundary_fallback" "error-boundary-fallback" boundaryFallback,
     .of "find_error_boundary_recovery" "error-boundary-recovery" boundaryRecovery,
     .of "find_retry_logic" "retry-logic" retry]

end SnippetTutor.Detectors.Components
