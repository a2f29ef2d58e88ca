import SnippetTutor.Detector.Hook
import SnippetTutor.Text.Infix

/-!
# State and rendering

* `state`: how state is changed, lifted, named and shaped;
* `rendering`: contexts, memoized components and what makes a component render again.
-/

namespace SnippetTutor.Detectors.State

variable {root : Tree}

/-! ### State -/

/-- Methods that change a list in place. -/
def changingMethods : List String :=
  ["push", "pop", "shift", "unshift", "splice", "sort", "reverse"]

/-- The text about a construct that changes state in place. -/
def directChange (names : List String) (node : Node root) : Option String :=
  if node.kind == .callExpression then
    match node.staticCall with
    | (some owner, some method) =>
      if changingMethods.contains method && names.contains owner then
        some ("Direct mutation of state with ." ++ method ++ "() - use immutable update instead")
      else none
    | _ => none
  else if (node.field .left).any fun left =>
      left.kind == .memberExpression &&
        (left.memberObject.bind Node.identifierName).any names.contains then
    some "Direct property assignment on state - use immutable update with spread/map"
  else none

/-- State changed in place, or one finding when none is. -/
def immutability (context : Context root) : List (Finding root) :=
  match context.stateNames with
  | [] => []
  | names =>
    let changes := (context.ofKinds [.callExpression, .assignmentExpression]).filterMap fun node =>
      (directChange names node).map fun text => .of .bad node text
    if changes.isEmpty then
      [.overall .idiom "State updates appear to follow immutability patterns"]
    else changes

/-- A setter that is passed on. -/
def lifting (context : Context root) : List (Finding root) :=
  let setters := context.stateSetters
  ((context.ofKind .jsxAttribute).find? fun attr =>
    ((Node.bracedValue attr.children[1]?).bind Node.identifierName).any
      setters.contains).toList.map fun attr =>
        .of .idiom attr "State setter passed as prop - lifted state pattern"

/-- State with one of the given names. -/
def namedState (names : List String) (label : String) (context : Context root) :
    List (Finding root) :=
  ((context.stateBindings.filterMap fun binding =>
    (binding.state.filter names.contains).map fun name =>
      .of .idiom binding.call (label ++ " state '" ++ name ++ "' tracked with useState"))).take 1

/-- State that tells whether something is being loaded. -/
def loadingStates (context : Context root) : List (Finding root) :=
  namedState ["loading", "isLoading", "isFetching", "pending", "isPending"] "Loading" context

/-- State that tells about an error. -/
def errorStates (context : Context root) : List (Finding root) :=
  namedState ["error", "isError", "hasError", "errorMessage", "err"] "Error" context

/-- Whether a function is named or parametrized like a reducer. -/
def looksLikeReducer (function : Node root) : Bool :=
  (function.functionName.any fun name => Text.mentions name "reducer") ||
    match function.parameters with
    | [first, second] => first.name == some "state" || second.name == some "action"
    | _ => false

/-- Whether a `switch` stands within the scan depth of a function's body. -/
def switches (context : Context root) (function : Node root) : Except Fault Bool :=
  match function.functionBody with
  | some body => context.scanContains body fun node => node.kind == .switchStatement
  | none => .ok false

/-- Reducers that switch over actions. -/
def reducers (context : Context root) : Except Fault (List (Finding root)) := do
  let candidates := (context.ofKinds Node.deferredKinds).filter looksLikeReducer
  let found ← candidates.filterM fun function => switches context function
  return found.map fun function =>
    .of .idiom function "Reducer with switch/case action handling pattern"

/-- A reducer over an object with several keys. -/
def complexState (context : Context root) : List (Finding root) :=
  ((context.callsOf "useReducer").find? fun call =>
    call.arguments[1]?.any fun initial =>
      initial.kind == .object && 3 ≤ initial.children.length).toList.map fun call =>
        .of .idiom call "useReducer managing complex state object"

/-- The key of a property of an object literal, when it is an identifier. -/
def identifierKey (property : Node root) : Option String :=
  let key? :=
    match property.kind with
    | .pair => property.field .key
    | .methodDefinition => property.field .name
    | _ => none
  if property.kind == .shorthandPropertyIdentifier then some property.text
  else key?.bind fun key => if key.kind == .propertyIdentifier then some key.text else none

/-- Whether an object literal has the shape of normalized data. -/
def isNormalized (node : Node root) : Bool :=
  let keys := node.children.filterMap identifierKey
  let mentioned (word : String) : Bool := keys.any fun key => Text.mentions key word
  (mentioned "byid" && mentioned "allids") || mentioned "entities"

/-- Normalized state. -/
def normalization (context : Context root) : List (Finding root) :=
  ((context.ofKind .object).find? isNormalized).toList.map fun node =>
    .of .idiom node "Normalized state structure detected (byId/allIds or entities pattern)"

/-- Detectors of state. -/
def state : Collection where
  suite :=
    { name := "state_patterns"
      category := "react-state"
      order := 340
      home := "codecoach.rules.react.state_patterns"
      requiresReact := true }
  detectors :=
    [.of "find_state_immutability" "state-immutability" immutability,
     .of "find_lifting_state" "lifting-state" lifting,
     .of "find_loading_states" "loading-states" loadingStates,
     .of "find_error_state_handling" "error-state-handling" errorStates,
     .fallible "find_reducer_patterns" "reducer-patterns" reducers,
     .of "find_complex_state" "complex-state" complexState,
     .of "find_state_normalization" "state-normalization" normalization]

/-! ### Rendering -/

/-- Whether a call is that of a function of React, bare or through its module. -/
def callsReact (name : String) (call : Node root) : Bool :=
  ((call.field .function).bind Node.plainName) == some name || call.callsStatic "React" name

/-- The first call of a function of React. -/
def firstReactCall (name details : String) (context : Context root) : List (Finding root) :=
  ((context.ofKind .callExpression).find? (callsReact name)).toList.map fun call =>
    .of .idiom call details

/-- Whether an element provides a context. -/
def isProvider (element : Node root) : Bool :=
  element.tagNode.any fun tag =>
    match tag.kind with
    | .identifier => tag.text.endsWith "Provider"
    | .memberExpression => (tag.field .property).map Node.text == some "Provider"
    | _ => false

/-- An element that provides a context. -/
def contextProvider (context : Context root) : List (Finding root) :=
  (context.elements.find? isProvider).toList.map fun element =>
    .of .idiom element "Context Provider component used"

/-- Whether provided values are memoized. -/
def contextPerformance (context : Context root) : List (Finding root) :=
  if context.elements.any isProvider then
    if (context.callsOf "useMemo").isEmpty then
      [.overall .minorBad
        "Context Provider without memoized value - may cause unnecessary re-renders"]
    else
      [.overall .idiom
        "Context value memoized with useMemo to prevent unnecessary re-renders"]
  else []

/-- The values of the keys below a construct that are written in braces. -/
def keyValues (callback : Node root) : List (Option (Node root)) :=
  ((callback.descendants.filter Node.isElement).flatMap Node.attributes).filterMap fun attr =>
    if attr.name == "key" && Node.kindOf attr.value == .jsxExpression then
      some (Node.bracedValue attr.value)
    else none

/-- Whether a key changes with every rendering. -/
def isUnstable (value? : Option (Node root)) : Bool :=
  value?.any fun value =>
    value.kind == .callExpression &&
      (value.callsStatic "Math" "random" || value.callsStatic "Date" "now")

/-- The verdict on the keys of a list. -/
def judgeStability (call : Node root) : Option (Finding root) :=
  call.arguments.head?.bind fun callback =>
    let values := keyValues callback
    if values.any isUnstable then
      some (.of .bad call "Unstable key (Math.random/Date.now) causes unnecessary re-renders")
    else if values.any fun value? => Node.kindOf value? != .callExpression then
      some (.of .idiom call "Stable key prop used for optimized reconciliation")
    else none

/-- Keys of one list, preferably one with unstable keys. -/
def keyStability (context : Context root) : List (Finding root) :=
  let findings := (context.methodCallsOf "map").filterMap judgeStability
  match findings.filter fun finding => finding.verdict == .bad with
  | [] => findings.take 1
  | unstable => unstable.take 1

/-- A property that is a new object or array each time. -/
def rerenders (context : Context root) : List (Finding root) :=
  ((context.allAttributes.filter fun attr =>
    !(["className", "key", "ref"].contains attr.name)).filterMap fun attr =>
      (match Node.kindOf (Node.bracedValue attr.value) with
        | .object => some "object"
        | .array => some "array"
        | _ => none).map fun literal =>
          .of .minorBad attr.node
            ("Inline " ++ literal ++ " in JSX prop creates new reference each render")).take 1

/-- Detectors of rendering. -/
def rendering : Collection where
  suite :=
    { name := "advanced_react"
      category := "react-advanced"
      order := 350
      home := "codecoach.rules.react.advanced_react"
      requiresReact := true }
  detectors :=
    [.of "find_context_basics" "context-basics"
       (firstReactCall "createContext" "React Context created with createContext()"),
     .of "find_context_provider" "context-provider" contextProvider,
     .of "find_context_performance" "context-performance" contextPerformance,
     .of "find_react_memo" "react-memo"
       (firstReactCall "memo" "React.memo() used to prevent unnecessary re-renders"),
     .of "find_key_optimization" "key-optimization" keyStability,
     .of "find_unnecessary_rerenders" "unnecessary-rerenders" rerenders]

end SnippetTutor.Detectors.State
