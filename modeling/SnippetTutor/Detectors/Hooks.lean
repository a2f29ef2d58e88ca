import SnippetTutor.Detector.Hook

/-!
# Hooks of React

* `hooks`: state, effects, memoized values and functions that are named like hooks;
* `hookDesign`: effects that go wrong, references, and what hooks take and return.
-/

namespace SnippetTutor.Detectors.Hooks

variable {root : Tree}

/-! ### Use of hooks -/

/-- Calls of a hook that takes a dependency array. -/
def dependencyHook (hook : String) (context : Context root) : List (Finding root) :=
  (context.callsOf hook).map fun call =>
    .tested .idiomOrBad (2 ≤ call.arguments.length) call (hook ++ " with dependency array")
      (hook ++ " missing dependency array")

/-- How state is judged by whether it is taken apart. It is in order either way. -/
def stateVerdict (takenApart : Bool) : Verdict where
  positive := true
  negative := !takenApart
  idiomatic := takenApart
  praised := by simp

/-- State, taken apart into value and setter or not. -/
def stateBasics (context : Context root) : List (Finding root) :=
  (context.callsOf "useState").map fun call =>
    .tested stateVerdict (2 ≤ (Node.childrenOf call.statePattern).length) call
      "useState with proper array destructuring"
      "useState should use array destructuring [state, setState]"

/-- State replaced by a function of the old state. -/
def functionalUpdates (context : Context root) : List (Finding root) :=
  ((context.callsNamed context.stateSetters).filter fun (call, _) =>
    call.arguments.head?.any Node.isFunctionLiteral).map fun (call, _) =>
      .of .idiom call "Functional update pattern used for setState"

/-- How an effect is judged by whether it has a function and dependencies. -/
def effectVerdict (given dependent : Bool) : Verdict where
  positive := given
  negative := !given
  idiomatic := given && dependent
  praised := by simp +contextual

/-- Effects, with or without dependencies. -/
def effectBasics (context : Context root) : List (Finding root) :=
  (context.callsOf "useEffect").map fun call =>
    .tested (effectVerdict !call.arguments.isEmpty) (2 ≤ call.arguments.length) call
      "useEffect with dependency array" "useEffect without dependency array"

/-- The dependencies of effects. -/
def effectDependencies (context : Context root) : List (Finding root) :=
  (context.callsOf "useEffect").filterMap fun call =>
    match call.arguments with
    | [] => none
    | [_] => some (.of .bad call "Missing dependency array - effect runs on every render")
    | _ :: dependencies :: _ =>
      if dependencies.kind == .array then
        let count := dependencies.children.length
        some (.of .idiom call
          (if count == 0 then "Empty dependency array - runs once on mount"
           else "Dependency array with " ++ toString count ++ " dependencies"))
      else none

/-- Effects that clean up. -/
def effectCleanup (context : Context root) : List (Finding root) :=
  ((context.callsOf "useEffect").filter Node.effectReturns).map fun call =>
    .of .idiom call "useEffect with cleanup function"

/-- Use of references. -/
def refBasics (context : Context root) : List (Finding root) :=
  (context.callsOf "useRef").map fun call => .of .idiom call "useRef hook used"

/-- State kept by a reducer. -/
def reducerBasics (context : Context root) : List (Finding root) :=
  (context.callsOf "useReducer").map fun call =>
    .of (.idiomOrBad (2 ≤ call.arguments.length)) call "useReducer for complex state management"

/-- Use of a context. -/
def contextHook (context : Context root) : List (Finding root) :=
  (context.callsOf "useContext").map fun call =>
    .of .idiom call "useContext hook for consuming context"

/-- Hooks that pass a test, with a text about each. -/
def praiseHooks (context : Context root) (test : HookDefinition root → Bool) (rest : String) :
    List (Finding root) :=
  (context.hookDefinitions.filter test).map fun hook =>
    .of .idiom hook.site ("Custom hook " ++ hook.name ++ rest)

/-- Hooks that the snippet defines. -/
def customHooks (context : Context root) : List (Finding root) :=
  praiseHooks context (fun _ => true) " defined"

/-- Detectors of hooks in use. -/
def hooks : Collection where
  suite :=
    { name := "react_hooks"
      category := "react-hooks"
      order := 300
      home := "codecoach.rules.react.react_hooks"
      requiresReact := true }
  detectors :=
    [.of "find_use_state_basics" "usestate-basics" stateBasics,
     .of "find_use_state_functional_updates" "usestate-functional-updates" functionalUpdates,
     .of "find_use_effect_basics" "useeffect-basics" effectBasics,
     .of "find_use_effect_dependencies" "useeffect-dependencies" effectDependencies,
     .of "find_use_effect_cleanup" "useeffect-cleanup" effectCleanup,
     .of "find_use_ref_basics" "useref-basics" refBasics,
     .of "find_use_memo_basics" "usememo-basics" (dependencyHook "useMemo"),
     .of "find_use_callback_basics" "usecallback-basics" (dependencyHook "useCallback"),
     .of "find_use_reducer_basics" "usereducer-basics" reducerBasics,
     .of "find_use_context_hook" "usecontext-hook" contextHook,
     .of "find_custom_hook_basics" "custom-hook-basics" customHooks]

/-! ### Design of hooks -/

/-- Whether an asynchronous function stands inside a function. -/
def holdsAsync (callback : Node root) : Bool :=
  callback.contains fun node => node.isDeferred && node.isAsync && node ≠ callback

/-- Asynchronous effects. -/
def asyncEffects (context : Context root) : List (Finding root) :=
  (context.callsOf "useEffect").filterMap fun call =>
    call.arguments.head?.bind fun callback =>
      if callback.isFunctionLiteral && callback.isAsync then
        some (.of .bad call ("async function passed directly to useEffect - " ++
          "define async function inside and call it"))
      else if holdsAsync callback then
        some (.of .idiom call "Async logic properly wrapped inside useEffect callback")
      else none

/-- Effects that set state every time they run. -/
def endlessEffects (context : Context root) : List (Finding root) :=
  let setters := context.stateSetters
  ((context.callsOf "useEffect").filter fun call =>
    match call.arguments with
    | [callback] =>
      callback.contains fun node =>
        node.kind == .callExpression && node.callName.any setters.contains
    | _ => false).map fun call =>
      .of .bad call "useEffect sets state without dependency array - potential infinite loop"

/-- The `ref` attributes of elements. -/
def refAttributes (context : Context root) : List (Attribute root) :=
  context.elements.filterMap fun element => element.attributeNamed "ref"

/-- A reference to an element. -/
def elementRefs (context : Context root) : List (Finding root) :=
  ((refAttributes context).take 1).map fun attr =>
    .of .idiom attr.node "ref attribute used on DOM element"

/-- A reference that is written to. -/
def mutableRefs (context : Context root) : List (Finding root) :=
  ((context.ofKind .assignmentExpression).find? fun node =>
    (node.field .left).bind Node.memberProperty == some "current").toList.map fun node =>
      .of .idiom node "Mutable ref value updated via .current assignment"

/-- A reference that is a function. -/
def callbackRefs (context : Context root) : List (Finding root) :=
  ((refAttributes context).find? fun attr =>
    (Node.bracedValue attr.value).any Node.isFunctionLiteral).toList.map fun attr =>
      .of .idiom attr.node "Callback ref pattern used"

/-- Hooks with parameters. -/
def hookParameters (context : Context root) : List (Finding root) :=
  praiseHooks context (fun hook => !hook.function.parameters.isEmpty) " accepts parameters"

/-- Hooks that return a value. -/
def hookReturns (context : Context root) : List (Finding root) :=
  praiseHooks context
    (fun hook => hook.function.blockStatements.any fun body => body.any fun statement =>
      statement.kind == .returnStatement && statement.firstExpression.isSome)
    " returns values"

/-- Hooks that call hooks. -/
def hookComposition (context : Context root) : List (Finding root) :=
  praiseHooks context
    (fun hook => hook.function.functionBody.any fun body =>
      body.containsOutside Node.isDeferred fun node =>
        node.kind == .callExpression && node.callName.any isHookName)
    " composes other hooks"

/-- Detectors of the design of hooks. -/
def hookDesign : Collection where
  suite :=
    { name := "advanced_hooks"
      category := "react-hooks"
      order := 320
      home := "codecoach.rules.react.advanced_hooks"
      requiresReact := true }
  detectors :=
    [.of "find_use_effect_async" "useeffect-async" asyncEffects,
     .of "find_use_effect_infinite_loop" "useeffect-infinite-loop" endlessEffects,
     .of "find_use_ref_dom" "useref-dom" elementRefs,
     .of "find_use_ref_mutable" "useref-mutable" mutableRefs,
     .of "find_callback_refs" "callback-refs" callbackRefs,
     .of "find_custom_hook_parameters" "custom-hook-parameters" hookParameters,
     .of "find_custom_hook_return" "custom-hook-return" hookReturns,
     .of "find_custom_hook_composition" "custom-hook-composition" hookComposition]

end SnippetTutor.Detectors.Hooks
