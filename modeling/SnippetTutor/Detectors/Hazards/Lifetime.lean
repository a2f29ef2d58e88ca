import SnippetTutor.Detector.Hazard
import SnippetTutor.Detector.Hook
import SnippetTutor.Detectors.Hazards.Sharing

/-!
# State and effects that outlive their use

State that is changed behind the back of its component, and effects that subscribe to something
without ever unsubscribing.
-/

namespace SnippetTutor.Detectors.Hazards

variable {root : Tree}

/-- A name, or a question mark in place of an empty or missing one. -/
def nameOrUnknown : Option String → String
  | some "" | none => "?"
  | some name => name

/-- The property that is written to. -/
def writtenKey (target : Node root) : String :=
  if target.kind == .memberExpression then nameOrUnknown target.memberProperty
  else nameOrUnknown (target.subscriptIndex.bind Node.identifierName)

/-- An assignment to a part of the state. -/
def stateAssignment (names : List String) (node : Node root) : Option (Hazard root) :=
  (node.fieldInside .left).bind fun target =>
    if target.kind == .memberExpression || target.kind == .subscriptExpression then
      ((target.memberObject.bind Node.identifierName).filter names.contains).map fun name =>
        { site := node
          details := "Direct mutation of state variable '" ++ name ++ "." ++ writtenKey target ++
            "' — use the setter function with a new object/array instead." }
    else none

/-- A call that changes the state in place. -/
def stateCall (names : List String) (call : Node root) : Option (Hazard root) :=
  match call.staticCall with
  | (some name, some method) =>
    if names.contains name && AliasMap.mutatingMethods.contains method then
      some
        { site := call
          details := "Calling '" ++ name ++ "." ++ method ++
            "()' mutates state directly — use the setter with a new array (e.g., [..." ++ name ++
            ", newItem])." }
    else none
  | _ => none

/-- State that is changed in place: assignments first, then calls. -/
def stateMutations (context : Context root) : List (Hazard root) :=
  let names := context.stateNames
  (context.ofKinds assignmentKinds).filterMap (stateAssignment names) ++
    (context.ofKind .callExpression).filterMap (stateCall names)

/-- Methods and functions that subscribe to something. -/
def subscribing : List String :=
  ["addEventListener", "setInterval", "setTimeout", "subscribe", "observe", "on"]

/-- The name that a call goes by, as a method or bare. -/
def subscriptionName (call : Node root) : Option String :=
  match call.methodName with
  | some "" | none => call.callName
  | some method => some method

/-- The last subscription made inside an effect. -/
def lastSubscription (callback : Node root) : Option String :=
  match callback.field .body with
  | some body =>
    ((body.descendants.filter fun node => node.kind == .callExpression).filterMap fun call =>
      (subscriptionName call).filter subscribing.contains).getLast?
  | none => none

/-- Whether an effect returns a function at the top level of its block. -/
def returnsCleanup (callback : Node root) : Bool :=
  callback.blockStatements.any fun body => body.any fun statement =>
    statement.kind == .returnStatement && statement.firstExpression.any Node.isFunctionLiteral

/-- Effects that subscribe without cleaning up. -/
def missingCleanups (context : Context root) : List (Hazard root) :=
  (context.callsOf "useEffect").filterMap fun call =>
    call.arguments.head?.bind fun callback =>
      if callback.isFunctionLiteral && !returnsCleanup callback then
        (lastSubscription callback).map fun name =>
          { site := call
            details := "useEffect uses '" ++ name ++
              "' but has no cleanup return — may cause memory leaks. " ++
              "Return a cleanup function." }
      else none

end SnippetTutor.Detectors.Hazards
