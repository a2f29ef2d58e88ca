import SnippetTutor.Detector.Hazard

/-!
# Values with several owners

Changes that show in more places than one: through another name, another property, a copy that is
only one level deep, or a loop over the very list that is changed.
-/

namespace SnippetTutor.Detectors.Hazards

variable {root : Tree}

/-- Constructs that assign. -/
def assignmentKinds : List Kind := [.assignmentExpression, .augmentedAssignmentExpression]

/-- Changes of an object that has several names. -/
def sharedReferences (context : Context root) : List (Hazard root) :=
  context.aliases.mutated.flatMap fun group =>
    group.mutations.map fun mutation =>
      { site := mutation.site
        details := "Mutating shared object '" ++ group.source ++ "' via '" ++ mutation.path ++
          "' — also referenced by " ++ ", ".intercalate group.others ++
          ". Use spread/Object.assign to create a copy first." }

/-! ### Properties -/

/-- The variable that a property of an object literal refers to. -/
def referredName (property : Node root) : Option String :=
  match property.kind with
  | .shorthandPropertyIdentifier => some property.text
  | .pair => (property.field .value).bind Node.identifierName
  | _ => none

/-- The properties that refer to an object or array, by its name. -/
def propertyReferences (context : Context root) : Keyed (List (Node root)) :=
  ((context.ofKind .object).flatMap Node.children).foldl
    (fun references property =>
      match referredName property with
      | some name =>
        if (context.typeOf name).isContainer then
          references.put name (((references.get? name).getD []) ++ [property])
        else references
      | none => references)
    []

/-- Objects that several properties refer to. -/
def missingSpreads (context : Context root) : List (Hazard root) :=
  (propertyReferences context).filterMap fun (name, references) =>
    references[1]?.map fun second =>
      { site := second
        details := "Object '" ++ name ++ "' assigned by reference to " ++
          toString references.length ++ " properties — mutating one affects all. Use spread (\x7b..." ++
          name ++ "\x7d) to create independent copies." }

/-! ### Copies -/

/-- The variable that a spread element spreads. -/
def spreadName (element : Node root) : Option String :=
  if element.kind == .spreadElement then element.children.head?.bind Node.identifierName else none

/-- The variable that a value is a copy of, one level deep. -/
def copiedName (context : Context root) (value : Node root) : Option String :=
  match value.kind with
  | .object =>
    (value.children.filterMap spreadName).head?.filter fun name =>
      context.typeOf name == .object || context.typeOf name == .unknown
  | .callExpression =>
    if value.callsStatic "Object" "assign" then
      match value.arguments with
      | target :: source :: _ =>
        if target.kind == .object && target.children.isEmpty then source.identifierName else none
      | _ => none
    else none
  | .array =>
    match value.children with
    | [element] =>
      (spreadName element).filter fun name =>
        context.typeOf name == .array || context.typeOf name == .unknown
    | _ => none
  | _ => none

/-- The variables that are copies, one level deep, with the variables they are copies of. -/
def shallowCopies (context : Context root) : Keyed String :=
  (context.ofKind .variableDeclarator).foldl
    (fun copies declarator =>
      match declarator.declaratorName,
          declarator.declaratorParts.2.bind (copiedName context) with
      | some name, some source => copies.put name source
      | _, _ => copies)
    []

/-- The copy, the variable copied and the path of a nested access through the copy. -/
def nestedAccess (copies : Keyed String) (target? : Option (Node root)) :
    Option (String × String × List String) :=
  (target?.bind Node.memberChain).bind fun (start, keys) =>
    if 2 ≤ keys.length then (copies.get? start).map fun source => (start, source, keys)
    else none

/-- A nested part of a copy that is assigned. -/
def nestedAssignment (copies : Keyed String) (node : Node root) :
    Option (String × Hazard root) :=
  (nestedAccess copies (node.field .left)).map fun (copy, source, keys) =>
    (copy,
      { site := node
        details := "Shallow copy '" ++ copy ++ "' (from '" ++ source ++
          "') has nested property '" ++ ".".intercalate keys ++
          "' mutated — this modifies the original '" ++ source ++
          "' too. Spread/Object.assign only copies the top level. " ++
          "Use structuredClone() or deep-clone nested objects." })

/-- A nested part of a copy that is changed by a method. -/
def nestedCall (copies : Keyed String) (call : Node root) : Option (String × Hazard root) :=
  (nestedAccess copies (call.field .function)).bind fun (copy, source, keys) =>
    if keys.getLast?.any AliasMap.mutatingMethods.contains then
      some (copy,
        { site := call
          details := "Shallow copy '" ++ copy ++ "' (from '" ++ source ++ "') calls '" ++
            ".".intercalate keys ++ "()' — this mutates a nested reference shared with the original '" ++
            source ++ "'. Spread only copies the top level." })
    else none

/-- Changes inside copies that are only one level deep, once per copy. -/
def nestedMutations (context : Context root) : List (Hazard root) :=
  let copies := shallowCopies context
  Hazard.oncePerName
    ((context.ofKinds assignmentKinds).filterMap (nestedAssignment copies) ++
      (context.ofKind .callExpression).filterMap (nestedCall copies))

/-! ### Iteration -/

/-- Methods that run over an array. -/
def iterationMethods : List String :=
  ["map", "forEach", "filter", "find", "findIndex", "some", "every", "flatMap", "reduce"]

/-- How a construct changes an array, if it does. -/
def arrayChange (array : String) (node : Node root) : Option String :=
  if node.kind == .callExpression then
    match node.staticCall with
    | (some owner, some method) =>
      if owner == array && AliasMap.mutatingMethods.contains method then some method else none
    | _ => none
  else if node.isOneOf assignmentKinds then
    (node.fieldInside .left).bind fun left =>
      if left.kind == .subscriptExpression &&
          left.memberObject.bind Node.identifierName == some array then
        some "index assignment"
      else none
  else none

/-- The parts of a callback that run at once. -/
def callbackParts (callback : Node root) : List (Node root) :=
  match callback.field .body with
  | some body => if body.kind == .statementBlock then body.children else [body]
  | none => []

/-- The first change of an array inside a callback. -/
def selfMutation (callback : Node root) (array : String) : Option (Node root × String) :=
  (((callbackParts callback).filter fun part => !part.isDeferred).flatMap
    (Node.descendantsOutside Node.isDeferred)).findSome? fun node =>
      (arrayChange array node).map fun change => (node, change)

/-- Arrays that are changed while they are run over, once per array. -/
def selfMutations (context : Context root) : List (Hazard root) :=
  Hazard.oncePerName
    ((context.methodCalls iterationMethods).filterMap fun (call, method) =>
      match call.receiver.bind Node.identifierName, call.arguments.head? with
      | some array, some callback =>
        if callback.isFunctionLiteral then
          (selfMutation callback array).map fun (site, change) =>
            (array,
              { site := site
                details := "Array '" ++ array ++ "' is mutated via ." ++ change ++
                  "() inside its own ." ++ method ++
                  "() callback — this changes the array while iterating over it, " ++
                  "leading to unpredictable results. " ++
                  "Collect changes separately and apply after iteration." })
        else none
      | _, _ => none)

end SnippetTutor.Detectors.Hazards
