import SnippetTutor.Detector.Basic

/-!
# Numbers, serialised data, collections and dates

Detectors of the built-in kinds of values and of what is done with them.
-/

namespace SnippetTutor.Detectors.Values

variable {root : Tree}

/-! ### Numbers -/

/-- What is said about a call that converts to a number. -/
def conversion? (call : Node root) : Option (Finding root) :=
  match call.callName with
  | some "parseInt" =>
    if call.arguments.length < 2 then
      some (.of .minorMixed call "parseInt() without radix parameter")
    else some (.of .idiom call "parseInt() used for number parsing")
  | some "parseFloat" => some (.of .idiom call "parseFloat() used for number parsing")
  | some "Number" => some (.of .idiom call "Number() used for number conversion")
  | _ =>
    match call.staticCall with
    | (some "Number", some "parseInt") =>
      some (.of .idiom call "Number.parseInt() used for number conversion")
    | (some "Number", some "parseFloat") =>
      some (.of .idiom call "Number.parseFloat() used for number conversion")
    | _ => none

/-- Every call that converts to a number, or else every unary plus. -/
def numberParsing (context : Context root) : List (Finding root) :=
  let conversions := (context.ofKind .callExpression).filterMap conversion?
  if conversions.isEmpty then
    ((context.ofKind .unaryExpression).filter fun node => node.hasOperator "+").map fun node =>
      .of .minorGood node "Unary + used for number coercion — consider Number() for clarity"
  else conversions

/-- Checks of numbers. -/
def numberChecks : List String := ["isNaN", "isFinite", "isInteger", "isSafeInteger"]

/-- A check of a number. -/
def numberChecking (context : Context root) : List (Finding root) :=
  ((context.ofKind .callExpression).filterMap fun call =>
    if call.calls "isNaN" then
      some (.of .minorMixed call "Global isNaN() — prefer Number.isNaN() for strict checking")
    else
      match call.staticCall with
      | (some "Number", some method) =>
        if numberChecks.contains method then
          some (.of .idiom call ("Number." ++ method ++ "() used for number validation"))
        else none
      | _ => none).take 1

/-- Methods that format numbers. -/
def numberFormatters : List String := ["toFixed", "toPrecision", "toLocaleString"]

/-- Formatting of a number. -/
def numberFormatting (context : Context root) : List (Finding root) :=
  ((context.ofKinds [.callExpression, .newExpression]).filterMap fun node =>
    if node.kind == .newExpression then
      if node.callsStatic "Intl" "NumberFormat" then
        some (.of .idiom node "Intl.NumberFormat used for locale-aware formatting")
      else none
    else
      node.methodName.bind fun method =>
        if numberFormatters.contains method then
          some (.of .idiom node ("." ++ method ++ "() used for number formatting"))
        else none).take 1

/-- A mathematical function. -/
def mathMethods (context : Context root) : List (Finding root) :=
  ((context.ofKind .callExpression).find? fun call =>
    call.staticCall.1 == some "Math").toList.map fun call =>
      .of .idiom call ("Math." ++ call.methodName.getD "None" ++ "() used")

/-- Detectors of numbers. -/
def numbers : Collection where
  suite :=
    { name := "number_math"
      category := "numbers"
      order := 100
      home := "codecoach.rules.javascript.number_math" }
  detectors :=
    [.of "find_number_parsing" "number-parsing" numberParsing,
     .of "find_number_checking" "number-checking" numberChecking,
     .of "find_number_formatting" "number-formatting" numberFormatting,
     .of "find_math_methods" "math-methods" mathMethods]

/-! ### Serialised data -/

/-- Reading JSON, which should happen somewhere inside a `try` statement. -/
def jsonParse (context : Context root) : List (Finding root) :=
  ((context.staticCalls "JSON" ["parse"]).take 1).map fun (call, _) =>
    .tested .idiomOrBad (call.ancestors.any fun above => above.kind == .tryStatement) call
      "JSON.parse() with error handling"
      "JSON.parse() without try-catch — may throw on invalid JSON"

/-- Writing JSON. -/
def jsonStringify (context : Context root) : List (Finding root) :=
  ((context.staticCalls "JSON" ["stringify"]).take 1).map fun (call, _) =>
    .of .idiom call "JSON.stringify() used for serialization"

/-- Detectors of serialised data. -/
def json : Collection where
  suite :=
    { name := "json_operations"
      category := "data"
      order := 110
      home := "codecoach.rules.javascript.json_operations" }
  detectors :=
    [.of "find_json_parse" "json-parse" jsonParse,
     .of "find_json_stringify" "json-stringify" jsonStringify]

/-! ### Collections -/

/-- A map. -/
def mapBasics (context : Context root) : List (Finding root) :=
  ((context.constructions ["Map"]).take 1).map fun (node, _) =>
    .of .idiom node "Map collection used"

/-- A set. -/
def setBasics (context : Context root) : List (Finding root) :=
  ((context.constructions ["Set"]).take 1).map fun (node, _) =>
    .of .idiom node "Set collection used"

/-- Going through a collection, in a snippet that builds a map or a set. -/
def collectionIteration (context : Context root) : List (Finding root) :=
  if (context.constructions ["Map", "Set"]).isEmpty then []
  else
    ((context.methodCalls ["entries", "keys", "values", "forEach"]).take 1).map fun (call, method) =>
      .of .idiom call ("." ++ method ++ "() used for collection iteration")

/-- A weak reference. -/
def weakReferences (context : Context root) : List (Finding root) :=
  ((context.constructions ["WeakMap", "WeakSet", "WeakRef"]).take 1).map fun (node, name) =>
    .of .idiom node (name ++ " used for weak references")

/-- Detectors of collections. -/
def collections : Collection where
  suite :=
    { name := "map_set_collections"
      category := "collections"
      order := 160
      home := "codecoach.rules.javascript.map_set_collections" }
  detectors :=
    [.of "find_map_basics" "map-basics" mapBasics,
     .of "find_set_basics" "set-basics" setBasics,
     .of "find_map_set_iteration" "map-set-iteration" collectionIteration,
     .of "find_weak_map_weak_ref" "weakmap-weakref" weakReferences]

/-! ### Dates -/

/-- A date or a time stamp. -/
def dateCreation (context : Context root) : List (Finding root) :=
  ((context.ofKinds [.newExpression, .callExpression]).filterMap fun node =>
    if node.kind == .newExpression then
      if node.calls "Date" then some (.of .idiom node "new Date() used for date creation")
      else none
    else if node.callsStatic "Date" "now" then
      some (.of .idiom node "Date.now() used for timestamp")
    else none).take 1

/-- Methods that format dates, with whether they are recommended. -/
def dateFormatters : Keyed Bool :=
  [("toLocaleDateString", true), ("toLocaleTimeString", true), ("toLocaleString", true),
   ("toISOString", true), ("toDateString", false), ("toTimeString", false),
   ("toUTCString", false)]

/-- Formatting of a date. -/
def dateFormatting (context : Context root) : List (Finding root) :=
  ((context.ofKinds [.callExpression, .newExpression]).filterMap fun node =>
    if node.kind == .newExpression then
      if node.callsStatic "Intl" "DateTimeFormat" then
        some (.of .idiom node "Intl.DateTimeFormat used for locale-aware date formatting")
      else none
    else
      node.methodName.bind fun method =>
        (dateFormatters.get? method).map fun recommended =>
          .of (.idiomOrGood recommended) node
            ("." ++ method ++ "() used for date formatting")).take 1

/-- Methods that read and change parts of dates. -/
def datePartMethods : List String :=
  ["getTime", "getFullYear", "getMonth", "getDate", "getDay", "getHours", "getMinutes",
   "getSeconds", "getMilliseconds", "setFullYear", "setMonth", "setDate", "setHours",
   "setMinutes"]

/-- Reading or changing a part of a date. -/
def dateMethods (context : Context root) : List (Finding root) :=
  ((context.methodCalls datePartMethods).take 1).map fun (call, method) =>
    .of .idiom call ("." ++ method ++ "() Date method used")

/-- Detectors of dates. -/
def dates : Collection where
  suite :=
    { name := "date_handling"
      category := "dates"
      order := 180
      home := "codecoach.rules.javascript.date_handling" }
  detectors :=
    [.of "find_date_creation" "date-creation" dateCreation,
     .of "find_date_formatting" "date-formatting" dateFormatting,
     .of "find_date_methods" "date-methods" dateMethods]

end SnippetTutor.Detectors.Values
