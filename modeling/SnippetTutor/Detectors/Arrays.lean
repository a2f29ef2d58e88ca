import SnippetTutor.Detector.Basic

/-!
# Array detectors

* `Iteration`: methods that take a callback (`map`, `filter`, `reduce` and their relatives), judged
  by the callback they are given;
* `Access`: methods that change, search and copy arrays, and access by position. Each topic is
  reported once for every variant, at its first occurrence.
-/

namespace SnippetTutor.Detectors.Arrays

variable {root : Tree}

/-! ### Iteration -/

/-- What the callback of a method that wants a result looks like, for the purpose of judging it. -/
structure Callback where
  given : Bool
  literal : Bool := false
  returns : Bool := true
  details : Option String := none

/-- Whether a return statement is at or near a construct. -/
def hasReturn (context : Context root) (body : Node root) : Except Fault Bool :=
  context.scanContains body fun node => node.kind == .returnStatement

/-- What the callback of a call looks like. -/
def callback (context : Context root) (method missingReturn : String) (call : Node root) :
    Except Fault Callback :=
  match call.arguments with
  | [] =>
    .ok
      { given := false
        details := if method == "map" then some "map() called without callback" else none }
  | argument :: _ =>
    if !argument.isFunctionLiteral then .ok { given := true }
    else
      match argument.functionBody with
      | some body =>
        if body.kind == .statementBlock then
          (hasReturn context body).map fun returns =>
            { given := true
              literal := true
              returns := returns
              details := some (if returns then method ++ "() with callback" else missingReturn) }
        else
          .ok { given := true, literal := true, details := some (method ++ "() with implicit return") }
      | none =>
        .ok { given := true, literal := true, details := some (method ++ "() with implicit return") }

/-- How a callback is judged. -/
def Callback.verdict (callback : Callback) : Verdict where
  positive := callback.given && callback.literal && callback.returns
  negative := !callback.given || (callback.literal && !callback.returns)
  idiomatic := callback.given && callback.literal && callback.returns
  praised := by simp +contextual

/-- Calls of a method whose callback should return something. -/
def callbackFindings (context : Context root) (method missingReturn : String) :
    Except Fault (List (Finding root)) :=
  (context.methodCalls [method]).mapM fun (call, _) =>
    (callback context method missingReturn call).map fun found =>
      { verdict := found.verdict, site := some call, details := found.details }

/-- Calls of `map`. -/
def map (context : Context root) : Except Fault (List (Finding root)) :=
  callbackFindings context "map"
    "map() callback has no return statement — will produce array of undefined"

/-- Calls of `filter`. -/
def filter (context : Context root) : Except Fault (List (Finding root)) :=
  callbackFindings context "filter"
    "filter() callback has no return statement — will always return undefined (falsy)"

/-- Whether an argument is an arrow function that takes an accumulator and an item. -/
def takesTwo (argument : Node root) : Bool :=
  argument.kind == .arrowFunction && 2 ≤ argument.parameters.length

/-- How the arguments of `reduce` are judged. -/
def reduceVerdict (arguments : List (Node root)) : Verdict where
  positive := arguments.head?.isSome && 2 ≤ arguments.length && arguments.head?.any takesTwo
  negative := !arguments.head?.isSome || !(2 ≤ arguments.length)
  idiomatic := arguments.head?.any takesTwo && 2 ≤ arguments.length
  praised := by cases arguments <;> simp +contextual

/-- Calls of `reduce`, which should have an initial value. -/
def reduce (context : Context root) : List (Finding root) :=
  (context.methodCalls ["reduce"]).map fun (call, _) =>
    { verdict := reduceVerdict call.arguments
      site := some call
      details :=
        if 2 ≤ call.arguments.length then none
        else some "reduce() without initial value can cause errors on empty arrays" }

/-- Calls of `find`. -/
def find (context : Context root) : List (Finding root) :=
  (context.methodCalls ["find"]).map fun (call, _) =>
    { verdict := .idiomOrBad !call.arguments.isEmpty, site := some call }

/-- Calls of `some` and `every`. -/
def someEvery (context : Context root) : List (Finding root) :=
  (context.methodCalls ["some", "every"]).map fun (call, method) =>
    .tested .idiomOrBad (!call.arguments.isEmpty) call (method ++ "() used correctly")
      (method ++ "() missing predicate")

/-- Calls of `forEach`. -/
def forEach (context : Context root) : List (Finding root) :=
  (context.methodCalls ["forEach"]).map fun (call, _) =>
    .of (if call.arguments.isEmpty then .minorBad else .minorGood) call
      "Consider if map/filter would be more appropriate"

/-- Methods that are commonly chained. -/
def chainMethods : List String :=
  ["map", "filter", "reduce", "find", "some", "every", "flatMap", "flat"]

/-- Calls of an array method on the result of another one. -/
def methodChaining (context : Context root) : List (Finding root) :=
  ((context.methodCalls chainMethods).filter fun (call, _) =>
    call.receiver.any fun inner =>
      inner.kind == .callExpression && inner.methodName.any chainMethods.contains).map
    fun (call, _) => .of .idiom call "Chained array methods detected"

/-- Detectors of iteration methods. -/
def iteration : Collection where
  suite :=
    { name := "array_methods"
      category := "arrays"
      order := 10
      home := "codecoach.rules.javascript.array_methods" }
  detectors :=
    [.fallible "find_array_map" "array-map" map,
     .fallible "find_array_filter" "array-filter" filter,
     .of "find_array_reduce" "array-reduce" reduce,
     .of "find_array_find" "array-find" find,
     .of "find_array_some_every" "array-some-every" someEvery,
     .of "find_array_foreach" "array-foreach" forEach,
     .of "find_array_method_chaining" "array-method-chaining" methodChaining]

/-! ### Access -/

/-- Calls with a text for each of several methods, the first for every text. -/
def oncePerText (calls : List (Node root × String)) (textOf : Keyed String) :
    List (Finding root) :=
  keepFirst Finding.details
    (calls.filterMap fun (call, method) =>
      (textOf.get? method).map fun details => .of .idiom call details)

/-- Texts about adding and removing at the end. -/
def pushPopTexts : Keyed String :=
  [("push", ".push() used to add elements"), ("pop", ".pop() used to remove last element")]

/-- Texts about copying. -/
def sliceConcatTexts : Keyed String :=
  [("slice", ".slice() used for non-mutating copy/subarray"),
   ("concat", ".concat() used for non-mutating merge")]

/-- Texts about static methods of arrays. -/
def arrayStaticTexts : Keyed String :=
  [("from", "Array.from() used to create array from iterable"),
   ("isArray", "Array.isArray() used for type checking")]

/-- Adding and removing at the end. -/
def pushPop (context : Context root) : List (Finding root) :=
  oncePerText (context.methodCalls pushPopTexts.keys) pushPopTexts

/-- Adding and removing at the start. -/
def shiftUnshift (context : Context root) : List (Finding root) :=
  ((context.methodCalls ["shift", "unshift"]).take 1).map fun (call, method) =>
    .of .idiom call ("." ++ method ++ "() used")

/-- Changing in place. -/
def splice (context : Context root) : List (Finding root) :=
  ((context.methodCalls ["splice"]).take 1).map fun (call, _) =>
    .of .idiom call ".splice() used for in-place array modification"

/-- Searching for a value. -/
def indexOfIncludes (context : Context root) : List (Finding root) :=
  keepFirst Finding.details
    ((context.methodCalls ["indexOf", "includes"]).map fun (call, method) =>
      if method == "indexOf" then
        .of .minorGood call ".indexOf() used — consider .includes() for boolean checks"
      else .of .idiom call ".includes() used for membership check")

/-- Sorting, which should have a comparator. -/
def sort (context : Context root) : List (Finding root) :=
  ((context.methodCalls ["sort"]).take 1).map fun (call, _) =>
    .tested .idiomOrBad (!call.arguments.isEmpty) call ".sort() with comparator function"
      ".sort() without comparator — may produce unexpected results for numbers"

/-- Copying. -/
def sliceConcat (context : Context root) : List (Finding root) :=
  oncePerText (context.methodCalls sliceConcatTexts.keys) sliceConcatTexts

/-- Flattening. -/
def flatFlatMap (context : Context root) : List (Finding root) :=
  ((context.methodCalls ["flat", "flatMap"]).take 1).map fun (call, method) =>
    .of .idiom call ("." ++ method ++ "() used for array flattening")

/-- Static methods of arrays. -/
def fromIsArray (context : Context root) : List (Finding root) :=
  oncePerText (context.staticCalls "Array" arrayStaticTexts.keys) arrayStaticTexts

/-- Reading a length. -/
def length (context : Context root) : List (Finding root) :=
  (((context.ofKind .memberExpression).filter fun node =>
    node.memberProperty == some "length").take 1).map fun node =>
      .of .idiom node ".length property accessed"

/-- Access by a number. -/
def byPosition (context : Context root) : List (Finding root) :=
  (((context.ofKind .subscriptExpression).filter fun node =>
    Node.kindOf node.subscriptIndex == .number).take 1).map fun node =>
      .of .idiom node "Bracket notation used for indexed access"

/-- Detectors of access to arrays. -/
def access : Collection where
  suite :=
    { name := "array_mutation_methods"
      category := "arrays"
      order := 70
      home := "codecoach.rules.javascript.array_mutation_methods" }
  detectors :=
    [.of "find_push_pop" "array-push-pop" pushPop,
     .of "find_shift_unshift" "array-shift-unshift" shiftUnshift,
     .of "find_splice" "array-splice" splice,
     .of "find_index_of_includes" "array-indexOf-includes" indexOfIncludes,
     .of "find_sort" "array-sort" sort,
     .of "find_slice_concat" "array-slice-concat" sliceConcat,
     .of "find_flat_flat_map" "array-flat-flatMap" flatFlatMap,
     .of "find_array_from_is_array" "array-from-isArray" fromIsArray,
     .of "find_array_length" "array-length" length,
     .of "find_bracket_notation" "bracket-notation" byPosition]

end SnippetTutor.Detectors.Arrays
