import SnippetTutor.Detector.Basic

/-!
# Promises and timers

* `promises`: promises, asynchronous functions and the handling of their failures;
* `timers`: timers and rate limits. A timer function counts whether it is called by its bare name
  or as a method.
-/

namespace SnippetTutor.Detectors.Asynchrony

variable {root : Tree}

/-! ### Promises -/

/-- Constructed promises and calls of `then`. -/
def promiseBasics (context : Context root) : List (Finding root) :=
  (context.ofKinds [.newExpression, .callExpression]).filterMap fun node =>
    if node.kind == .newExpression then
      if node.calls "Promise" then some (.of .idiom node "Promise constructor used") else none
    else if node.methodName == some "then" then some (.of .idiom node ".then() used")
    else none

/-- Calls of `then` on the result of another one. -/
def promiseChaining (context : Context root) : List (Finding root) :=
  ((context.methodCalls ["then"]).filter fun (call, _) =>
    call.receiver.any fun inner =>
      inner.kind == .callExpression && inner.methodName == some "then").map fun (call, _) =>
        .of .idiom call "Promise chaining detected"

/-- Every failure handler, or one finding when there are chains and none of them has a handler. -/
def promiseCatch (context : Context root) : List (Finding root) :=
  let calls := context.methodCalls ["then", "catch"]
  let handlers := calls.filter fun (_, method) => method == "catch"
  if handlers.isEmpty then
    if calls.isEmpty then []
    else [.overall .bad "Promise chain without .catch() error handler"]
  else handlers.map fun (call, _) => .of .idiom call ".catch() error handler present"

/-- Asynchronous functions and awaited expressions. -/
def asyncAwaitBasics (context : Context root) : List (Finding root) :=
  (context.ofKinds
    [.functionDeclaration, .functionExpression, .arrowFunction, .awaitExpression]).filterMap
    fun node =>
      if node.kind == .awaitExpression then some (.of .idiom node "await expression used")
      else if node.isAsync then some (.of .idiom node "async function declared")
      else none

/-- Awaited expressions, which should be protected. -/
def asyncAwaitErrorHandling (context : Context root) : List (Finding root) :=
  (context.ofKind .awaitExpression).map fun node =>
    if node.inTryBlock then .of .idiom node "await properly wrapped in try-catch"
    else .of .bad node "await without try-catch error handling"

/-- Waiting for all of several promises. -/
def promiseAll (context : Context root) : List (Finding root) :=
  (context.staticCalls "Promise" ["all"]).map fun (call, _) =>
    .of .idiom call "Promise.all() for parallel execution"

/-- Waiting for the first of several promises. -/
def promiseRace (context : Context root) : List (Finding root) :=
  (context.staticCalls "Promise" ["race"]).map fun (call, _) =>
    .of .idiom call "Promise.race() detected"

/-- Requests that can be cancelled. -/
def requestCancellation (context : Context root) : List (Finding root) :=
  (context.constructions ["AbortController"]).map fun (node, _) =>
    .of .idiom node "AbortController for request cancellation"

/-- Detectors of promises. -/
def promises : Collection where
  suite :=
    { name := "async_patterns"
      category := "async"
      order := 20
      home := "codecoach.rules.javascript.async_patterns" }
  detectors :=
    [.of "find_promise_basics" "promise-basics" promiseBasics,
     .of "find_promise_chaining" "promise-chaining" promiseChaining,
     .of "find_promise_catch" "promise-catch" promiseCatch,
     .of "find_async_await_basics" "async-await-basics" asyncAwaitBasics,
     .of "find_async_await_error_handling" "async-await-error-handling" asyncAwaitErrorHandling,
     .of "find_promise_all" "promise-all" promiseAll,
     .of "find_promise_race" "promise-race" promiseRace,
     .of "find_request_cancellation" "request-cancellation" requestCancellation]

/-! ### Timers -/

/-- Calls of functions with one of the given names, bare or as methods. -/
def scheduledCalls (context : Context root) (names : List String) : List (Node root × String) :=
  Context.named (context.ofKind .callExpression) Node.calledName names

/-- How a delayed call is judged by whether it has a callback and a delay. -/
def timeoutVerdict (given delayed : Bool) : Verdict where
  positive := given && delayed
  negative := !given
  idiomatic := given && delayed
  praised := by simp +contextual

/-- A delayed call, which should have a callback and a delay. -/
def setTimeout (context : Context root) : List (Finding root) :=
  ((scheduledCalls context ["setTimeout"]).take 1).map fun (call, _) =>
    .tested (timeoutVerdict !call.arguments.isEmpty) (2 ≤ call.arguments.length) call
      "setTimeout() used with callback and delay" "setTimeout() used"

/-- A repeated call, which should be stopped somewhere. -/
def setInterval (context : Context root) : List (Finding root) :=
  let names := (scheduledCalls context ["setInterval", "clearInterval"]).map Prod.snd
  let cleared := names.contains "clearInterval"
  if !names.contains "setInterval" then []
  else
    [.overall (.idiomOrMinorBad cleared)
      (if cleared then "setInterval() with clearInterval() cleanup"
       else "setInterval() without clearInterval() — potential memory leak")]

/-- Scheduling with the screen. -/
def requestAnimationFrame (context : Context root) : List (Finding root) :=
  ((scheduledCalls context ["requestAnimationFrame"]).take 1).map fun (call, _) =>
    .of .idiom call "requestAnimationFrame() used for animation scheduling"

/-- A rate limiter, or else a timer that is set and cleared. -/
def debounceThrottle (context : Context root) : List (Finding root) :=
  match scheduledCalls context ["debounce", "throttle"] with
  | (call, name) :: _ => [.of .idiom call (name ++ "() used for rate limiting")]
  | [] =>
    let names := (scheduledCalls context ["setTimeout", "clearTimeout"]).map Prod.snd
    if names.contains "setTimeout" && names.contains "clearTimeout" then
      [.overall .idiom "Custom debounce pattern detected (setTimeout + clearTimeout)"]
    else []

/-- Detectors of timers. -/
def timers : Collection where
  suite :=
    { name := "timers_scheduling"
      category := "timers"
      order := 170
      home := "codecoach.rules.javascript.timers_scheduling" }
  detectors :=
    [.of "find_set_timeout" "setTimeout-usage" setTimeout,
     .of "find_set_interval" "setInterval-usage" setInterval,
     .of "find_request_animation_frame" "requestAnimationFrame-usage" requestAnimationFrame,
     .of "find_debounce_throttle" "debounce-throttle" debounceThrottle]

end SnippetTutor.Detectors.Asynchrony
