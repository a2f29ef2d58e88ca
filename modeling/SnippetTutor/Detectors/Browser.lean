import SnippetTutor.Detector.Basic

/-!
# The browser

* `documents`: finding, changing and listening to elements of a document;
* `services`: storage, addresses, forms and history;
* `observers`: objects that watch elements.
-/

namespace SnippetTutor.Detectors.Browser

variable {root : Tree}

/-! ### Documents -/

/-- Methods that find elements, with whether they are recommended. -/
def queryMethods : Keyed Bool :=
  [("querySelector", true), ("querySelectorAll", true), ("getElementById", false),
   ("getElementsByClassName", false), ("getElementsByTagName", false)]

/-- How a query is judged by whether its method is recommended. -/
def queryVerdict (recommended : Bool) : Verdict where
  positive := true
  idiomatic := recommended
  trivial := !recommended
  praised := by simp

/-- Finding an element. -/
def querySelectors (context : Context root) : List (Finding root) :=
  ((context.methodCalls queryMethods.keys).take 1).map fun (call, method) =>
    .tested queryVerdict (queryMethods.get? method == some true) call
      (method ++ "() used for DOM querying")
      (method ++ "() used — consider querySelector/querySelectorAll")

/-- Methods that change a document. -/
def manipulationMethods : List String :=
  ["createElement", "appendChild", "removeChild", "replaceChild", "insertBefore", "append",
   "prepend", "remove", "cloneNode", "setAttribute", "removeAttribute", "insertAdjacentHTML",
   "insertAdjacentElement"]

/-- The property that an assignment writes. -/
def writtenProperty (node : Node root) : Option String :=
  (node.field .left).bind Node.memberProperty

/-- A call that changes the document, or else an assignment of text. -/
def manipulation (context : Context root) : List (Finding root) :=
  match context.methodCalls manipulationMethods with
  | (call, method) :: _ => [.of .idiom call ("." ++ method ++ "() used for DOM manipulation")]
  | [] =>
    ((Context.named (context.ofKind .assignmentExpression) writtenProperty
      ["textContent", "innerText"]).take 1).map fun (node, name) =>
        .of .idiom node ("." ++ name ++ " assignment for DOM text manipulation")

/-- Listening to events. -/
def events (context : Context root) : List (Finding root) :=
  ((context.methodCalls ["addEventListener"]).take 1).map fun (call, _) =>
    .of .idiom call "addEventListener() used for DOM event handling"

/-- Changing the classes of an element. -/
def classList (context : Context root) : List (Finding root) :=
  ((context.methodCalls ["add", "remove", "toggle", "contains", "replace"]).find? fun (call, _) =>
    call.receiver.bind Node.memberProperty == some "classList").toList.map fun (call, method) =>
      .of .idiom call ("classList." ++ method ++ "() used for CSS class management")

/-- Reading the data of an element. -/
def dataset (context : Context root) : List (Finding root) :=
  ((context.ofKind .memberExpression).find? fun node =>
    node.memberObject.any fun owner =>
      owner.kind == .memberExpression && owner.memberProperty == some "dataset").toList.map
    fun node => .of .idiom node "element.dataset used for data attribute access"

/-- Detectors of documents. -/
def documents : Collection where
  suite :=
    { name := "dom_operations"
      category := "dom"
      order := 200
      home := "codecoach.rules.javascript.dom_operations" }
  detectors :=
    [.of "find_dom_query_selectors" "dom-query-selectors" querySelectors,
     .of "find_dom_manipulation" "dom-manipulation" manipulation,
     .of "find_dom_events" "dom-events" events,
     .of "find_dom_class_list" "dom-classlist" classList,
     .of "find_dom_dataset" "dom-dataset" dataset]

/-! ### Services -/

/-- Storing on the client. -/
def localStorage (context : Context root) : List (Finding root) :=
  let calls := ["localStorage", "sessionStorage"].flatMap fun owner =>
    (context.staticCalls owner ["getItem", "setItem", "removeItem", "clear"]).map
      fun (call, method) => (call, owner ++ "." ++ method)
  ((calls.mergeSort fun first second => first.1.label.start ≤ second.1.label.start).take 1).map
    fun (call, shown) => .of .idiom call (shown ++ "() used for client-side storage")

/-- Handling addresses. -/
def urlApi (context : Context root) : List (Finding root) :=
  ((context.constructions ["URL", "URLSearchParams"]).take 1).map fun (node, name) =>
    .of .idiom node (name ++ " API used for URL handling")

/-- Handling forms. -/
def formData (context : Context root) : List (Finding root) :=
  ((context.constructions ["FormData"]).take 1).map fun (node, _) =>
    .of .idiom node "FormData API used for form data handling"

/-- Moving through the history. -/
def historyApi (context : Context root) : List (Finding root) :=
  ((context.staticCalls "history" ["pushState", "replaceState", "back", "forward", "go"]).take
    1).map fun (call, method) =>
      .of .idiom call ("history." ++ method ++ "() used for navigation")

/-- Detectors of services. -/
def services : Collection where
  suite :=
    { name := "browser_apis"
      category := "browser"
      order := 210
      home := "codecoach.rules.javascript.browser_apis" }
  detectors :=
    [.of "find_local_storage" "localStorage-usage" localStorage,
     .of "find_url_api" "url-api" urlApi,
     .of "find_form_data_api" "formdata-api" formData,
     .of "find_history_api" "history-api" historyApi]

/-! ### Observers -/

/-- The first construction of an observer. -/
def firstObserver (context : Context root) (name purpose : String) : List (Finding root) :=
  ((context.constructions [name]).take 1).map fun (node, _) =>
    .of .idiom node (name ++ " used for " ++ purpose)

/-- Watching visibility. -/
def intersectionObserver (context : Context root) : List (Finding root) :=
  firstObserver context "IntersectionObserver" "visibility detection"

/-- Watching changes. -/
def mutationObserver (context : Context root) : List (Finding root) :=
  firstObserver context "MutationObserver" "DOM change detection"

/-- Watching sizes. -/
def resizeObserver (context : Context root) : List (Finding root) :=
  firstObserver context "ResizeObserver" "element size monitoring"

/-- Detectors of observers. -/
def observers : Collection where
  suite :=
    { name := "observer_apis"
      category := "browser"
      order := 220
      home := "codecoach.rules.javascript.observer_apis" }
  detectors :=
    [.of "find_intersection_observer" "intersection-observer" intersectionObserver,
     .of "find_mutation_observer" "mutation-observer" mutationObserver,
     .of "find_resize_observer" "resize-observer" resizeObserver]

end SnippetTutor.Detectors.Browser
