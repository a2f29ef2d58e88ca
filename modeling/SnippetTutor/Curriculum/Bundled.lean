import SnippetTutor.Curriculum.Topic

/-!
# The bundled curriculum

The topics of the curriculum that comes with the program, by category. Every topic is triggered by
detections of its own name.
-/

namespace SnippetTutor.Curriculum.Bundled

/-- What a topic is about. -/
inductive Scope where
  | language
  | shared
  | react
  deriving DecidableEq, Repr

/-- The name of a scope. -/
def Scope.name : Scope → String
  | language => "js-pure"
  | shared => "shared"
  | react => "react-specific"

/-- How much a topic matters. -/
inductive Criticality where
  | low
  | medium
  | high
  | critical
  deriving DecidableEq, Repr

/-- The name of a criticality. -/
def Criticality.name : Criticality → String
  | low => "low"
  | medium => "medium"
  | high => "high"
  | critical => "critical"

/-- A topic of a category. -/
structure Entry where
  slug : String
  name : String
  scope : Scope
  criticality : Criticality
  description : String
  prerequisites : List String

/-- The topics of a category. -/
def topicsOf (layer : Layer) (category : String) (entries : List Entry) : List Topic :=
  entries.map fun entry =>
    { slug := .text entry.slug
      name := .text entry.name
      layer := layer
      category := .text category
      description := .text entry.description
      framework := .text entry.scope.name
      criticality := .text entry.criticality.name
      prerequisites := entry.prerequisites.map .text
      triggers := [.text entry.slug] }

/-- Topics of the category Variable Handling. -/
def variableHandling : List Topic :=
  topicsOf .fundamentals "Variable Handling"
    [⟨"let-const-usage", "Let/Const Usage", .language, .critical,
      "Detects var vs let/const usage and reassignment patterns", []⟩,
     ⟨"var-hoisting", "Var Hoisting", .language, .medium,
      "Detects var declarations and potential hoisting issues", ["let-const-usage"]⟩,
     ⟨"temporal-dead-zone", "Temporal Dead Zone", .language, .medium,
      "Detects access before declaration with let/const", ["let-const-usage"]⟩,
     ⟨"block-vs-function-scope", "Block vs Function Scope", .language, .high,
      "Detects scope-related patterns", ["let-const-usage"]⟩]

/-- Topics of the category Array Methods. -/
def arrayMethods : List Topic :=
  topicsOf .fundamentals "Array Methods"
    [⟨"array-map", "Array Map", .shared, .critical,
      "Detects .map() usage with function argument", []⟩,
     ⟨"array-filter", "Array Filter", .shared, .critical,
      "Detects .filter() usage with predicate function", []⟩,
     ⟨"array-reduce", "Array Reduce", .shared, .high,
      "Detects .reduce() usage with accumulator pattern", ["array-map"]⟩,
     ⟨"array-find", "Array Find", .shared, .medium,
      "Detects .find() usage", ["array-filter"]⟩,
     ⟨"array-some-every", "Array Some/Every", .shared, .medium,
      "Detects .some() and .every() usage", ["array-filter"]⟩,
     ⟨"array-foreach", "Array ForEach", .shared, .medium,
      "Detects .forEach() usage and potential anti-patterns", []⟩,
     ⟨"array-method-chaining", "Array Method Chaining", .shared, .medium,
      "Detects chained array method calls", ["array-map", "array-filter"]⟩]

/-- Topics of the category Object Operations. -/
def objectOperations : List Topic :=
  topicsOf .fundamentals "Object Operations"
    [⟨"object-destructuring", "Object Destructuring", .shared, .critical,
      "Detects object destructuring patterns", []⟩,
     ⟨"array-destructuring", "Array Destructuring", .shared, .high,
      "Detects array destructuring patterns", []⟩,
     ⟨"spread-operator", "Spread Operator", .shared, .critical,
      "Detects spread operator usage in arrays and objects", ["object-destructuring"]⟩,
     ⟨"object-shorthand", "Object Shorthand", .shared, .low,
      "Detects object property shorthand syntax", ["object-destructuring"]⟩]

/-- Topics of the category Functions. -/
def functions : List Topic :=
  topicsOf .fundamentals "Functions"
    [⟨"arrow-functions", "Arrow Functions", .shared, .critical,
      "Detects arrow function syntax and usage", []⟩,
     ⟨"default-parameters", "Default Parameters", .shared, .medium,
      "Detects default parameter values in functions", ["arrow-functions"]⟩,
     ⟨"rest-parameters", "Rest Parameters", .shared, .medium,
      "Detects rest parameter usage in functions", ["spread-operator"]⟩,
     ⟨"pure-functions", "Pure Functions", .shared, .high,
      "Analyzes function for side effects and mutation", ["arrow-functions"]⟩,
     ⟨"callback-functions", "Callback Functions", .shared, .critical,
      "Detects functions passed as arguments", ["arrow-functions"]⟩,
     ⟨"higher-order-functions", "Higher-Order Functions", .shared, .high,
      "Detects functions that return or accept functions", ["callback-functions"]⟩]

/-- Topics of the category Closures. -/
def closures : List Topic :=
  topicsOf .fundamentals "Closures"
    [⟨"closure-basics", "Closure Basics", .shared, .high,
      "Detects nested functions accessing outer scope", ["arrow-functions"]⟩,
     ⟨"closure-in-loops", "Closure in Loops", .shared, .high,
      "Detects closure-related issues in loops", ["closure-basics"]⟩,
     ⟨"closure-state", "Closure State", .shared, .medium,
      "Detects closure-based state patterns", ["closure-basics"]⟩]

/-- Topics of the category Async Fundamentals. -/
def asyncFundamentals : List Topic :=
  topicsOf .fundamentals "Async Fundamentals"
    [⟨"promise-basics", "Promise Basics", .shared, .critical,
      "Detects Promise creation and .then() usage", ["callback-functions"]⟩,
     ⟨"promise-chaining", "Promise Chaining", .shared, .high,
      "Detects chained .then() calls", ["promise-basics"]⟩,
     ⟨"promise-catch", "Promise Catch", .shared, .high,
      "Detects .catch() error handling", ["promise-basics"]⟩,
     ⟨"async-await-basics", "Async/Await Basics", .shared, .critical,
      "Detects async function declarations and await usage", ["promise-basics"]⟩,
     ⟨"async-await-error-handling", "Async/Await Error Handling", .shared, .critical,
      "Detects await expressions not inside try-catch", ["async-await-basics", "try-catch"]⟩]

/-- Topics of the category Error Handling. -/
def errorHandling : List Topic :=
  topicsOf .fundamentals "Error Handling"
    [⟨"try-catch", "Try/Catch", .shared, .critical,
      "Detects try-catch-finally blocks", []⟩,
     ⟨"error-throwing", "Error Throwing", .shared, .medium,
      "Detects throw statements and Error types", ["try-catch"]⟩,
     ⟨"fetch-error-checking", "Fetch Error Checking", .shared, .high,
      "Detects fetch calls and response.ok checking", ["async-await-basics", "try-catch"]⟩,
     ⟨"error-messages", "Error Messages", .shared, .medium,
      "Detects Error construction with meaningful messages", ["try-catch"]⟩]

/-- Topics of the category JSX Fundamentals. -/
def markupBasics : List Topic :=
  topicsOf .fundamentals "JSX Fundamentals"
    [⟨"jsx-syntax", "JSX Syntax", .react, .critical,
      "Detects JSX element syntax", []⟩,
     ⟨"jsx-expressions", "JSX Expressions", .react, .critical,
      "Detects \x7b\x7d expressions in JSX", ["jsx-syntax"]⟩,
     ⟨"jsx-conditional-rendering", "JSX Conditional Rendering", .react, .high,
      "Detects && and ternary patterns in JSX", ["jsx-expressions"]⟩,
     ⟨"jsx-list-rendering", "JSX List Rendering", .react, .critical,
      "Detects .map() returning JSX", ["array-map", "jsx-expressions"]⟩,
     ⟨"jsx-keys", "JSX Keys", .react, .critical,
      "Detects key attribute presence and quality (index vs id)", ["jsx-list-rendering"]⟩]

/-- Topics of the category React State Basics. -/
def reactStateBasics : List Topic :=
  topicsOf .fundamentals "React State Basics"
    [⟨"usestate-basics", "useState Basics", .react, .critical,
      "Detects useState hook with array destructuring", ["jsx-syntax"]⟩,
     ⟨"usestate-functional-updates", "useState Functional Updates", .react, .high,
      "Detects setState(prev => ...) pattern vs direct value", ["usestate-basics"]⟩,
     ⟨"state-immutability", "State Immutability", .react, .critical,
      "Detects direct state mutation vs immutable updates", ["usestate-basics", "spread-operator"]⟩,
     ⟨"lifting-state", "Lifting State", .react, .high,
      "Detects state passed as props to children", ["usestate-basics"]⟩]

/-- Topics of the category Loops & Iteration. -/
def loopsIteration : List Topic :=
  topicsOf .intermediate "Loops & Iteration"
    [⟨"for-loop-basics", "For Loop Basics", .language, .medium,
      "Detects traditional for loop usage", []⟩,
     ⟨"for-of-loops", "For...of Loops", .language, .medium,
      "Detects for...of iteration", ["for-loop-basics"]⟩,
     ⟨"while-loops", "While Loops", .language, .low,
      "Detects while and do-while loops", ["for-loop-basics"]⟩]

/-- Topics of the category This & Context. -/
def thisAndContext : List Topic :=
  topicsOf .intermediate "This & Context"
    [⟨"this-binding", "This Binding", .language, .high,
      "Detects 'this' keyword usage and context", ["closure-basics"]⟩,
     ⟨"bind-call-apply", "Bind/Call/Apply", .language, .medium,
      "Detects explicit context binding methods", ["this-binding"]⟩,
     ⟨"arrow-vs-regular-this", "Arrow vs Regular This", .language, .high,
      "Detects this binding differences between arrow and regular functions",
      ["this-binding", "arrow-functions"]⟩]

/-- Topics of the category useEffect Mastery. -/
def effectMastery : List Topic :=
  topicsOf .intermediate "useEffect Mastery"
    [⟨"useeffect-basics", "useEffect Basics", .react, .critical,
      "Detects useEffect hook usage", ["usestate-basics"]⟩,
     ⟨"useeffect-dependencies", "useEffect Dependencies", .react, .critical,
      "Analyzes dependency array completeness", ["useeffect-basics"]⟩,
     ⟨"useeffect-cleanup", "useEffect Cleanup", .react, .high,
      "Detects cleanup function in useEffect", ["useeffect-basics"]⟩,
     ⟨"useeffect-async", "useEffect Async", .react, .high,
      "Detects async patterns in useEffect (inner function, not direct)",
      ["useeffect-basics", "async-await-basics"]⟩,
     ⟨"useeffect-infinite-loop", "useEffect Infinite Loop", .react, .critical,
      "Detects potential infinite loops from dependency issues", ["useeffect-dependencies"]⟩]

/-- Topics of the category Props & Components. -/
def propsComponents : List Topic :=
  topicsOf .intermediate "Props & Components"
    [⟨"props-basics", "Props Basics", .react, .critical,
      "Detects props parameter and JSX attribute usage", ["jsx-syntax"]⟩,
     ⟨"props-destructuring", "Props Destructuring", .react, .medium,
      "Detects destructuring in function parameters for props",
      ["props-basics", "object-destructuring"]⟩,
     ⟨"children-prop", "Children Prop", .react, .high,
      "Detects props.children or children destructuring", ["props-basics"]⟩,
     ⟨"prop-types-validation", "Prop Types Validation", .react, .medium,
      "Detects PropTypes or TypeScript prop types", ["props-basics"]⟩,
     ⟨"default-props", "Default Props", .react, .medium,
      "Detects default prop values", ["props-basics", "default-parameters"]⟩]

/-- Topics of the category Component Patterns. -/
def componentPatterns : List Topic :=
  topicsOf .intermediate "Component Patterns"
    [⟨"controlled-components", "Controlled Components", .react, .critical,
      "Detects controlled input patterns", ["usestate-basics", "jsx-expressions"]⟩,
     ⟨"uncontrolled-components", "Uncontrolled Components", .react, .medium,
      "Detects uncontrolled input patterns with refs", ["controlled-components"]⟩,
     ⟨"component-composition", "Component Composition", .react, .high,
      "Detects component nesting and composition patterns", ["props-basics", "children-prop"]⟩,
     ⟨"conditional-component-rendering", "Conditional Component Rendering", .react, .high,
      "Detects conditional rendering of whole components", ["jsx-conditional-rendering"]⟩]

/-- Topics of the category Event Handling. -/
def eventHandling : List Topic :=
  topicsOf .intermediate "Event Handling"
    [⟨"event-handlers", "Event Handlers", .react, .critical,
      "Detects onClick, onChange, etc. handlers", ["jsx-syntax", "arrow-functions"]⟩,
     ⟨"event-handler-params", "Event Handler Parameters", .react, .high,
      "Detects inline arrow functions for passing params to handlers", ["event-handlers"]⟩,
     ⟨"prevent-default", "Prevent Default", .react, .high,
      "Detects e.preventDefault() in form handlers", ["event-handlers"]⟩,
     ⟨"event-delegation", "Event Delegation", .react, .medium,
      "Detects event handling at parent vs child level", ["event-handlers"]⟩]

/-- Topics of the category API Integration. -/
def apiIntegration : List Topic :=
  topicsOf .intermediate "API Integration"
    [⟨"fetch-basics", "Fetch Basics", .shared, .critical,
      "Detects fetch API usage", ["async-await-basics"]⟩,
     ⟨"fetch-with-options", "Fetch with Options", .shared, .high,
      "Detects fetch with method, headers, body options", ["fetch-basics"]⟩,
     ⟨"loading-states", "Loading States", .shared, .high,
      "Detects loading state management pattern", ["usestate-basics", "fetch-basics"]⟩,
     ⟨"error-state-handling", "Error State Handling", .shared, .high,
      "Detects error state management pattern", ["loading-states", "fetch-error-checking"]⟩]

/-- Topics of the category Refs. -/
def refs : List Topic :=
  topicsOf .intermediate "Refs"
    [⟨"useref-basics", "useRef Basics", .react, .high,
      "Detects useRef hook usage", ["usestate-basics"]⟩,
     ⟨"useref-dom", "useRef DOM", .react, .high,
      "Detects ref attribute on DOM elements", ["useref-basics"]⟩,
     ⟨"useref-mutable", "useRef Mutable", .react, .medium,
      "Detects ref.current for mutable values", ["useref-basics"]⟩,
     ⟨"callback-refs", "Callback Refs", .react, .medium,
      "Detects callback ref pattern", ["useref-basics", "callback-functions"]⟩]

/-- Topics of the category Custom Hooks. -/
def customHooks : List Topic :=
  topicsOf .patterns "Custom Hooks"
    [⟨"custom-hook-basics", "Custom Hook Basics", .react, .high,
      "Detects custom hook definition (use* naming)", ["usestate-basics", "useeffect-basics"]⟩,
     ⟨"custom-hook-parameters", "Custom Hook Parameters", .react, .medium,
      "Detects parameterized custom hooks", ["custom-hook-basics"]⟩,
     ⟨"custom-hook-return", "Custom Hook Return", .react, .medium,
      "Detects custom hook return patterns (array vs object)", ["custom-hook-basics"]⟩,
     ⟨"custom-hook-composition", "Custom Hook Composition", .react, .medium,
      "Detects hooks calling other hooks", ["custom-hook-basics"]⟩]

/-- Topics of the category Context. -/
def contexts : List Topic :=
  topicsOf .patterns "Context"
    [⟨"context-basics", "Context Basics", .react, .high,
      "Detects React.createContext usage", ["props-basics"]⟩,
     ⟨"context-provider", "Context Provider", .react, .high,
      "Detects Context.Provider usage", ["context-basics"]⟩,
     ⟨"usecontext-hook", "useContext Hook", .react, .high,
      "Detects useContext hook consumption", ["context-basics"]⟩,
     ⟨"context-performance", "Context Performance", .react, .high,
      "Analyzes context value structure for performance", ["usecontext-hook"]⟩]

/-- Topics of the category Performance Optimization. -/
def performanceOptimization : List Topic :=
  topicsOf .patterns "Performance Optimization"
    [⟨"react-memo", "React.memo", .react, .high,
      "Detects React.memo usage", ["component-composition"]⟩,
     ⟨"usememo-basics", "useMemo Basics", .react, .high,
      "Detects useMemo hook for computed values", ["usestate-basics"]⟩,
     ⟨"usecallback-basics", "useCallback Basics", .react, .high,
      "Detects useCallback hook for function memoization", ["event-handlers", "closure-basics"]⟩,
     ⟨"key-optimization", "Key Optimization", .react, .high,
      "Analyzes key stability and uniqueness", ["jsx-keys"]⟩,
     ⟨"unnecessary-rerenders", "Unnecessary Re-renders", .react, .high,
      "Detects potential unnecessary re-render patterns", ["react-memo", "usememo-basics"]⟩]

/-- Topics of the category Advanced Async. -/
def advancedAsync : List Topic :=
  topicsOf .patterns "Advanced Async"
    [⟨"promise-all", "Promise.all", .shared, .high,
      "Detects Promise.all for parallel execution", ["promise-basics"]⟩,
     ⟨"promise-race", "Promise.race", .shared, .medium,
      "Detects Promise.race usage", ["promise-basics"]⟩,
     ⟨"request-cancellation", "Request Cancellation", .shared, .high,
      "Detects AbortController for request cancellation", ["fetch-basics", "useeffect-cleanup"]⟩,
     ⟨"retry-logic", "Retry Logic", .shared, .medium,
      "Detects retry patterns for failed requests", ["fetch-error-checking"]⟩]

/-- Topics of the category State Patterns. -/
def statePatterns : List Topic :=
  topicsOf .patterns "State Patterns"
    [⟨"usereducer-basics", "useReducer Basics", .react, .high,
      "Detects useReducer hook usage", ["usestate-basics"]⟩,
     ⟨"reducer-patterns", "Reducer Patterns", .react, .medium,
      "Detects reducer function patterns", ["usereducer-basics"]⟩,
     ⟨"complex-state", "Complex State", .react, .high,
      "Detects complex state object management", ["usereducer-basics"]⟩,
     ⟨"state-normalization", "State Normalization", .react, .medium,
      "Detects normalized state structure patterns", ["complex-state"]⟩]

/-- Topics of the category Error Boundaries. -/
def errorBoundaries : List Topic :=
  topicsOf .patterns "Error Boundaries"
    [⟨"error-boundary-basics", "Error Boundary Basics", .react, .high,
      "Detects error boundary class component", ["try-catch"]⟩,
     ⟨"error-boundary-fallback", "Error Boundary Fallback", .react, .medium,
      "Detects fallback UI in error boundaries", ["error-boundary-basics"]⟩,
     ⟨"error-boundary-recovery", "Error Boundary Recovery", .react, .medium,
      "Detects error recovery mechanisms", ["error-boundary-basics"]⟩]

/-- Topics of the category Array Mutation. -/
def arrayMutation : List Topic :=
  topicsOf .fundamentals "Array Mutation"
    [⟨"array-push-pop", "Array Push/Pop", .shared, .medium,
      "Detects .push() and .pop() usage", []⟩,
     ⟨"array-shift-unshift", "Array Shift/Unshift", .shared, .medium,
      "Detects .shift() and .unshift() usage", ["array-push-pop"]⟩,
     ⟨"array-splice", "Array Splice", .shared, .medium,
      "Detects .splice() usage", ["array-push-pop"]⟩,
     ⟨"array-indexOf-includes", "Array indexOf/includes", .shared, .medium,
      "Detects .indexOf() and .includes() usage", []⟩,
     ⟨"array-sort", "Array Sort", .shared, .medium,
      "Detects .sort() with/without comparator", []⟩,
     ⟨"array-slice-concat", "Array Slice/Concat", .shared, .medium,
      "Detects .slice() and .concat() usage", []⟩,
     ⟨"array-flat-flatMap", "Array Flat/FlatMap", .shared, .medium,
      "Detects .flat() and .flatMap() usage", ["array-map"]⟩,
     ⟨"array-from-isArray", "Array.from/isArray", .shared, .medium,
      "Detects Array.from() and Array.isArray()", []⟩,
     ⟨"array-length", "Array Length", .shared, .low,
      "Detects .length property access", []⟩,
     ⟨"bracket-notation", "Bracket Notation", .shared, .low,
      "Detects bracket notation access", []⟩]

/-- Topics of the category String Methods. -/
def stringMethods : List Topic :=
  topicsOf .fundamentals "String Methods"
    [⟨"template-literals", "Template Literals", .shared, .high,
      "Detects template literal interpolation", ["let-const-usage"]⟩,
     ⟨"string-split-join", "String Split/Join", .shared, .medium,
      "Detects .split() and .join() usage", []⟩,
     ⟨"string-search-methods", "String Search Methods", .shared, .medium,
      "Detects string search methods", []⟩,
     ⟨"string-transform", "String Transform", .shared, .medium,
      "Detects string transformation methods", []⟩,
     ⟨"string-slice-substring", "String Slice/Substring", .shared, .medium,
      "Detects .slice()/.substring() usage", []⟩,
     ⟨"string-pad-repeat", "String Pad/Repeat", .shared, .low,
      "Detects .padStart()/.padEnd()/.repeat()", []⟩]

/-- Topics of the category Object Methods. -/
def objectMethods : List Topic :=
  topicsOf .fundamentals "Object Methods"
    [⟨"object-keys-values-entries", "Object.keys/values/entries", .shared, .high,
      "Detects Object.keys/values/entries()", []⟩,
     ⟨"object-assign-freeze", "Object.assign/freeze", .shared, .medium,
      "Detects Object.assign() and Object.freeze()", ["object-destructuring"]⟩,
     ⟨"object-fromEntries", "Object.fromEntries", .shared, .medium,
      "Detects Object.fromEntries()", ["object-keys-values-entries"]⟩,
     ⟨"computed-property-names", "Computed Property Names", .shared, .medium,
      "Detects computed property names [expr]", []⟩,
     ⟨"property-access-patterns", "Property Access Patterns", .shared, .low,
      "Detects dot vs bracket notation", []⟩,
     ⟨"property-existence-check", "Property Existence Check", .shared, .medium,
      "Detects 'in' operator and hasOwnProperty", []⟩]

/-- Topics of the category Number & Math. -/
def numberMath : List Topic :=
  topicsOf .fundamentals "Number & Math"
    [⟨"number-parsing", "Number Parsing", .language, .medium,
      "Detects parseInt/parseFloat/Number()", []⟩,
     ⟨"number-checking", "Number Checking", .language, .medium,
      "Detects Number.isNaN/isFinite/isInteger", []⟩,
     ⟨"number-formatting", "Number Formatting", .language, .low,
      "Detects toFixed/toLocaleString", []⟩,
     ⟨"math-methods", "Math Methods", .language, .medium,
      "Detects Math.* methods", []⟩]

/-- Topics of the category JSON Operations. -/
def jsonOperations : List Topic :=
  topicsOf .fundamentals "JSON Operations"
    [⟨"json-parse", "JSON.parse", .shared, .high,
      "Detects JSON.parse() with error handling", ["try-catch"]⟩,
     ⟨"json-stringify", "JSON.stringify", .shared, .medium,
      "Detects JSON.stringify()", []⟩]

/-- Topics of the category Type Checking. -/
def typeChecking : List Topic :=
  topicsOf .fundamentals "Type Checking"
    [⟨"typeof-operator", "typeof Operator", .shared, .medium,
      "Detects typeof operator", []⟩,
     ⟨"instanceof-operator", "instanceof Operator", .shared, .medium,
      "Detects instanceof operator", []⟩,
     ⟨"equality-operators", "Equality Operators", .shared, .high,
      "Detects === vs == usage", []⟩,
     ⟨"ternary-operator", "Ternary Operator", .shared, .medium,
      "Detects ternary operator", []⟩]

/-- Topics of the category Module Patterns. -/
def modulePatterns : List Topic :=
  topicsOf .fundamentals "Module Patterns"
    [⟨"import-export-named", "Named Import/Export", .shared, .high,
      "Detects named imports and exports", []⟩,
     ⟨"import-export-default", "Default Import/Export", .shared, .high,
      "Detects default imports and exports", []⟩,
     ⟨"import-dynamic", "Dynamic Import", .shared, .medium,
      "Detects dynamic import()", []⟩,
     ⟨"import-namespace", "Namespace Import", .shared, .low,
      "Detects import * as namespace", []⟩]

/-- Topics of the category Anti-Patterns. -/
def antiPatterns : List Topic :=
  topicsOf .fundamentals "Anti-Patterns"
    [⟨"no-var-usage", "No var Usage", .shared, .high,
      "Flags var declarations", ["let-const-usage"]⟩,
     ⟨"strict-equality", "Strict Equality", .shared, .high,
      "Flags == instead of ===", []⟩,
     ⟨"no-eval", "No eval()", .shared, .critical,
      "Flags eval() usage", []⟩,
     ⟨"no-innerHTML", "No innerHTML", .shared, .high,
      "Flags innerHTML/dangerouslySetInnerHTML", []⟩,
     ⟨"no-magic-numbers", "No Magic Numbers", .shared, .low,
      "Flags unexplained numeric literals", ["let-const-usage"]⟩,
     ⟨"empty-catch-blocks", "Empty Catch Blocks", .shared, .high,
      "Flags empty catch blocks", ["try-catch"]⟩,
     ⟨"implicit-type-coercion", "Implicit Type Coercion", .shared, .medium,
      "Flags implicit type coercion patterns", []⟩]

/-- Topics of the category Modern Operators. -/
def modernOperators : List Topic :=
  topicsOf .intermediate "Modern Operators"
    [⟨"optional-chaining", "Optional Chaining", .shared, .high,
      "Detects ?. operator", ["property-access-patterns"]⟩,
     ⟨"nullish-coalescing", "Nullish Coalescing", .shared, .high,
      "Detects ?? operator", []⟩,
     ⟨"logical-assignment", "Logical Assignment", .shared, .low,
      "Detects &&=, ||=, ??= operators", []⟩]

/-- Topics of the category Control Flow. -/
def switching : List Topic :=
  topicsOf .fundamentals "Control Flow"
    [⟨"switch-case", "Switch/Case", .shared, .medium,
      "Detects switch/case statements", []⟩]

/-- Topics of the category Control Flow. -/
def loopsAndGuards : List Topic :=
  topicsOf .intermediate "Control Flow"
    [⟨"for-in-loops", "For...in Loops", .shared, .medium,
      "Detects for...in loops", ["for-loop-basics"]⟩,
     ⟨"guard-clauses", "Guard Clauses", .shared, .medium,
      "Detects early return patterns", ["arrow-functions"]⟩]

/-- Topics of the category Control Flow. -/
def conditionals : List Topic :=
  topicsOf .fundamentals "Control Flow"
    [⟨"short-circuit-evaluation", "Short-Circuit Evaluation", .shared, .medium,
      "Detects && and || for conditional logic", []⟩]

/-- Topics of the category Class Syntax. -/
def classSyntax : List Topic :=
  topicsOf .intermediate "Class Syntax"
    [⟨"class-declaration", "Class Declaration", .language, .high,
      "Detects class declarations", []⟩,
     ⟨"class-methods", "Class Methods", .language, .high,
      "Detects class method definitions", ["class-declaration"]⟩,
     ⟨"class-inheritance", "Class Inheritance", .language, .high,
      "Detects extends keyword", ["class-declaration"]⟩,
     ⟨"class-getters-setters", "Class Getters/Setters", .language, .medium,
      "Detects get/set accessors", ["class-declaration"]⟩,
     ⟨"class-private-fields", "Class Private Fields", .language, .medium,
      "Detects #private fields", ["class-declaration"]⟩,
     ⟨"class-properties", "Class Properties", .language, .medium,
      "Detects public class fields", ["class-declaration"]⟩]

/-- Topics of the category Map & Set. -/
def mapSet : List Topic :=
  topicsOf .intermediate "Map & Set"
    [⟨"map-basics", "Map Basics", .shared, .medium,
      "Detects new Map() usage", []⟩,
     ⟨"set-basics", "Set Basics", .shared, .medium,
      "Detects new Set() usage", []⟩,
     ⟨"map-set-iteration", "Map/Set Iteration", .shared, .medium,
      "Detects Map/Set iteration patterns", ["map-basics"]⟩,
     ⟨"weakmap-weakref", "WeakMap/WeakRef", .shared, .low,
      "Detects WeakMap/WeakSet/WeakRef", ["map-basics"]⟩]

/-- Topics of the category Timers & Scheduling. -/
def timersScheduling : List Topic :=
  topicsOf .intermediate "Timers & Scheduling"
    [⟨"setTimeout-usage", "setTimeout Usage", .shared, .medium,
      "Detects setTimeout() usage", ["callback-functions"]⟩,
     ⟨"setInterval-usage", "setInterval Usage", .shared, .medium,
      "Detects setInterval() with cleanup", ["setTimeout-usage"]⟩,
     ⟨"requestAnimationFrame-usage", "requestAnimationFrame", .shared, .medium,
      "Detects rAF usage", ["callback-functions"]⟩,
     ⟨"debounce-throttle", "Debounce/Throttle", .shared, .high,
      "Detects debounce/throttle patterns", ["setTimeout-usage", "closure-basics"]⟩]

/-- Topics of the category Date Handling. -/
def dateHandling : List Topic :=
  topicsOf .intermediate "Date Handling"
    [⟨"date-creation", "Date Creation", .shared, .medium,
      "Detects new Date() and Date.now()", []⟩,
     ⟨"date-formatting", "Date Formatting", .shared, .medium,
      "Detects date formatting methods", ["date-creation"]⟩,
     ⟨"date-methods", "Date Methods", .shared, .medium,
      "Detects getFullYear/setDate etc.", ["date-creation"]⟩]

/-- Topics of the category Regex. -/
def regex : List Topic :=
  topicsOf .intermediate "Regex"
    [⟨"regex-literal", "Regex Literal", .shared, .medium,
      "Detects /pattern/ and new RegExp()", []⟩,
     ⟨"regex-methods", "Regex Methods", .shared, .medium,
      "Detects .test() and .exec()", ["regex-literal"]⟩,
     ⟨"regex-flags", "Regex Flags", .shared, .low,
      "Detects regex flags (g, i, m, etc.)", ["regex-literal"]⟩,
     ⟨"regex-groups", "Regex Groups", .shared, .medium,
      "Detects capture/named groups", ["regex-literal"]⟩]

/-- Topics of the category DOM Operations. -/
def domOperations : List Topic :=
  topicsOf .intermediate "DOM Operations"
    [⟨"dom-query-selectors", "DOM Query Selectors", .shared, .high,
      "Detects querySelector/getElementById", []⟩,
     ⟨"dom-manipulation", "DOM Manipulation", .shared, .high,
      "Detects createElement/appendChild etc.", ["dom-query-selectors"]⟩,
     ⟨"dom-events", "DOM Events", .shared, .high,
      "Detects addEventListener", ["dom-query-selectors"]⟩,
     ⟨"dom-classlist", "DOM classList", .shared, .medium,
      "Detects classList.add/remove/toggle", ["dom-query-selectors"]⟩,
     ⟨"dom-dataset", "DOM dataset", .shared, .low,
      "Detects element.dataset access", ["dom-query-selectors"]⟩]

/-- Topics of the category Browser APIs. -/
def browserApis : List Topic :=
  topicsOf .intermediate "Browser APIs"
    [⟨"localStorage-usage", "localStorage Usage", .shared, .medium,
      "Detects localStorage/sessionStorage", ["json-stringify"]⟩,
     ⟨"url-api", "URL API", .shared, .medium,
      "Detects new URL()/URLSearchParams", []⟩,
     ⟨"formdata-api", "FormData API", .shared, .medium,
      "Detects new FormData()", []⟩,
     ⟨"history-api", "History API", .shared, .medium,
      "Detects history.pushState/replaceState", []⟩]

/-- Topics of the category Observer APIs. -/
def observerApis : List Topic :=
  topicsOf .patterns "Observer APIs"
    [⟨"intersection-observer", "IntersectionObserver", .shared, .medium,
      "Detects IntersectionObserver", ["callback-functions"]⟩,
     ⟨"mutation-observer", "MutationObserver", .shared, .medium,
      "Detects MutationObserver", ["callback-functions"]⟩,
     ⟨"resize-observer", "ResizeObserver", .shared, .medium,
      "Detects ResizeObserver", ["callback-functions"]⟩]

/-- Topics of the category Data Flow. -/
def valueErrors : List Topic :=
  topicsOf .fundamentals "Data Flow"
    [⟨"var-used-before-init", "Use Before Initialization", .language, .high,
      "Detects var-declared names read before their initializer runs", ["var-hoisting"]⟩,
     ⟨"loop-bounds-off-by-one", "Loop Bounds Off-By-One", .language, .high,
      "Detects counted loops that run one index past the end of an array", ["for-loop-basics"]⟩,
     ⟨"array-method-no-return", "Array Callback Missing Return", .language, .high,
      "Detects map/filter/find callbacks whose body does not return on every path", ["array-map"]⟩,
     ⟨"string-arithmetic-coercion", "String Arithmetic Coercion", .language, .medium,
      "Detects arithmetic operators applied to string-typed values", ["number-parsing"]⟩,
     ⟨"state-mutation-react", "Direct State Mutation", .react, .critical,
      "Detects in-place mutation of useState values", ["usestate-basics"]⟩]

/-- Topics of the category Data Flow. -/
def valueSharing : List Topic :=
  topicsOf .intermediate "Data Flow"
    [⟨"object-reference-sharing", "Shared Object References", .language, .high,
      "Detects mutation through a name that aliases another binding", ["object-destructuring"]⟩,
     ⟨"shallow-copy-nested-mutation", "Shallow Copy Nested Mutation", .language, .high,
      "Detects nested mutation of a spread copy that leaks into the original",
      ["spread-operator", "object-reference-sharing"]⟩,
     ⟨"array-as-object", "Array Used As Dictionary", .language, .medium,
      "Detects string keys written onto arrays", ["map-basics"]⟩,
     ⟨"array-self-mutation-in-iteration", "Mutating An Array While Iterating", .language, .high,
      "Detects arrays mutated inside their own iteration callbacks",
      ["array-foreach", "array-push-pop"]⟩,
     ⟨"missing-cleanup-effect", "Effect Without Cleanup", .react, .high,
      "Detects effects that subscribe or schedule work without returning a cleanup",
      ["useeffect-cleanup"]⟩,
     ⟨"object-spread-missing", "Object Assigned By Reference", .language, .medium,
      "Detects one object placed into several properties without copying", ["spread-operator"]⟩]

/-- Topics of the category Readability. -/
def readability : List Topic :=
  topicsOf .patterns "Readability"
    [⟨"nested-ternary", "Nested Ternaries", .shared, .low,
      "Detects ternary expressions nested inside other ternaries", ["ternary-operator"]⟩,
     ⟨"deep-nesting", "Deep Nesting", .shared, .medium,
      "Detects blocks nested more than four levels deep", ["guard-clauses"]⟩,
     ⟨"long-parameter-list", "Long Parameter Lists", .shared, .low,
      "Detects functions that take more than four parameters", ["object-destructuring"]⟩]

/-- All topics in order. -/
def topics : List Topic :=
  variableHandling ++ arrayMethods ++ objectOperations ++ functions ++ closures ++
  asyncFundamentals ++ errorHandling ++ markupBasics ++ reactStateBasics ++ loopsIteration ++
  thisAndContext ++ effectMastery ++ propsComponents ++ componentPatterns ++ eventHandling ++
  apiIntegration ++ refs ++ customHooks ++ contexts ++ performanceOptimization ++ advancedAsync ++
  statePatterns ++ errorBoundaries ++ arrayMutation ++ stringMethods ++ objectMethods ++
  numberMath ++ jsonOperations ++ typeChecking ++ modulePatterns ++ antiPatterns ++
  modernOperators ++ switching ++ loopsAndGuards ++ conditionals ++ classSyntax ++ mapSet ++
  timersScheduling ++ dateHandling ++ regex ++ domOperations ++ browserApis ++ observerApis ++
  valueErrors ++ valueSharing ++ readability

end SnippetTutor.Curriculum.Bundled
