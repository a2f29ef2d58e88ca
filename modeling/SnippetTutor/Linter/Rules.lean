import SnippetTutor.Json.Basic

/-!
# Rules of the linter

The rules that the linter is run with, and the topics under which its findings are filed: a rule
that looks for the same thing as a detector shares the detector's topic, any other one has a topic
of its own.
-/

namespace SnippetTutor.Linter

/-- How seriously the linter takes a rule. -/
inductive Severity where
  | warn
  | error
  deriving DecidableEq, Repr

/-- The name of a severity. -/
def Severity.name : Severity → String
  | warn => "warn"
  | error => "error"

/-- How a rule is set up. -/
structure RuleSetting where
  severity : Severity
  options : Option Json := none

/-- The setting as it stands in a configuration. -/
def RuleSetting.toJson (setting : RuleSetting) : Json :=
  match setting.options with
  | some options => .list [.text setting.severity.name, options]
  | none => .text setting.severity.name

/-- A rule whose violations are errors. -/
def error : RuleSetting := ⟨.error, none⟩

/-- A rule whose violations are warnings. -/
def warn : RuleSetting := ⟨.warn, none⟩

/-- A rule with options whose violations are warnings. -/
def warnWith (options : Keyed Json) : RuleSetting := ⟨.warn, some (.object options)⟩

/-- Numbers that need no name. -/
def namelessNumbers : List Int := [0, 1, -1, 2, 3, 4, 5, 6, 7, 8, 9, 10, 100]

/-- Rules for every snippet. -/
def coreRules : Keyed RuleSetting :=
  [("for-direction", error), ("getter-return", error), ("no-async-promise-executor", error),
   ("no-compare-neg-zero", error), ("no-cond-assign", error), ("no-const-assign", error),
   ("no-constant-binary-expression", error), ("no-constant-condition", error),
   ("no-debugger", warn), ("no-dupe-args", error), ("no-dupe-else-if", error),
   ("no-dupe-keys", error), ("no-duplicate-case", error), ("no-empty-pattern", error),
   ("no-ex-assign", error), ("no-fallthrough", error), ("no-func-assign", error),
   ("no-import-assign", error), ("no-inner-declarations", error),
   ("no-irregular-whitespace", warn), ("no-loss-of-precision", error), ("no-obj-calls", error),
   ("no-prototype-builtins", warn), ("no-self-assign", error), ("no-self-compare", error),
   ("no-sparse-arrays", error), ("no-this-before-super", error),
   ("no-unexpected-multiline", error), ("no-unreachable", error), ("no-unreachable-loop", error),
   ("no-unsafe-finally", error), ("no-unsafe-negation", error),
   ("no-unsafe-optional-chaining", error), ("use-isnan", error), ("valid-typeof", error),
   ("no-case-declarations", error), ("no-delete-var", error), ("no-global-assign", error),
   ("no-octal", error), ("no-with", error), ("no-class-assign", error),
   ("no-dupe-class-members", error), ("no-new-native-nonconstructor", error),
   ("constructor-super", error), ("no-setter-return", error), ("require-yield", error),
   ("no-control-regex", warn), ("no-empty-character-class", error), ("no-invalid-regexp", error),
   ("no-misleading-character-class", error), ("no-regex-spaces", warn),
   ("no-extra-boolean-cast", warn), ("no-useless-backreference", warn), ("no-var", error),
   ("eqeqeq", error), ("no-eval", error), ("prefer-const", warn), ("no-empty", warn),
   ("no-implicit-coercion", warn), ("prefer-template", warn), ("prefer-rest-params", warn),
   ("prefer-spread", warn), ("object-shorthand", warn), ("prefer-arrow-callback", warn),
   ("dot-notation", warn),
   ("prefer-destructuring", warnWith [("object", .bool true), ("array", .bool false)]),
   ("no-useless-catch", warn), ("guard-for-in", warn), ("array-callback-return", warn),
   ("no-loop-func", warn), ("no-template-curly-in-string", warn),
   ("no-unmodified-loop-condition", warn), ("no-promise-executor-return", warn),
   ("no-constructor-return", warn), ("no-duplicate-imports", warn), ("no-throw-literal", warn),
   ("consistent-return", warn), ("default-case", warn), ("default-case-last", warn),
   ("default-param-last", warn), ("no-else-return", warn), ("no-lone-blocks", warn),
   ("no-useless-constructor", warn), ("no-useless-return", warn), ("no-useless-rename", warn),
   ("no-useless-computed-key", warn), ("no-useless-concat", warn), ("no-useless-escape", warn),
   ("no-new", warn), ("no-new-func", warn), ("no-new-wrappers", warn), ("no-sequences", warn),
   ("no-unused-expressions", warn), ("no-caller", warn), ("no-extend-native", warn),
   ("no-extra-bind", warn), ("no-return-assign", warn), ("no-script-url", warn),
   ("no-param-reassign", warn), ("no-implied-eval", warn), ("no-alert", warn),
   ("no-lonely-if", warn), ("no-unneeded-ternary", warn), ("no-useless-call", warn),
   ("no-unused-private-class-members", warn), ("block-scoped-var", warn), ("radix", warn),
   ("prefer-object-has-own", warn), ("prefer-object-spread", warn),
   ("prefer-regex-literals", warn), ("arrow-body-style", warn), ("no-useless-assignment", warn),
   ("no-await-in-loop", warn), ("require-atomic-updates", warn), ("require-await", warn),
   ("prefer-promise-reject-errors", warn),
   ("complexity", warnWith [("max", .int 15)]),
   ("class-methods-use-this", warn), ("grouped-accessor-pairs", warn), ("accessor-pairs", warn),
   ("logical-assignment-operators", warn), ("prefer-named-capture-group", warn),
   ("no-magic-numbers",
     warnWith
       [("ignore", .list (namelessNumbers.map .int)), ("ignoreDefaultValues", .bool true),
        ("ignoreArrayIndexes", .bool true)])]

/-- Rules for markup and components. -/
def reactRules : Keyed RuleSetting :=
  [("react/jsx-key", error), ("react/no-direct-mutation-state", error),
   ("react/no-array-index-key", warn), ("react/jsx-no-duplicate-props", error),
   ("react/display-name", warn), ("react/no-children-prop", warn), ("react/no-danger", warn),
   ("react/no-danger-with-children", error), ("react/no-deprecated", warn),
   ("react/no-string-refs", warn), ("react/no-unescaped-entities", warn),
   ("react/no-unknown-property", warn), ("react/require-render-return", error),
   ("react/self-closing-comp", warn), ("react/void-dom-elements-no-children", error),
   ("react/jsx-no-target-blank", warn), ("react/jsx-no-script-url", warn),
   ("react/jsx-no-comment-textnodes", warn), ("react/jsx-boolean-value", warn),
   ("react/jsx-curly-brace-presence", warn), ("react/jsx-fragments", warn),
   ("react/jsx-no-useless-fragment", warn), ("react/jsx-pascal-case", warn),
   ("react/jsx-no-bind", warnWith [("allowArrowFunctions", .bool true)]),
   ("react/jsx-no-leaked-render", warn), ("react/jsx-no-constructed-context-values", warn),
   ("react/no-unstable-nested-components", warn), ("react/no-access-state-in-setstate", warn),
   ("react/no-this-in-sfc", warn), ("react/no-unused-state", warn),
   ("react/no-unused-prop-types", warn), ("react/button-has-type", warn),
   ("react/forward-ref-uses-ref", warn),
   ("react/function-component-definition",
     warnWith [("namedComponents", .text "function-declaration")]),
   ("react/iframe-missing-sandbox", warn), ("react/no-invalid-html-attribute", warn),
   ("react/no-namespace", warn), ("react/no-object-type-as-default-prop", warn),
   ("react/no-unsafe", warn), ("react/prefer-stateless-function", warn),
   ("react/style-prop-object", warn), ("react/jsx-props-no-spread-multi", warn),
   ("react/hook-use-state", warn)]

/-- Rules for hooks. -/
def hookRules : Keyed RuleSetting :=
  [("react-hooks/rules-of-hooks", error), ("react-hooks/exhaustive-deps", warn),
   ("react-hooks/set-state-in-effect", warn), ("react-hooks/set-state-in-render", error),
   ("react-hooks/no-deriving-state-in-effects", warn), ("react-hooks/error-boundaries", warn),
   ("react-hooks/purity", warn)]

/-- The rules for a snippet. -/
def rulesFor (isReact : Bool) : Keyed RuleSetting :=
  if isReact then coreRules ++ reactRules ++ hookRules else coreRules

/-- Rules that share the topic of a detector. -/
def sharedTopics : Keyed String :=
  [("no-var", "no-var-usage"), ("eqeqeq", "strict-equality"), ("no-eval", "no-eval"),
   ("no-empty", "empty-catch-blocks"), ("no-magic-numbers", "no-magic-numbers"),
   ("no-implicit-coercion", "implicit-type-coercion"), ("prefer-const", "let-const-usage"),
   ("prefer-template", "template-literals"), ("prefer-rest-params", "rest-parameters"),
   ("prefer-spread", "spread-operator"), ("object-shorthand", "object-shorthand"),
   ("prefer-arrow-callback", "callback-functions"), ("dot-notation", "property-access-patterns"),
   ("prefer-destructuring", "object-destructuring"), ("no-useless-catch", "empty-catch-blocks"),
   ("guard-for-in", "for-in-loops"), ("react/jsx-key", "jsx-keys"),
   ("react/no-direct-mutation-state", "state-immutability"),
   ("react/no-array-index-key", "jsx-keys"), ("react/jsx-no-duplicate-props", "props-basics"),
   ("react-hooks/exhaustive-deps", "useeffect-dependencies"),
   ("react-hooks/rules-of-hooks", "usestate-basics")]

/-- A text with its first slash turned into a dash. -/
def dashFirstSlash : List Char → List Char
  | [] => []
  | c :: rest => if c == '/' then '-' :: rest else c :: dashFirstSlash rest

/-- The topic of a rule that shares none. -/
def ownTopic (rule : String) : String := "eslint-" ++ String.ofList (dashFirstSlash rule.toList)

/-- The topic of a rule. -/
def topicOf (rule : String) : String := (sharedTopics.get? rule).getD (ownTopic rule)

end SnippetTutor.Linter
