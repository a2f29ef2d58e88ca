import SnippetTutor.Detector.Basic
import SnippetTutor.Text.Word

/-!
# Strings and regular expressions

* `strings`: building, searching, cutting and changing strings;
* `patterns`: regular expressions, their flags and their groups.
-/

namespace SnippetTutor.Detectors.Strings

variable {root : Tree}

/-! ### Strings -/

/-- Whether one side of a binary expression is a string literal. -/
def joinsLiteral (node : Node root) : Bool :=
  (node.field .left).any Node.isStringLiteral || (node.field .right).any Node.isStringLiteral

/-- The first template with a part to be computed, and the first string put together with `+`. -/
def templateLiterals (context : Context root) : List (Finding root) :=
  keepFirst Finding.verdict
    ((context.ofKinds [.templateString, .binaryExpression]).filterMap fun node =>
      if node.kind == .templateString then
        if node.hasSubstitution then
          some (.of .idiom node "Template literal with interpolation")
        else none
      else if node.hasOperator "+" && joinsLiteral node then
        some (.of .minorBad node "String concatenation with + — consider template literals")
      else none)

/-- The first taking apart and the first putting together. -/
def splitJoin (context : Context root) : List (Finding root) :=
  keepFirst Finding.details
    ((context.methodCalls ["split", "join"]).map fun (call, method) =>
      .of .idiom call
        (if method == "split" then ".split() used to tokenize string"
         else ".join() used to combine array into string"))

/-- The number of different methods reported for one purpose. -/
def variantLimit : Nat := 2

/-- The first calls of the first few different methods for a purpose. -/
def distinctMethods (context : Context root) (methods : List String) (purpose : String) :
    List (Finding root) :=
  (keepFirst Finding.details
    ((context.methodCalls methods).map fun (call, method) =>
      .of .idiom call ("." ++ method ++ "() used for " ++ purpose))).take variantLimit

/-- Searching in strings. -/
def searchMethods (context : Context root) : List (Finding root) :=
  distinctMethods context
    ["indexOf", "lastIndexOf", "startsWith", "endsWith", "includes", "search", "match", "matchAll"]
    "string searching"

/-- Changing strings. -/
def transform (context : Context root) : List (Finding root) :=
  distinctMethods context
    ["toLowerCase", "toUpperCase", "trim", "trimStart", "trimEnd", "replace", "replaceAll"]
    "string transformation"

/-- Whether the object of a call is known to be an array. -/
def onArray (context : Context root) (call : Node root) : Bool :=
  call.receiver.any fun object =>
    object.kind == .array || context.typeOf? object.identifierName == .array

/-- How a method that cuts a string is judged. -/
def cutVerdict (method : String) : Verdict where
  positive := true
  negative := method == "substr"
  idiomatic := method == "slice"
  trivial := method == "substr"
  praised := by
    intro recommended
    rw [eq_of_beq recommended]
    decide

/-- Cutting something that is not known to be an array. -/
def sliceSubstring (context : Context root) : List (Finding root) :=
  ((context.methodCalls ["slice", "substring", "substr"]).find? fun (call, _) =>
    !onArray context call).toList.map fun (call, method) =>
      .of (cutVerdict method) call
        (if method == "substr" then ".substr() is deprecated — use .slice() instead"
         else "." ++ method ++ "() used for string extraction")

/-- Padding and repeating. -/
def padRepeat (context : Context root) : List (Finding root) :=
  ((context.methodCalls ["padStart", "padEnd", "repeat"]).take 1).map fun (call, method) =>
    .of .idiom call ("." ++ method ++ "() used")

/-- Detectors of strings. -/
def strings : Collection where
  suite :=
    { name := "string_methods"
      category := "strings"
      order := 80
      home := "codecoach.rules.javascript.string_methods" }
  detectors :=
    [.of "find_template_literals" "template-literals" templateLiterals,
     .of "find_split_join" "string-split-join" splitJoin,
     .of "find_string_search_methods" "string-search-methods" searchMethods,
     .of "find_string_transform" "string-transform" transform,
     .of "find_string_slice_substring" "string-slice-substring" sliceSubstring,
     .of "find_string_pad_repeat" "string-pad-repeat" padRepeat]

/-! ### Regular expressions -/

/-- A regular expression, written out or constructed. -/
def regexLiteral (context : Context root) : List (Finding root) :=
  ((context.ofKinds [.regex, .newExpression]).filterMap fun node =>
    if node.kind == .regex then some (.of .idiom node "Regular expression literal used")
    else if node.calls "RegExp" then some (.of .idiom node "RegExp constructor used")
    else none).take 1

/-- Applying a regular expression. -/
def regexMethods (context : Context root) : List (Finding root) :=
  ((context.methodCalls ["test", "exec"]).take 1).map fun (call, method) =>
    .of .idiom call ("." ++ method ++ "() regex method used")

/-- The text of a part of a regular expression. -/
def partText (node : Node root) (role : Role) : String := ((node.field role).map Node.text).getD ""

/-- A regular expression with flags. -/
def regexFlags (context : Context root) : List (Finding root) :=
  ((context.ofKind .regex).find? fun node => partText node .flags != "").toList.map fun node =>
    .of .idiom node ("Regex flags used: " ++ partText node .flags)

/-- Whether an opening parenthesis without a question mark behind it occurs. -/
def hasCapture : List Char → Bool
  | [] => false
  | '(' :: '?' :: rest => hasCapture rest
  | '(' :: _ => true
  | _ :: rest => hasCapture rest

/-- Whether a text starts with a name and a closing angle bracket. -/
def startsWithName (text : List Char) : Bool :=
  !(text.takeWhile Text.isWord).isEmpty && (text.dropWhile Text.isWord).head? == some '>'

/-- Whether a group with a name occurs. -/
def hasNamedGroup : List Char → Bool
  | [] => false
  | '(' :: rest =>
    (match rest with
     | '?' :: '<' :: name => startsWithName name
     | _ => false) || hasNamedGroup rest
  | _ :: rest => hasNamedGroup rest

/-- A regular expression with groups. -/
def regexGroups (context : Context root) : List (Finding root) :=
  ((context.ofKind .regex).filterMap fun node =>
    let pattern := (partText node .pattern).toList
    let named := hasNamedGroup pattern
    if named || hasCapture pattern then
      some (.tested .idiomOrGood named node "Named capture groups used in regex"
        "Capture groups used in regex")
    else none).take 1

/-- Detectors of regular expressions. -/
def patterns : Collection where
  suite :=
    { name := "regex_patterns"
      category := "regex"
      order := 190
      home := "codecoach.rules.javascript.regex_patterns" }
  detectors :=
    [.of "find_regex_literal" "regex-literal" regexLiteral,
     .of "find_regex_methods" "regex-methods" regexMethods,
     .of "find_regex_flags" "regex-flags" regexFlags,
     .of "find_regex_groups" "regex-groups" regexGroups]

end SnippetTutor.Detectors.Strings
