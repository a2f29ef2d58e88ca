import SnippetTutor.Detector.Basic

/-!
# Operators and modules

* `operators`: newer operators, type checks and comparisons;
* `modules`: what a snippet takes from other modules and gives to them.
-/

namespace SnippetTutor.Detectors.Operators

variable {root : Tree}

/-! ### Operators -/

/-- The first construct of a kind with one of the given operators. -/
def firstOperator (context : Context root) (kind : Kind) (tokens : List String) :
    Option (Node root × String) :=
  (Context.named (context.ofKind kind) Node.operator tokens).head?

/-- An access that stops at a missing object. -/
def optionalChaining (context : Context root) : List (Finding root) :=
  ((context.ofKinds [.memberExpression, .subscriptExpression, .callExpression]).find?
    Node.isOptionalChain).toList.map fun node =>
      .of .idiom node "Optional chaining (?.) used for safe property access"

/-- A default for a missing value. -/
def nullishCoalescing (context : Context root) : List (Finding root) :=
  (firstOperator context .binaryExpression ["??"]).toList.map fun (node, _) =>
    .of .idiom node "Nullish coalescing (??) used for default values"

/-- An assignment under a condition. -/
def logicalAssignment (context : Context root) : List (Finding root) :=
  (firstOperator context .augmentedAssignmentExpression ["&&=", "||=", "??="]).toList.map
    fun (node, token) => .of .idiom node ("Logical assignment " ++ token ++ " used")

/-- A check with `typeof`. -/
def typeofOperator (context : Context root) : List (Finding root) :=
  (firstOperator context .unaryExpression ["typeof"]).toList.map fun (node, _) =>
    .of .idiom node "typeof operator used for type checking"

/-- A check with `instanceof`. -/
def instanceofOperator (context : Context root) : List (Finding root) :=
  (firstOperator context .binaryExpression ["instanceof"]).toList.map fun (node, _) =>
    .of .idiom node "instanceof operator used for type checking"

/-- What is said about a comparison, with whether it is a strict one. -/
def comparison? (node : Node root) : Option (Bool × Finding root) :=
  node.operator.bind fun token =>
    if token == "===" || token == "!==" then
      some (true, .of .idiom node ("Strict equality (" ++ token ++ ") used"))
    else if token == "==" || token == "!=" then
      some (false,
        .tested .idiomOrMinorBad node.comparesNull node
          ("Loose equality (" ++ token ++ ") with null — acceptable pattern")
          ("Loose equality (" ++ token ++ ") — prefer strict equality (" ++ token ++ "=)"))
    else none

/-- The first strict comparison and the first loose one. -/
def equalityOperators (context : Context root) : List (Finding root) :=
  (keepFirst Prod.fst ((context.ofKind .binaryExpression).filterMap comparison?)).map Prod.snd

/-- Conditional expressions. -/
def ternaryOperator (context : Context root) : List (Finding root) :=
  (context.ofKind .ternaryExpression).map fun node =>
    .of .idiom node "Ternary operator used for conditional expression"

/-- Detectors of operators. -/
def operators : Collection where
  suite :=
    { name := "modern_operators"
      category := "operators"
      order := 120
      home := "codecoach.rules.javascript.modern_operators" }
  detectors :=
    [.of "find_optional_chaining" "optional-chaining" optionalChaining,
     .of "find_nullish_coalescing" "nullish-coalescing" nullishCoalescing,
     .of "find_logical_assignment" "logical-assignment" logicalAssignment,
     .of "find_typeof_operator" "typeof-operator" typeofOperator,
     .of "find_instanceof_operator" "instanceof-operator" instanceofOperator,
     .of "find_equality_operators" "equality-operators" equalityOperators,
     .of "find_ternary_operator" "ternary-operator" ternaryOperator]

/-! ### Modules -/

/-- The kinds of bindings that an import introduces; an empty list of names introduces none. -/
def importedKinds (node : Node root) : List Kind :=
  (node.children.filter fun clause => clause.kind == .importClause).flatMap fun clause =>
    (clause.children.filter fun binding =>
      binding.kind != .namedImports || !binding.children.isEmpty).map Node.kind

/-- Whether a module's default is exported. -/
def isDefaultExport (node : Node root) : Bool := node.tokens.contains "default"

/-- Whether something is exported under a name. -/
def isNamedExport (node : Node root) : Bool :=
  !isDefaultExport node &&
    ((node.field .declaration).isSome ||
      node.children.any fun child =>
        child.kind == .exportClause || child.name == "namespace_export")

/-- The first import of a kind and the first export of a sort, in source order. -/
def firstImportAndExport (context : Context root) (imported : Kind)
    (exports : Node root → Bool) (importDetails exportDetails : String) : List (Finding root) :=
  let taken? := (context.ofKind .importStatement).find? fun node =>
    (importedKinds node).contains imported
  let given? := (context.ofKind .exportStatement).find? exports
  let found :=
    taken?.toList.map (fun node => (node, Finding.of .idiom node importDetails)) ++
    given?.toList.map (fun node => (node, Finding.of .idiom node exportDetails))
  (found.mergeSort fun first second => first.1.beginsBefore second.1).map Prod.snd

/-- Imports and exports of names. -/
def namedImportExport (context : Context root) : List (Finding root) :=
  firstImportAndExport context .namedImports isNamedExport "Named import used" "Named export used"

/-- Imports and exports of a default. -/
def defaultImportExport (context : Context root) : List (Finding root) :=
  firstImportAndExport context .identifier isDefaultExport "Default import used"
    "Default export used"

/-- A module loaded while the program runs. -/
def dynamicImport (context : Context root) : List (Finding root) :=
  ((context.ofKind .callExpression).find? Node.isDynamicImport).toList.map fun call =>
    .of .idiom call "Dynamic import() used for code splitting"

/-- An import of everything under one name. -/
def namespaceImport (context : Context root) : List (Finding root) :=
  ((context.ofKind .importStatement).find? fun node =>
    (importedKinds node).contains .namespaceImport).toList.map fun node =>
      .of .idiom node "Namespace import (import * as ...) used"

/-- Detectors of modules. -/
def modules : Collection where
  suite :=
    { name := "module_patterns"
      category := "modules"
      order := 150
      home := "codecoach.rules.javascript.module_patterns" }
  detectors :=
    [.of "find_named_import_export" "import-export-named" namedImportExport,
     .of "find_default_import_export" "import-export-default" defaultImportExport,
     .of "find_dynamic_import" "import-dynamic" dynamicImport,
     .of "find_namespace_import" "import-namespace" namespaceImport]

end SnippetTutor.Detectors.Operators
