import SnippetTutor.Detector.Basic

/-!
# Declarations and their scope

Where names are declared, where they may be used, and how object literals repeat them. A scope is
the program or the body of a function, without the functions inside it: these are scopes of their
own, and what they refer to is used later.
-/

namespace SnippetTutor.Detectors.Variables

variable {root : Tree}

/-- Declarations that reach beyond their block. -/
def varHoisting (context : Context root) : List (Finding root) :=
  (context.ofKind .variableDeclaration).map fun node =>
    .of .minorBad node "var declaration is hoisted to function scope - prefer let/const"

/-- The program and all bodies of functions. -/
def scopes (context : Context root) : List (Node root) :=
  context.top :: (context.ofKinds Node.functionKinds).filterMap Node.functionBody

/-- The constructs of a scope. -/
def scopeNodes (scope : Node root) : List (Node root) :=
  scope.descendantsOutside Node.isFunction

/-- The declarators of block-scoped names, with their names. -/
def blockScoped (nodes : List (Node root)) : List (String × Node root) :=
  (nodes.filter fun node =>
    node.declarationWord == some "let" || node.declarationWord == some "const").flatMap fun node =>
      node.declarators.filterMap fun declarator =>
        declarator.declaratorName.map fun name => (name, declarator)

/-- References in a scope to names that are declared on a later line of it. -/
def earlyReferences (scope : Node root) : List (Node root) :=
  let nodes := scopeNodes scope
  let declared := blockScoped nodes
  let declaring := declared.filterMap fun (_, declarator) => declarator.field .name
  nodes.filter fun node =>
    (node.kind == .identifier || node.kind == .shorthandPropertyIdentifier) &&
      !declaring.contains node &&
      (Keyed.get? declared node.text).any fun declarator => node.line < declarator.line

/-- References to block-scoped names above their declaration. -/
def temporalDeadZone (context : Context root) : List (Finding root) :=
  (((scopes context).flatMap earlyReferences).mergeSort Node.beginsBefore).map fun node =>
    .of .bad node
      ("Variable '" ++ node.text ++ "' referenced before declaration (temporal dead zone)")

/-- Constructs with a block of their own. -/
def blockKinds : List Kind :=
  [.ifStatement, .forStatement, .forInStatement, .whileStatement, .doStatement, .switchCase,
   .switchDefault]

/-- The first declaration that leaks out of its block, or else the first one that does not. -/
def blockVsFunctionScope (context : Context root) : List (Finding root) :=
  let inBlock := (context.ofKinds [.variableDeclaration, .lexicalDeclaration]).filter fun node =>
    node.ancestors.any fun above => above.isOneOf blockKinds
  match inBlock.find? fun node => node.declarationWord == some "var" with
  | some node =>
    [.of .bad node "var inside block - leaks to function scope. Use let/const for block scoping"]
  | none =>
    (inBlock.take 1).map fun node =>
      .of .idiom node "Block-scoped variable declaration with let/const"

/-- A property that is written short, or could be. -/
def shorthand? (node : Node root) : Option (Finding root) :=
  if node.kind == .shorthandPropertyIdentifier ||
      node.kind == .shorthandPropertyIdentifierPattern then
    some (.of .idiom node "Object shorthand property used")
  else
    (node.field .key).bind fun key =>
      if key.kind == .propertyIdentifier &&
          (node.field .value).bind Node.identifierName == some key.text then
        some (.of .minorBad node
          ("\x7b" ++ key.text ++ ": " ++ key.text ++ "\x7d can be shortened to \x7b" ++ key.text ++
            "\x7d"))
      else none

/-- The first property written short and the first one that could be. -/
def objectShorthand (context : Context root) : List (Finding root) :=
  keepFirst Finding.verdict
    ((context.ofKinds
      [.shorthandPropertyIdentifier, .shorthandPropertyIdentifierPattern, .pair,
       .pairPattern]).filterMap shorthand?)

/-- Detectors of declarations. -/
def declarations : Collection where
  suite :=
    { name := "variable_patterns"
      category := "variables"
      order := 40
      home := "codecoach.rules.javascript.variable_patterns" }
  detectors :=
    [.of "find_var_hoisting" "var-hoisting" varHoisting,
     .of "find_temporal_dead_zone" "temporal-dead-zone" temporalDeadZone,
     .of "find_block_vs_function_scope" "block-vs-function-scope" blockVsFunctionScope,
     .of "find_object_shorthand" "object-shorthand" objectShorthand]

end SnippetTutor.Detectors.Variables
