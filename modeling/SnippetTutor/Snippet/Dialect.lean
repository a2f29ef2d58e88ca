import SnippetTutor.Shape.Call
import SnippetTutor.Shape.Markup
import SnippetTutor.Tree.Index

/-!
# Dialects and frameworks

The dialects of a snippet, the grammar that each is parsed with, and what an indexed tree tells
about them: typed constructs and markup decide the dialect, while imports, hook calls and markup
show that the snippet belongs to React.
-/

namespace SnippetTutor

/-- The grammars a snippet can be parsed with. -/
inductive Grammar where
  | javascript
  | typescript
  | tsx
  deriving DecidableEq, Repr

/-- The name of a grammar. -/
def Grammar.name : Grammar → String
  | javascript => "javascript"
  | typescript => "typescript"
  | tsx => "tsx"

/-- The dialects of a snippet. -/
inductive Dialect where
  | javascript
  | typescript
  | jsx
  | tsx
  deriving DecidableEq, Repr

namespace Dialect

/-- The name of a dialect. -/
def name : Dialect → String
  | javascript => "javascript"
  | typescript => "typescript"
  | jsx => "jsx"
  | tsx => "tsx"

/-- Every dialect. -/
def all : List Dialect := [javascript, typescript, jsx, tsx]

/-- The dialect with the given name. -/
def ofName? (text : String) : Option Dialect := all.find? fun dialect => dialect.name == text

/-- The grammar that a dialect is parsed with. -/
def grammar : Dialect → Grammar
  | typescript => .typescript
  | tsx => .tsx
  | javascript | jsx => .javascript

/-- Whether a dialect has type annotations. -/
def isTyped : Dialect → Bool
  | typescript | tsx => true
  | javascript | jsx => false

/-- Constructs that only typed dialects have. -/
def typedKinds : List Kind :=
  [.typeAscription, .typeArguments, .typeParameters, .interfaceDeclaration, .typeAliasDeclaration,
   .enumDeclaration, .asExpression, .satisfiesExpression, .nonNullExpression,
   .accessibilityModifier]

/-- Constructs that only dialects with markup have. -/
def markupKinds : List Kind := [.jsxElement, .jsxSelfClosingElement, .jsxFragment, .jsxText]

/-- The dialect that an indexed tree is written in. -/
def classify {root : Tree} (index : Index root) : Dialect :=
  match index.has typedKinds, index.has markupKinds with
  | true, true => tsx
  | true, false => typescript
  | false, true => jsx
  | false, false => javascript

end Dialect

namespace Index

variable {root : Tree}

/-- Whether the React module is imported. -/
def importsReact (index : Index root) : Bool :=
  (index.ofKind .importStatement).any fun statement =>
    let source := (statement.field .source).bind Node.stringValue
    source == some "react" || source == some "React"

/-- Whether a hook is called. -/
def callsHook (index : Index root) : Bool :=
  (index.ofKind .callExpression).any fun call => call.callName.any isHookName

/-- Whether a tree belongs to React. -/
def isReact (index : Index root) : Bool :=
  index.importsReact || index.callsHook || index.has Dialect.markupKinds

end Index

end SnippetTutor
