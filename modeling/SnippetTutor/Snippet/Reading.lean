import SnippetTutor.Snippet.Bound
import SnippetTutor.Snippet.Diagnostic
import SnippetTutor.Snippet.Dialect
import SnippetTutor.Snippet.Source

/-!
# Reading a snippet

Reading turns a source into an indexed tree. Without a hint the dialect is found by looking at the
tree of the most permissive grammar first. A source that cannot be encoded, is too long, has no
tree for a grammar that is needed, or has no statement that makes sense is read as nothing, with
the diagnostics that say why.
-/

namespace SnippetTutor

/-- The tree that each grammar yields for a source. -/
abbrev Parses := Grammar → Option Tree

/-- A tree with its index. -/
structure Parsed where
  root : Tree
  index : Index root

/-- What is known about a snippet as a whole. -/
structure Profile where
  dialect : Dialect := .javascript
  isReact : Bool := false
  hasTypeScript : Bool := false
  deriving DecidableEq, Repr

/-- The result of reading a snippet. -/
structure Reading where
  profile : Profile
  /-- The indexed tree, unless nothing could be read. -/
  parsed : Option Parsed := none
  diagnostics : List Diagnostic := []

/-- The limits that reading keeps to. -/
structure ReadingLimits where
  sourceBytes : Bound
  treeDepth : Bound

namespace Reading

/-- Nothing was read, for the given reason. -/
def failure (dialect : Dialect) (message : String) (diagnostics : List Diagnostic) : Reading :=
  { profile := { dialect := dialect, hasTypeScript := dialect.isTyped }
    diagnostics := { message := message } :: diagnostics }

/-- Statements that are kept although they contain a syntax error. -/
def structuralKinds : List Kind :=
  [.functionDeclaration, .classDeclaration, .lexicalDeclaration, .variableDeclaration,
   .importStatement, .exportStatement, .interfaceDeclaration, .typeAliasDeclaration]

/-- Whether a statement could be recovered. -/
def recovered {root : Tree} (statement : Node root) : Bool :=
  statement.name != "ERROR" &&
    (!statement.label.hasError || statement.isOneOf structuralKinds)

/-- The statements of a tree. -/
def statementsOf (root : Tree) : List (Node root) := (Node.top root).children

/-- Whether a tree holds nothing that can be used. -/
def isHopeless (root : Tree) : Bool :=
  let statements := statementsOf root
  root.label.name == "ERROR" || (!statements.isEmpty && !statements.any recovered)

/-- The indexed tree of a grammar; a message when there is none. -/
def parseWith (parses : Parses) (depth : Bound) (grammar : Grammar) : Except String Parsed := do
  match parses grammar with
  | none => .error ("no " ++ grammar.name ++ " tree")
  | some root =>
    match depth.depthLimit with
    | .error fault => .error fault.text
    | .ok limit => .ok ⟨root, Index.build root limit⟩

/-- The indexed tree of a snippet and its dialect, found out when no hint is given. -/
def parse (parses : Parses) (depth : Bound) : Option Dialect → Except String (Dialect × Parsed)
  | some dialect => (parseWith parses depth dialect.grammar).map fun parsed => (dialect, parsed)
  | none => do
    let first ← parseWith parses depth .tsx
    let dialect := Dialect.classify first.index
    if dialect.isTyped then .ok (dialect, first)
    else (parseWith parses depth dialect.grammar).map fun parsed => (dialect, parsed)

/-- The reading of an indexed tree with something that can be used. -/
def ofUsable (dialect : Dialect) (parsed : Parsed) (diagnostics : List Diagnostic) : Reading :=
  { profile :=
      { dialect := dialect
        isReact := parsed.index.isReact
        hasTypeScript := dialect.isTyped }
    parsed := some parsed
    diagnostics := diagnostics }

/-- The reading of an indexed tree. The limit on depth is shown where it cut the tree. -/
def ofParsed (dialect : Dialect) (depth : Bound) (parsed : Parsed) : Except Fault Reading :=
  let errors := Diagnostic.syntaxErrors Diagnostic.maxSyntaxErrors parsed.root
  if isHopeless parsed.root then
    .ok (failure dialect "No statement could be recovered" errors)
  else if parsed.index.truncated then
    depth.printed.map fun levels => ofUsable dialect parsed (errors ++ [.truncation levels])
  else .ok (ofUsable dialect parsed errors)

/-- Reads a source. A limit on its length that is no number is a fault, and so is a limit that is
exceeded and too long to be shown. -/
def read (limits : ReadingLimits) (parses : Parses) (hint : Option Dialect) (source : Source) :
    Except Fault Reading :=
  let fallback := hint.getD .javascript
  match source with
  | .surrogates value first last =>
    .ok (failure fallback
      ("Source is not valid UTF-8: " ++ Source.encodingError value first last) [])
  | .text content => do
    let size := content.utf8ByteSize
    if ← limits.sourceBytes.exceededBy size then
      limits.sourceBytes.printed.map fun bytes =>
        failure fallback ("Source is " ++ toString size ++ " bytes, limit is " ++ bytes) []
    else
      match parse parses limits.treeDepth hint with
      | .error message => .ok (failure fallback ("Parser unavailable: " ++ message) [])
      | .ok (dialect, parsed) => ofParsed dialect limits.treeDepth parsed

/-- The statements that were read. -/
def statementCount (reading : Reading) : Nat :=
  match reading.parsed with
  | some parsed => (statementsOf parsed.root).length
  | none => 0

end Reading

end SnippetTutor
