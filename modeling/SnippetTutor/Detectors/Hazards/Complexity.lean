import SnippetTutor.Detector.Hazard

/-!
# Code that is hard to follow

Conditional expressions inside conditional expressions, deep nesting and long parameter lists.
-/

namespace SnippetTutor.Detectors.Hazards

variable {root : Tree}

/-- Conditional expressions with another one as a branch. -/
def nestedConditionals (context : Context root) : List (Hazard root) :=
  ((context.ofKind .ternaryExpression).filter fun node =>
    Node.kindOf (node.fieldInside .consequence) == .ternaryExpression ||
      Node.kindOf (node.fieldInside .alternative) == .ternaryExpression).map fun node =>
        { site := node
          details := "Nested ternary operator — hard to read. " ++
            "Consider using if/else or early returns instead." }

/-- Constructs that open a level of nesting. -/
def nestingKinds : List Kind :=
  [.statementBlock, .ifStatement, .forStatement, .forInStatement, .whileStatement, .doStatement,
   .switchStatement, .tryStatement]

/-- Whether a construct opens a level of nesting. -/
def opensLevel (node : Node root) : Bool := node.isOneOf nestingKinds

/-- A construct met on a way down the program, with the number of levels open around it. -/
structure Nested (root : Tree) where
  node : Node root
  outer : Nat
  depth : Nat

namespace Nested

/-- The number of levels open inside a construct. -/
def level (visit : Nested root) : Nat :=
  if opensLevel visit.node then visit.outer + 1 else visit.outer

/-- The constructs directly inside a construct, as far down as the tree is read. -/
def next (limit : DepthLimit) (visit : Nested root) : List (Nested root) :=
  if limit.stops visit.depth then []
  else visit.node.children.map fun below => ⟨below, visit.level, visit.depth + 1⟩

theorem load_next_lt (limit : DepthLimit) (visit : Nested root) :
    Node.load ((visit.next limit).map node) < visit.node.tree.size := by
  rw [next]
  split
  · exact Node.load_lt_size (List.nil_sublist _)
  · rw [List.map_map]
    have same : (node ∘ fun below => (⟨below, visit.level, visit.depth + 1⟩ : Nested root)) = id :=
      rfl
    rw [same, List.map_id]
    exact Node.load_lt_size List.filter_sublist

/-- Works off an agenda. -/
def drain (limit : DepthLimit) : List (Nested root) → List (Nested root)
  | [] => []
  | visit :: agenda => visit :: drain limit (visit.next limit ++ agenda)
termination_by agenda => Node.load (agenda.map node)
decreasing_by
  rw [List.map_append, Node.load_append, List.map_cons, Node.load_cons]
  exact Nat.add_lt_add_right (load_next_lt limit visit) _

end Nested

/-- The constructs of the program that open a level, as far down as the tree is read. -/
def nestingConstructs (context : Context root) : Except Fault (List (Nested root)) :=
  match context.statements with
  | [] => .ok []
  | statements =>
    context.treeDepth.depthLimit.map fun limit =>
      (Nested.drain limit (statements.map fun statement => ⟨statement, 0, 0⟩)).filter
        fun visit => opensLevel visit.node

/-- The deepest nesting that is in order. -/
def maxNesting : Nat := 4

/-- Constructs that are nested too deeply, once per line. -/
def deepNesting (context : Context root) : Except Fault (List (Hazard root)) :=
  (nestingConstructs context).map fun visits =>
    (keepFirst (fun visit => visit.node.line)
      (visits.filter fun visit => maxNesting < visit.level)).map fun visit =>
        { site := visit.node
          details := "Code nested " ++ toString visit.level ++
            " levels deep — consider extracting into helper functions or using early returns." }

/-- The name of a function in a message. -/
def displayName (function : Node root) : String :=
  match function.field .name with
  | some name =>
    if name.kind == .identifier || name.kind == .propertyIdentifier then name.text
    else "anonymous"
  | none => "anonymous"

/-- The most parameters that are in order. -/
def maxParameters : Nat := 4

/-- Functions with too many parameters. -/
def longParameterLists (context : Context root) : List (Hazard root) :=
  (context.ofKinds Node.functionKinds).filterMap fun function =>
    let count := (Node.childrenOf (function.field .parameters)).length
    if maxParameters < count then
      some
        { site := function
          details := "Function '" ++ displayName function ++ "' has " ++ toString count ++
            " parameters — consider using an options object instead." }
    else none

end SnippetTutor.Detectors.Hazards
