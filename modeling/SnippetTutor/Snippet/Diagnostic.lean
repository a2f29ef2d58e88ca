import SnippetTutor.Text.Blank
import SnippetTutor.Tree.Walk

/-!
# Diagnostics

Problems met on the way that do not stop an analysis. `syntaxErrors` collects them from a tree:
one for every token that the parser had to supply and one for every construct it could not make
sense of, in source order, looking only where the tree says there is an error, and no more than a
given number.
-/

namespace SnippetTutor

/-- Which part of the analysis met a problem. -/
inductive DiagnosticKind where
  | parse
  | detector
  | ruleEngine
  deriving DecidableEq, Repr

/-- The name of a part of the analysis. -/
def DiagnosticKind.name : DiagnosticKind → String
  | parse => "parse"
  | detector => "detector"
  | ruleEngine => "rule-engine"

/-- A problem met while analysing a snippet. -/
structure Diagnostic where
  message : String
  line : Int := 0
  column : Int := 0
  kind : DiagnosticKind := .parse
  deriving DecidableEq, Repr

namespace Diagnostic

/-- The longest excerpt of a text that a message quotes. -/
def excerptLength : Nat := 40

/-- The start of a text that a message quotes: its first line that is not blank, cut short. -/
def excerpt (text : List Char) : List Char :=
  (Text.firstLine (Text.strip text)).take excerptLength

/-- The message about a construct that makes no sense. -/
def unexpected (text : String) : String :=
  match excerpt text.toList with
  | [] => "Unexpected token"
  | near => "Unexpected token near '" ++ String.ofList near ++ "'"

variable {root : Tree}

/-- The diagnostic about a tree that is cut at a limit. -/
def truncation (limit : String) : Diagnostic :=
  { message := "Tree deeper than " ++ limit ++ " levels; truncated" }

/-- A diagnostic located at a construct. -/
def locatedAt (node : Node root) (message : String) : Diagnostic :=
  { message := message, line := node.location.line, column := node.location.column }

/-- The problem that a construct itself stands for. -/
def own (node : Node root) : List Diagnostic :=
  if node.label.missing then [locatedAt node ("Missing '" ++ node.name ++ "'")]
  else if node.name == "ERROR" then [locatedAt node (unexpected node.text)]
  else []

/-- The places below a construct where to look for more problems. -/
def suspects (node : Node root) : List (Node root) :=
  if node.label.missing then []
  else node.offspring.filter fun below => below.label.hasError || below.label.missing

theorem suspects_sublist (node : Node root) : (suspects node).Sublist node.offspring := by
  unfold suspects
  split
  · exact List.nil_sublist _
  · exact List.filter_sublist

/-- Works off an agenda of suspect places until the limit is reached. -/
def collect (limit : Nat) : List (Node root) → List Diagnostic
  | [] => []
  | node :: agenda =>
    if limit = 0 then []
    else own node ++ collect (limit - (own node).length) (suspects node ++ agenda)
termination_by agenda => Node.load agenda
decreasing_by
  rw [Node.load_append, Node.load_cons]
  exact Nat.add_lt_add_right (Node.load_lt_size (suspects_sublist node)) _

/-- The largest number of syntax errors reported. -/
def maxSyntaxErrors : Nat := 50

/-- The syntax errors of a tree. -/
def syntaxErrors (limit : Nat) (root : Tree) : List Diagnostic :=
  if root.label.hasError then collect limit [Node.top root] else []

end Diagnostic

end SnippetTutor
