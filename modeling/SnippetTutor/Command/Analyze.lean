import SnippetTutor.Analysis.Wire
import SnippetTutor.Command.Request
import SnippetTutor.Command.Surroundings
import SnippetTutor.Console.Item
import SnippetTutor.Curriculum.Classification

/-!
# The analysis of a snippet as a command

The command analyses a snippet, sorts what was found into the layers of the curriculum and picks
what a learner of the given level should look at. It shows the result on the console or writes it
as one JSON document.
-/

namespace SnippetTutor.Command

/-- What the command found. -/
structure Findings where
  analysis : Analysis
  layered : LayeredDetections
  level : Level
  /-- What the learner should look at. -/
  focus : List Detection
  limits : Limits

namespace Findings

/-- What is found in a text. -/
def ofText (surroundings : Surroundings) (options : AnalyzeOptions) (text : String) :
    Except Crash Findings := do
  let config ← surroundings.configAt options.root
  let task : Task :=
    { source := .text text
      parses := surroundings.parses text
      dialect := options.dialect.map Dialect.name
      config := config.map fun (name, values) => (name, .object values)
      linting := if options.linting then none else some false
      execution := surroundings.execution }
  let analysis ← task.analyze.mapError Crash.ofFault
  let curriculum ← surroundings.curriculum config
  let layered := LayeredDetections.classify curriculum analysis.detections
  let limits := Limits.ofMembers (config.sectionOf "limits")
  let focus ← (layered.prioritize options.level limits.surfacedIssues).mapError Crash.ofFault
  return ⟨analysis, layered, options.level, focus, limits⟩

/-! ### As a document -/

/-- The findings as one document. -/
def document (findings : Findings) : Except Crash Json := do
  let analysis := findings.analysis
  let topIssues ←
    (Analysis.firstIssues analysis.detections findings.limits.prioritizedIssues).mapError
      Crash.ofFault
  let context ←
    (FeedbackContext.ofAnalysis analysis findings.limits.contextItems).mapError Crash.ofFault
  return .object
    (analysis.members ++
      [("layers", findings.layered.countsToJson),
       ("prioritized", Detection.listToJson findings.focus),
       ("diagnostics", .list (analysis.diagnostics.map Diagnostic.toJson)),
       ("topIssues", Detection.listToJson topIssues),
       ("topicPerformance",
         .list ((TopicPerformance.ofAll analysis.detections).map TopicPerformance.toJson)),
       ("feedbackContext", context.toJson)])

/-! ### On the console -/

open Console

/-- The tags of a detection. -/
def tags (detection : Detection) : String :=
  " ".intercalate
    ((if detection.positive then [styled "positive" "+"] else []) ++
      (if detection.negative then [styled "negative" "-"] else []) ++
      (if detection.idiomatic then [styled "idiomatic" "idiomatic"] else []) ++
      (if detection.trivial then [styled "trivial" "trivial"] else []))

/-- The details of a detection as markup. -/
def details (detection : Detection) : String := escape (detection.details.getD "")

/-- The row of a detection. -/
def row (detection : Detection) : List String :=
  [(detection.mark.map fun mark => mark.line.shown).getD "",
   detection.topic,
   tags detection,
   detection.origin.name,
   details detection]

/-- The detections as a table, or a line that there are none. -/
def found (detections : List Detection) : Item :=
  if detections.isEmpty then .line (styled "dim" "No patterns detected")
  else .table ["Line", "Topic", "Tags", "Source", "Details"] (detections.map row)

/-- The title of an analysis. -/
def title (profile : Profile) : String :=
  "ANALYSIS (" ++ profile.dialect.name ++ (if profile.isReact then ", React" else "") ++ ")"

/-- The text of a warning about a diagnostic. -/
def warningText (diagnostic : Diagnostic) : String :=
  "[" ++ diagnostic.kind.name ++ "] line " ++ toString diagnostic.line ++ ": " ++
    diagnostic.message

/-- The counts of an analysis on one line. -/
def totals (analysis : Analysis) : String :=
  "\n" ++ toString analysis.detections.length ++ " detections: " ++
    styled "positive" (toString analysis.positives.length ++ " positive") ++ ", " ++
    styled "negative" (toString analysis.issues.length ++ " issues") ++ ", " ++
    toString analysis.idiomaticCount ++ " idiomatic"

/-- The number of detections of every layer on one line. -/
def layerLine (layered : LayeredDetections) : String :=
  " | ".intercalate (Layer.all.map fun layer =>
    styled layer.name layer.info.name ++ " " ++ toString (layered.ofLayer layer).length)

/-- A detection that the learner should look at. -/
def focusLine (detection : Detection) : String :=
  let line :=
    (detection.mark.map fun mark => "line " ++ mark.line.shown ++ ": ").getD ""
  "  " ++ styled "slug" detection.topic ++ " " ++ line ++ details detection

/-- What the learner should look at, or a line that there is nothing. -/
def focusItems (focus : List Detection) : List Item :=
  if focus.isEmpty then [.line (styled "success" "Nothing to fix at this level")]
  else focus.map fun detection => .line (focusLine detection)

/-- The findings on the console. -/
def screen (findings : Findings) : List Item :=
  let analysis := findings.analysis
  [Item.heading (title analysis.reading.profile)] ++
    analysis.diagnostics.map (fun diagnostic => Item.warning (warningText diagnostic)) ++
    [found analysis.detections,
     .line (totals analysis),
     .line (layerLine findings.layered),
     Item.heading ("FOCUS FOR A " ++ findings.level.name.toUpper ++ " LEARNER")] ++
    focusItems findings.focus

end Findings

end SnippetTutor.Command
