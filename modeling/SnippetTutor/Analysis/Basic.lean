import SnippetTutor.Detection.KeepFirst
import SnippetTutor.Detection.Basic
import SnippetTutor.Snippet.Reading

/-!
# Analyses

What an analysis found, and the views of it: what is wrong, weighty things first; what is right;
and the topics in order of first mention.
-/

namespace SnippetTutor

/-- The result of analysing a snippet. -/
structure Analysis where
  reading : Reading
  detections : List Detection
  diagnostics : List Diagnostic
  /-- The issues that are shown first. -/
  topIssues : List Detection

namespace Analysis

/-- What is wrong: first what has weight, then the rest. -/
def issuesOf (detections : List Detection) : List Detection :=
  let negatives := detections.filter Detection.negative
  negatives.filter (fun detection => !detection.trivial) ++ negatives.filter Detection.trivial

/-- What is right and in no way wrong. -/
def positivesOf (detections : List Detection) : List Detection :=
  detections.filter fun detection => detection.positive && !detection.negative

/-- The topics of detections in order of first mention. -/
def topicsOf (detections : List Detection) : List String :=
  keepFirst id (detections.map Detection.topic)

/-- The issues that come first, up to a limit. -/
def firstIssues (detections : List Detection) (limit : Bound) : Except Fault (List Detection) :=
  limit.cut (issuesOf detections)

/-- The analysis of a reading in which the given things were found. -/
def summarize (reading : Reading) (detections : List Detection) (diagnostics : List Diagnostic)
    (limit : Bound) : Except Fault Analysis :=
  (firstIssues detections limit).map fun topIssues =>
    ⟨reading, detections, diagnostics, topIssues⟩

variable (analysis : Analysis)

/-- What is wrong with the snippet. -/
def issues : List Detection := issuesOf analysis.detections

/-- What is right with the snippet. -/
def positives : List Detection := positivesOf analysis.detections

/-- The topics that were met. -/
def topics : List String := topicsOf analysis.detections

/-- The number of idioms. -/
def idiomaticCount : Nat := analysis.detections.countP Detection.idiomatic

/-- The topics worth feedback: those with issues, then those with something right. -/
def feedbackTopics : List String := topicsOf (analysis.issues ++ analysis.positives)

end Analysis

end SnippetTutor
