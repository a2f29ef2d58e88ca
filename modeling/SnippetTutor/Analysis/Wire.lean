import SnippetTutor.Analysis.Feedback
import SnippetTutor.Analysis.Performance
import SnippetTutor.Detection.Wire

/-!
# Analyses on the wire

The form in which analyses are stored and handed to other programs.
-/

namespace SnippetTutor

/-- The wire form of a list of texts. -/
def Json.texts (items : List String) : Json := .list (items.map .text)

/-- The wire form of a count. -/
def Json.count (n : Nat) : Json := .int n

/-- The wire form of a diagnostic. -/
def Diagnostic.toJson (diagnostic : Diagnostic) : Json :=
  .object
    [("message", .text diagnostic.message),
     ("line", .int diagnostic.line),
     ("column", .int diagnostic.column),
     ("kind", .text diagnostic.kind.name)]

/-- The wire form of a performance. -/
def TopicPerformance.toJson (performance : TopicPerformance) : Json :=
  .object
    [("topicSlug", .text performance.topic),
     ("detectionCount", .count performance.total),
     ("positiveCount", .count performance.positive),
     ("negativeCount", .count performance.negative),
     ("idiomaticCount", .count performance.idiomatic),
     ("score", .real performance.score)]

/-- The wire form of the material for feedback. -/
def FeedbackContext.toJson (context : FeedbackContext) : Json :=
  .object
    [("frameworkContext", .text context.framework),
     ("issuesSummary", .text context.issues),
     ("positiveSummary", .text context.positives),
     ("topicsToAddress", .texts context.topics)]

namespace Analysis

variable (analysis : Analysis)

/-- The counts of an analysis. -/
def counts : Keyed Json :=
  [("totalDetections", .count analysis.detections.length),
   ("positiveCount", .count analysis.positives.length),
   ("negativeCount", .count analysis.issues.length),
   ("idiomaticCount", .count analysis.idiomaticCount)]

/-- The summary of an analysis. -/
def summaryToJson : Json :=
  .object
    (analysis.counts ++
      [("isReact", .bool analysis.reading.profile.isReact),
       ("hasTypeScript", .bool analysis.reading.profile.hasTypeScript),
       ("topIssues", Detection.listToJson analysis.topIssues),
       ("topicsCovered", .texts analysis.topics)])

/-- The members of the wire form of an analysis. -/
def members : Keyed Json :=
  [("language", .text analysis.reading.profile.dialect.name),
   ("isReact", .bool analysis.reading.profile.isReact),
   ("hasTypeScript", .bool analysis.reading.profile.hasTypeScript),
   ("parseErrors", .list ((analysis.diagnostics.filter fun diagnostic =>
      diagnostic.kind == .parse).map Diagnostic.toJson)),
   ("summary", .object (analysis.counts ++ [("topicsCovered", .texts analysis.topics)])),
   ("detections", Detection.listToJson analysis.detections),
   ("topicsDetected", .texts analysis.topics)]

/-- The wire form of an analysis. -/
def toJson : Json := .object analysis.members

end Analysis

end SnippetTutor
