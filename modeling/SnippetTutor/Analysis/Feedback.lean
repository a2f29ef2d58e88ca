import SnippetTutor.Analysis.Basic

/-!
# Material for feedback

What a writer of feedback is told about an analysis: the kind of code, the first issues and the
first things that are right as bullet points, and the topics to address.
-/

namespace SnippetTutor

/-- What a writer of feedback is told. -/
structure FeedbackContext where
  framework : String
  issues : String
  positives : String
  topics : List String
  deriving DecidableEq, Repr

namespace FeedbackContext

/-- The kind of code. -/
def frameworkOf (profile : Profile) : String :=
  if profile.isReact then "React/JSX code"
  else if profile.hasTypeScript then "TypeScript code"
  else "JavaScript code"

/-- A detection as a bullet point; the fallback stands in for missing or empty details. -/
def bullet (fallback : String) (detection : Detection) : String :=
  let details :=
    match detection.details with
    | some "" | none => fallback
    | some details => details
  "- " ++ detection.topic ++ ": " ++ details

/-- The first detections as bullet points, or a text that there are none. -/
def bullets (detections : List Detection) (fallback nothing : String) (limit : Bound) :
    Except Fault String :=
  if detections.isEmpty then .ok nothing
  else (limit.cut detections).map fun shown => "\n".intercalate (shown.map (bullet fallback))

/-- The material for feedback on an analysis. -/
def ofAnalysis (analysis : Analysis) (limit : Bound) : Except Fault FeedbackContext := do
  let issues ←
    bullets analysis.issues "Issue detected" "No significant issues detected" limit
  let positives ←
    bullets analysis.positives "Good usage" "Limited positive patterns detected" limit
  return {
    framework := frameworkOf analysis.reading.profile
    issues := issues
    positives := positives
    topics := Analysis.topicsOf analysis.issues }

end FeedbackContext

end SnippetTutor
