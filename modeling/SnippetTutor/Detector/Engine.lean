import SnippetTutor.Detector.Basic
import SnippetTutor.Keyed
import SnippetTutor.Snippet.Diagnostic

/-!
# Running rules

The engine runs every applicable rule on its own, one after the other. A rule that fails
contributes nothing but a diagnostic that names it, and the others still run. Diagnostics of
earlier parts of an analysis are handed in and kept in front.
-/

namespace SnippetTutor

variable {σ : Type}

/-- What rules found, and what went wrong with them. -/
structure Outcome where
  detections : List Detection := []
  diagnostics : List Diagnostic := []
  deriving DecidableEq, Repr

namespace Rule

/-- Whether a rule belongs to the given analysis and fits the snippet. -/
def applies (origin : Origin) (isReact : Bool) (rule : Rule σ) : Bool :=
  rule.suite.origin == origin && (isReact || !rule.suite.requiresReact)

/-- The diagnostic about a rule that failed. -/
def failure (rule : Rule σ) (fault : Fault) : Diagnostic :=
  { message := rule.suite.name ++ "." ++ rule.name ++ " failed: " ++ fault.describe
    kind := .detector }

end Rule

namespace Engine

/-- The rules that belong to the given analysis and fit the snippet. -/
def applicable (rules : List (Rule σ)) (origin : Origin) (isReact : Bool) : List (Rule σ) :=
  rules.filter (Rule.applies origin isReact)

/-- One more rule runs. What it finds is filed under its analysis. -/
def step (subject : σ) (outcome : Outcome) (rule : Rule σ) : Outcome :=
  match rule.run subject with
  | .ok found =>
    let filed := (found.getD []).map fun detection =>
      { detection with origin := rule.suite.origin }
    { outcome with detections := outcome.detections ++ filed }
  | .error fault => { outcome with diagnostics := outcome.diagnostics ++ [rule.failure fault] }

/-- Runs the applicable rules, after parts of the analysis with the given diagnostics. -/
def run (rules : List (Rule σ)) (origin : Origin) (isReact : Bool) (subject : σ)
    (earlier : List Diagnostic) : Outcome :=
  (applicable rules origin isReact).foldl (step subject) { diagnostics := earlier }

/-- How many rules there are. -/
structure Stats where
  total : Nat
  forReact : Nat
  /-- The rules of every category, in order of first mention. -/
  byCategory : Keyed Nat

/-- Counts rules. -/
def stats (rules : List (Rule σ)) : Stats where
  total := rules.length
  forReact := rules.countP fun rule => rule.suite.requiresReact
  byCategory := rules.foldl
    (fun counts rule =>
      counts.put rule.suite.category ((counts.get? rule.suite.category).getD 0 + 1))
    []

end Engine

end SnippetTutor
