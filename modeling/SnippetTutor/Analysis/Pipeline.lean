import SnippetTutor.Analysis.Basic
import SnippetTutor.Config.Basic
import SnippetTutor.Detector.Engine
import SnippetTutor.Detectors.All

/-!
# Analysing a snippet

A snippet is read once; then the syntactic detectors, the linter and the detectors of hazards run
in that order. A part that fails contributes a diagnostic and the others still run. Only settings
of the wrong shape can make an analysis fail as a whole.
-/

namespace SnippetTutor

/-- What is to be analysed, and how. -/
structure Task where
  source : Source
  /-- The tree that each grammar yields for the source. -/
  parses : Parses
  /-- The name of the dialect; found out when there is none. -/
  dialect : Option String := none
  /-- Values that replace the default configuration. -/
  config : Keyed Json := []
  /-- Whether the linter runs, whatever the configuration says. -/
  linting : Option Bool := none
  /-- How the linter's process would go. -/
  execution : Linter.Execution := .notFound

namespace Task

/-- The values of a section in place of the defaults. -/
def sectionValues (config : Keyed Json) (name : String) (defaults : Keyed Json) :
    Except Fault (Keyed Json) :=
  match config.get? name with
  | none => .ok defaults
  | some (.object members) => .ok (defaults.putAll members)
  | some other => .error ⟨.mismatch, other.literal ++ " is not a section"⟩

/-- The limits of an analysis. -/
def limits (task : Task) : Except Fault Limits :=
  (sectionValues task.config "limits" Config.defaultLimits).map Limits.ofMembers

/-- How the linter is run. -/
def linterSettings (task : Task) : Except Fault Linter.Settings :=
  (sectionValues task.config "eslint" Config.defaultLinter).map fun members =>
    let settings := Linter.Settings.ofMembers members
    match task.linting with
    | some enabled => { settings with enabled := .bool enabled }
    | none => settings

/-- The dialect that is asked for. -/
def hint (task : Task) : Option Dialect := task.dialect.bind Dialect.ofName?

/-- The diagnostic about a dialect that does not exist. -/
def dialectDiagnostics (task : Task) : List Diagnostic :=
  match task.dialect, task.hint with
  | some name, none => [{ message := "Unknown dialect '" ++ name ++ "'; detecting instead" }]
  | _, _ => []

/-- The reading of the source; a fault of reading is a reading of nothing. -/
def reading (task : Task) (limits : Limits) : Reading :=
  match Reading.read limits.reading task.parses task.hint task.source with
  | .ok reading => reading
  | .error fault =>
    Reading.failure (task.hint.getD .javascript) ("Front end failed: " ++ fault.describe) []

/-- What the detectors of one analysis find in a subject, after the given diagnostics; nothing when
nothing was read. -/
def detect (origin : Origin) (isReact : Bool) (earlier : List Diagnostic) :
    Option Subject → Outcome
  | some subject => Engine.run Detectors.allRules origin isReact subject earlier
  | none => { diagnostics := earlier }

/-- What the linter finds, after the given diagnostics. -/
def lint (settings : Linter.Settings) (execution : Linter.Execution)
    (earlier : List Diagnostic) : Outcome :=
  match settings.run execution with
  | .ok (.completed detections) => { detections := detections, diagnostics := earlier }
  | .ok (.failed reason) =>
    { diagnostics := earlier ++ [{ message := reason, kind := .ruleEngine }] }
  | .error fault =>
    { diagnostics := earlier ++
        [{ message := "ESLint adapter failed: " ++ fault.describe, kind := .ruleEngine }] }

/-- Analyses a snippet. -/
def analyze (task : Task) : Except Fault Analysis := do
  let limits ← task.limits
  let settings ← task.linterSettings
  let reading := task.reading limits
  let subject := reading.parsed.map (Subject.ofParsed limits.search)
  let native := detect .native reading.profile.isReact
    (reading.diagnostics ++ task.dialectDiagnostics) subject
  let linted := lint settings task.execution native.diagnostics
  let dataflow := detect .dataflow reading.profile.isReact linted.diagnostics subject
  Analysis.summarize reading
    (native.detections ++ linted.detections ++ dataflow.detections)
    dataflow.diagnostics limits.topIssues

end Task

end SnippetTutor
