import SnippetTutor.Linter.Config
import SnippetTutor.Linter.Report
import SnippetTutor.Text.Blank

/-!
# Running the linter

`Settings.invocation?` says how the linter is started, if at all, and `Settings.run` what follows
from the way its process went. A run either completes with detections or fails with a
reason, never both. Settings and columns of the wrong type are faults of the run itself.
-/

namespace SnippetTutor.Linter

/-- How the linter is run. Anything may stand in a setting. -/
structure Settings where
  enabled : Json := .bool true
  binary : Json := .text "eslint"
  timeout : Json := .int 30
  projectDir : Json := .text "."

/-- How the linter's process went. -/
inductive Execution where
  | notFound
  | timedOut
  /-- The process could not be run. -/
  | broken (fault : Fault)
  /-- The directory in which it was to be run does not exist. -/
  | noDirectory
  | finished (stdout stderr : String) (exitCode : Int)
  deriving DecidableEq, Repr

/-- How the linter is started. -/
structure Invocation where
  binary : String
  flavour : Flavour
  timeout : Json
  requestId : String

/-- The command line, given where the configuration was written. -/
def Invocation.command (invocation : Invocation) (configPath : String) : List String :=
  [invocation.binary, "--config", configPath, "--stdin", "--stdin-filename",
   invocation.flavour.fileName, "--format", "json"]

/-- The outcome of a run. -/
inductive Run where
  | failed (reason : String)
  | completed (detections : List Detection)
  deriving DecidableEq, Repr

namespace Run

/-- The detections of a run. -/
def detections : Run → List Detection
  | failed _ => []
  | completed detections => detections

/-- Why a run failed. -/
def error : Run → Option String
  | failed reason => some reason
  | completed _ => none

end Run

namespace Settings

/-- Settings with the members of an object in place of the defaults. -/
def ofMembers (members : Keyed Json) : Settings :=
  { enabled := (members.get? "enabled").getD (.bool true)
    binary := (members.get? "binary").getD (.text "eslint")
    timeout := (members.get? "timeout").getD (.int 30)
    projectDir := (members.get? "project_dir").getD (.text ".") }

/-- Whether a directory can be named by a setting. -/
def directoryFault? (settings : Settings) : Option Fault :=
  if settings.projectDir.isSet then
    match settings.projectDir with
    | .text _ => none
    | other => some ⟨.mismatch, other.literal ++ " is not a path"⟩
  else none

/-- The binary to start: none when the linter is off, its name otherwise. -/
def binary? (settings : Settings) : Except Fault (Option String) :=
  match settings.directoryFault? with
  | some fault => .error fault
  | none =>
    if settings.enabled.isSet then
      match settings.binary with
      | .text name => .ok (some name)
      | other => .error ⟨.mismatch, other.literal ++ " is not the name of a program"⟩
    else .ok none

/-- Whether the linter's process is started at all. -/
def starts (binary : String) : Execution → Bool
  | .notFound | .noDirectory => false
  | _ => binary != ""

/-- How the linter is started. -/
def invocation? (settings : Settings) (flavour : Flavour) (requestId : String)
    (execution : Execution) : Option Invocation :=
  match settings.binary? with
  | .ok (some binary) =>
    if starts binary execution then some ⟨binary, flavour, settings.timeout, requestId⟩ else none
  | _ => none

/-- Why a linter that wrote nothing failed. -/
def silenceReason (stderr : String) (exitCode : Int) : String :=
  match Text.firstLine (Text.strip stderr.toList) with
  | [] => "exit code " ++ toString exitCode
  | line => String.ofList line

/-- Faults of a report that are the linter's and not ours. -/
def isReportFault : FaultClass → Bool
  | .unreadable | .badValue | .noAttribute | .noKey => true
  | _ => false

/-- What follows from what a finished process wrote. -/
def concludeOutput (stdout stderr : String) (exitCode : Int) : Except Fault Run :=
  if (Text.strip stdout.toList).isEmpty then
    .ok (.failed ("No output: " ++ silenceReason stderr exitCode))
  else
    match readReport stdout with
    | .ok detections => .ok (.completed detections)
    | .error fault =>
      if isReportFault fault.cls then .ok (.failed ("Invalid JSON output: " ++ fault.text))
      else .error fault

/-- The outcome of a run, from the way the process went. -/
def run (settings : Settings) (execution : Execution) : Except Fault Run := do
  match ← settings.binary? with
  | none => return .completed []
  | some binary =>
    if binary == "" then return .failed "ESLint binary '' not found"
    match execution with
    | .notFound => return .failed ("ESLint binary '" ++ binary ++ "' not found")
    | .timedOut => return .failed ("Timed out after " ++ settings.timeout.shown ++ " seconds")
    | .broken fault => return .failed ("Execution failed: " ++ fault.describe)
    | .noDirectory =>
      return .failed ("Execution failed: " ++
        Fault.describe ⟨.fileNotFound, "no such directory: " ++ settings.projectDir.shown⟩)
    | .finished stdout stderr exitCode => concludeOutput stdout stderr exitCode

end Settings

end SnippetTutor.Linter
