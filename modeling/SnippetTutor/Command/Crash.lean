import SnippetTutor.Config.Loading
import SnippetTutor.Curriculum.Catalog
import SnippetTutor.Path

/-!
# Commands that fail

A failing command ends with a message to the user, and its circumstances are added to a log. The
configuration says where the log is.
-/

namespace SnippetTutor.Command

/-- Why a command failed. -/
structure Crash where
  /-- The name of the class of failures. -/
  cls : String
  text : String
  deriving DecidableEq, Repr

namespace Crash

/-- A failure caused by a fault. -/
def ofFault (fault : Fault) : Crash := ⟨fault.cls.name, fault.text⟩

/-- A failure caused by the catalog at a path. -/
def ofCatalog (path : String) : Catalog.Failure → Crash
  | .problem problem => ⟨"CurriculumError", problem.message path⟩
  | .fault fault => ofFault fault

/-- The failure in short. -/
def headline (crash : Crash) : String := crash.cls ++ ": " ++ crash.text

/-- Where failures are logged unless the configuration says otherwise. -/
def defaultLog : String := "./.codecoach/error.log"

/-- Where failures are logged. -/
def logPath (config : Config) : String :=
  match config.valueOf "paths" "error_log" with
  | .text "" => Path.tidy defaultLog
  | .text path => Path.tidy path
  | _ => Path.tidy defaultLog

/-- What the user is told, given where the failure is logged. -/
def message (crash : Crash) (log : String) : String :=
  crash.headline ++ "\n\nFull traceback logged to: " ++ log

/-- The line between entries of the log. -/
def ruler : String := String.ofList (List.replicate 80 '=')

/-- The line of an entry that names the command. -/
def commandLine (command : String) : String := "Error in command: " ++ command

/-- The entry of the log, given the command, the time and the trace of the failure. -/
def entry (crash : Crash) (command time trace : String) : String :=
  "\n" ++ ruler ++ "\n[" ++ time ++ "] " ++ commandLine command ++ "\n" ++ ruler ++ "\n" ++
    crash.headline ++ "\n\n" ++ trace ++ ruler ++ "\n\n"

end Crash

end SnippetTutor.Command
