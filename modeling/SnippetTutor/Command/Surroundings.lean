import SnippetTutor.Analysis.Pipeline
import SnippetTutor.Command.Crash
import SnippetTutor.Json.Reader
import SnippetTutor.Text.LineFeed

/-!
# The surroundings of a command

Everything outside that a command looks at: the files, the environment, standard input, the parser
and the linter. A command is a function of its surroundings and its command line.
-/

namespace SnippetTutor.Command

/-- What is found at a path. -/
inductive Entry where
  | missing
  | directory
  | text (content : String)
  deriving DecidableEq, Repr

/-- The text of a file. -/
def Entry.text? : Entry → Option String
  | text content => some content
  | _ => none

/-- What a command can look at. -/
structure Surroundings where
  workingDirectory : String
  environment : Keyed String
  standardInput : String
  /-- What is found at a path. -/
  entryAt : String → Entry
  /-- The tree that each grammar yields for a text. -/
  parses : String → Parses
  /-- How the linter's process would go. -/
  execution : Linter.Execution

namespace Surroundings

/-- The path of the configuration of a directory. -/
def configPath (root : String) : String := Path.join root ".codecoach/config.json"

/-- The configuration of a directory. -/
def configAt (surroundings : Surroundings) (root : String) : Except Crash Config :=
  (Config.load (surroundings.entryAt (configPath root)).text? surroundings.environment).mapError
    Crash.ofFault

/-- A text with the line ends that are used inside. -/
def readable (content : String) : String := String.ofList (Text.lineFeeds content.toList)

/-- The text of a snippet; a dash stands for standard input. -/
def sourceAt? (surroundings : Surroundings) (path : String) : Option String :=
  if path == "-" then some (readable surroundings.standardInput)
  else (surroundings.entryAt path).text?.map readable

/-- The path of the catalog, unless the bundled one is meant. -/
def catalogPath? (surroundings : Surroundings) (config : Config) : Option String :=
  match config.valueOf "paths" "curriculum" with
  | .text "" => none
  | .text path => some (Path.resolve surroundings.workingDirectory path)
  | _ => none

/-- What a catalog file holds. -/
def catalogFile (surroundings : Surroundings) (path : String) : Catalog.File :=
  match surroundings.entryAt path with
  | .missing => .missing
  | .directory => .unreadable ("[Errno 21] Is a directory: " ++ Text.quoted path)
  | .text content =>
    match Json.parse? content with
    | some data => .holding data
    | none => .unreadable "not a JSON text"

/-- The curriculum that a configuration asks for. -/
def curriculum (surroundings : Surroundings) (config : Config) : Except Crash Curriculum :=
  match surroundings.catalogPath? config with
  | none => .ok Catalog.bundled
  | some path =>
    match Catalog.read (surroundings.catalogFile path) with
    | .ok curriculum => .ok curriculum
    | .error failure => .error (Crash.ofCatalog path failure)

end Surroundings

end SnippetTutor.Command
