import SnippetTutor.Command.Run
import SnippetTutor.Snippet.Forest
import Std.Time

/-!
# The program

Collects what a command line needs from outside, lets `Command.run` answer it and writes the
answer. The trees of a snippet come from a parser that has written them beside the snippet, in a
file with `.trees.json` added to its name. No linter is started.
-/

namespace SnippetTutor.Program

open Command

/-- What is found at a path. -/
def readEntry (path : String) : IO Entry := do
  try
    return .text (← IO.FS.readFile path)
  catch error =>
    match error with
    | .inappropriateType .. => return .directory
    | _ => return .missing

/-- The entries at several paths. -/
def readEntries (paths : List String) : IO (Keyed Entry) :=
  paths.mapM fun path => return (path, ← readEntry path)

/-- The environment variables that stand for values of the configuration. -/
def readEnvironment : IO (Keyed String) := do
  let names := Config.defaults.flatMap fun (name, values) =>
    values.map fun (key, _) => Config.variableName name key
  let found ← names.mapM fun name => return (name, ← IO.getEnv name)
  return found.filterMap fun (name, value?) => value?.map fun value => (name, value)

/-- The directory with the configuration that a request names. -/
def rootOf : Request → String
  | .analyze options => options.root
  | .topics options => options.root
  | _ => "."

/-- The path of the snippet that a request names. -/
def sourceOf? : Request → Option String
  | .analyze options => some options.source
  | _ => none

/-- The path of the trees of a snippet. -/
def treesPath (source : String) : String := source ++ ".trees.json"

/-- The trees in a file. -/
def treesIn (entry : Entry) : List Json :=
  ((entry.text?.bind Json.parse?).bind Json.asList?).getD []

/-- The surroundings of a request. -/
def surroundingsOf (request : Request) : IO Surroundings := do
  let sources := (sourceOf? request).toList
  let standardInput ← if sources.contains "-" then (← IO.getStdin).readToEnd else pure ""
  let entries ← readEntries
    ([Surroundings.configPath ".", Surroundings.configPath (rootOf request)] ++ sources)
  let trees ← readEntries (sources.map treesPath)
  let lookUp (entries : Keyed Entry) (path : String) : Entry := (entries.get? path).getD .missing
  let surroundings : Surroundings :=
    { workingDirectory := (← IO.currentDir).toString
      environment := ← readEnvironment
      standardInput := standardInput
      entryAt := lookUp entries
      parses := Parses.ofTrees (trees.flatMap fun (_, entry) => treesIn entry)
      execution := .notFound }
  let catalogs ← readEntries
    ((surroundings.configAt (rootOf request)).toOption.bind surroundings.catalogPath?).toList
  return { surroundings with entryAt := lookUp (entries ++ catalogs) }

/-- Adds an entry to the log of failures; a log that cannot be written is left alone. -/
def logFailure (command : String) (crash : Crash) (log : String) : IO Unit := do
  let time := toString (← Std.Time.PlainDateTime.now)
  try
    IO.FS.createDirAll (Path.parent log)
    IO.FS.withFile log .append fun handle => handle.putStr (crash.entry command time "")
  catch _ => pure ()

/-- Writes a reply and gives its exit code. -/
def deliver (reply : Reply) : IO UInt32 := do
  if let .failed command crash log := reply then logFailure command crash log
  (← IO.getStdout).putStr reply.output
  (← IO.getStderr).putStr reply.complaint
  return reply.exitCode.toUInt32

end SnippetTutor.Program

/-- The program: answers a command line. -/
def main (arguments : List String) : IO UInt32 := do
  match SnippetTutor.Command.Request.read arguments with
  | .ok request =>
    let surroundings ← SnippetTutor.Program.surroundingsOf request
    SnippetTutor.Program.deliver (SnippetTutor.Command.run surroundings arguments)
  | .error misuse => SnippetTutor.Program.deliver (.misused misuse)
