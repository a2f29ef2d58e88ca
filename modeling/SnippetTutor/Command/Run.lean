import SnippetTutor.Command.Analyze
import SnippetTutor.Command.Topics
import SnippetTutor.Json.Printer

/-!
# Running commands

`Command.run` is the whole program: from the surroundings and the words of the command line to the
reply. The exit code of a reply is 0 for an answer, 1 for a command that failed and 2 for a command
line that was not understood.
-/

namespace SnippetTutor.Command

/-- What a command line is answered with. -/
inductive Reply where
  | text (content : String)
  | document (json : Json)
  | screen (items : List Console.Item)
  /-- A command that failed, and where the failure is logged. -/
  | failed (command : String) (crash : Crash) (log : String)
  /-- A command that failed when it could not be found out where to log. -/
  | broken (crash : Crash)
  | misused (misuse : Misuse)

namespace Reply

/-- The exit code. -/
def exitCode : Reply → Nat
  | text _ | document _ | screen _ => 0
  | failed _ _ _ | broken _ => 1
  | misused _ => 2

/-- What is written to standard output. -/
def output : Reply → String
  | text content => content
  | document json => json.pretty ++ "\n"
  | screen items => String.join ((items.flatMap Console.Item.plainLines).map (· ++ "\n"))
  | failed _ _ _ | broken _ | misused _ => ""

/-- What is written to standard error. -/
def complaint : Reply → String
  | failed _ crash log => "Error: " ++ crash.message log ++ "\n"
  | misused misuse => "Error: " ++ misuse.message ++ "\n"
  | _ => ""

end Reply

/-- The version of the program. -/
def versionText : String := "codecoach, version 0.1.0\n"

/-- How the program is used. -/
def helpText : String :=
  String.join ([
    "Usage: codecoach [OPTIONS] COMMAND [ARGS]...",
    "",
    "  Coaching feedback for JavaScript, TypeScript and React snippets.",
    "",
    "Commands:",
    "  analyze [SOURCE] [--dialect DIALECT] [--json] [--level LEVEL] [--no-eslint] [--root DIR]",
    "  topics [--layer LAYER] [--root DIR]",
    "",
    "Options:",
    "  --version",
    "  -h, --help"].map (· ++ "\n"))

/-- The reply of a command that may fail. -/
def settle (surroundings : Surroundings) (command : String) : Except Crash Reply → Reply
  | .ok reply => reply
  | .error crash =>
    match surroundings.configAt "." with
    | .ok config => .failed command crash (Crash.logPath config)
    | .error secondCrash => .broken secondCrash

/-- Analyses a snippet. -/
def analyze (surroundings : Surroundings) (options : AnalyzeOptions) (text : String) :
    Except Crash Reply := do
  let findings ← Findings.ofText surroundings options text
  if options.asJson then return .document (← findings.document)
  return .screen findings.screen

/-- The reply to a request. -/
def reply (surroundings : Surroundings) : Request → Reply
  | .version => .text versionText
  | .help => .text helpText
  | .analyze options =>
    match surroundings.sourceAt? options.source with
    | none => .misused (.cannotOpen options.source)
    | some text => settle surroundings "analyze" (analyze surroundings options text)
  | .topics options =>
    settle surroundings "topics" ((Topics.screen surroundings options).map .screen)

/-- The reply to a command line. -/
def run (surroundings : Surroundings) (arguments : List String) : Reply :=
  match Request.read arguments with
  | .ok request => reply surroundings request
  | .error misuse => .misused misuse

end SnippetTutor.Command
