import SnippetTutor.Command.Words
import SnippetTutor.Curriculum.Layer
import SnippetTutor.Snippet.Dialect

/-!
# Requests

What a command line asks for: an analysis, a list of topics, the version or help. Options before
the name of the command belong to the program, those after it to the command. Help and version are
given as soon as the command line can be taken apart, whatever else it says.
-/

namespace SnippetTutor.Command

/-- What to analyse, and what to show of it. -/
structure AnalyzeOptions where
  /-- The path of the snippet; a dash stands for standard input. -/
  source : String := "-"
  dialect : Option Dialect := none
  asJson : Bool := false
  level : Level := .beginner
  linting : Bool := true
  /-- The directory with the configuration. -/
  root : String := "."
  deriving DecidableEq, Repr

/-- Which topics to list. -/
structure TopicsOptions where
  layer : Option Layer := none
  /-- The directory with the configuration. -/
  root : String := "."
  deriving DecidableEq, Repr

/-- What a command line asks for. -/
inductive Request where
  | version
  | help
  | analyze (options : AnalyzeOptions)
  | topics (options : TopicsOptions)
  deriving DecidableEq, Repr

namespace Request

/-- The choice that an option makes among named values. -/
def choice? {α : Type} (words : Words) (option : String) (ofName? : String → Option α)
    (choices : List String) : Except Misuse (Option α) :=
  match words.value? option with
  | none => .ok none
  | some name =>
    match ofName? name with
    | some value => .ok (some value)
    | none => .error (.invalidChoice option name choices)

/-! ### Analyses -/

/-- The options of an analysis. -/
def analyzeArity? : String → Option Arity
  | "--dialect" | "--level" | "--root" => some .valued
  | "--json" | "--no-eslint" | "--help" => some .flag
  | _ => none

/-- The operand of an analysis. -/
def sourceOf : List String → Except Misuse String
  | [] => .ok "-"
  | [source] => .ok source
  | _ :: others => .error (.extraWords others)

/-- A request for an analysis. -/
def readAnalyze (arguments : List String) : Except Misuse Request := do
  let words ← Words.scan analyzeArity? arguments
  if words.hasFlag "--help" then return help
  let dialect ← choice? words "--dialect" Dialect.ofName? (Dialect.all.map Dialect.name)
  let level ← choice? words "--level" Level.ofName? (Level.all.map Level.name)
  let source ← sourceOf words.operands
  return analyze
    { source := source
      dialect := dialect
      asJson := words.hasFlag "--json"
      level := level.getD .beginner
      linting := !words.hasFlag "--no-eslint"
      root := (words.value? "--root").getD "." }

/-! ### Topics -/

/-- The options of a list of topics. -/
def topicsArity? : String → Option Arity
  | "--layer" | "--root" => some .valued
  | "--help" => some .flag
  | _ => none

/-- A request for a list of topics. -/
def readTopics (arguments : List String) : Except Misuse Request := do
  let words ← Words.scan topicsArity? arguments
  if words.hasFlag "--help" then return help
  let layer ← choice? words "--layer" Layer.ofName? (Layer.all.map Layer.name)
  if !words.operands.isEmpty then throw (.extraWords words.operands)
  return topics { layer := layer, root := (words.value? "--root").getD "." }

/-! ### Command lines -/

/-- What an option of the program asks for. -/
def readOption (word : String) : Except Misuse Request :=
  match splitOption word with
  | ("--version", none) => .ok version
  | ("--help", none) => .ok help
  | ("--version", some _) | ("--help", some _) => .error (.unwantedValue (splitOption word).1)
  | _ =>
    if !word.startsWith "--" && (word.toList.drop 1).all (· == 'h') then .ok help
    else .error (.unknownOption word)

/-- The requests made by the options of the program, and the words from the command on. -/
def readOptions : List String → Except Misuse (List Request × List String)
  | [] => .ok ([], [])
  | word :: rest =>
    if word == "--" then .ok ([], rest)
    else if isOption word then do
      let request ← readOption word
      let (others, rest) ← readOptions rest
      return (request :: others, rest)
    else .ok ([], word :: rest)

/-- What a command line asks for. -/
def read (arguments : List String) : Except Misuse Request := do
  match ← readOptions arguments with
  | (request :: _, _) => return request
  | ([], []) => throw .noCommand
  | ([], "analyze" :: rest) => readAnalyze rest
  | ([], "topics" :: rest) => readTopics rest
  | ([], name :: _) => throw (.unknownCommand name)

end Request

end SnippetTutor.Command
