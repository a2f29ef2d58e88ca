import SnippetTutor.Command.Misuse

/-!
# Taking a command line apart

The words of a command line are options, values of options and operands. An option starts with a
dash and has something behind it; its value follows as the next word, whatever that is, or behind
an equals sign in the same word. Two dashes alone make operands of all words after them.
-/

namespace SnippetTutor.Command

/-- Whether an option is followed by a value. -/
inductive Arity where
  | flag
  | valued
  deriving DecidableEq, Repr

/-- A command line taken apart. -/
structure Words where
  /-- The options in order, with their values; a flag has none. -/
  options : List (String × Option String) := []
  operands : List String := []
  deriving DecidableEq, Repr

/-- Whether a word is an option. -/
def isOption (word : String) : Bool := word.startsWith "-" && word != "-"

/-- An option in one word, split at its first equals sign. -/
def splitOption (word : String) : String × Option String :=
  let chars := word.toList
  match chars.dropWhile (· != '=') with
  | [] => (word, none)
  | _ :: value => (String.ofList (chars.takeWhile (· != '=')), some (String.ofList value))

namespace Words

/-- Words with one more option in front. -/
def withOption (name : String) (value : Option String) (words : Words) : Words :=
  { words with options := (name, value) :: words.options }

/-- Words with one more operand in front. -/
def withOperand (operand : String) (words : Words) : Words :=
  { words with operands := operand :: words.operands }

/-- The words of a command line, given the arity of every known option. -/
def scan (arity? : String → Option Arity) : List String → Except Misuse Words
  | [] => .ok {}
  | word :: rest =>
    if word == "--" then .ok { operands := rest }
    else if !isOption word then (scan arity? rest).map (withOperand word)
    else
      let (name, value?) := splitOption word
      match arity? name, value? with
      | none, _ => .error (.unknownOption name)
      | some .flag, none => (scan arity? rest).map (withOption name none)
      | some .flag, some _ => .error (.unwantedValue name)
      | some .valued, some value => (scan arity? rest).map (withOption name (some value))
      | some .valued, none =>
        match rest with
        | [] => .error (.missingValue name)
        | value :: rest => (scan arity? rest).map (withOption name (some value))

/-- Whether a flag is given. -/
def hasFlag (words : Words) (name : String) : Bool :=
  words.options.any fun option => option.1 == name

/-- The value of an option; the last one given counts. -/
def value? (words : Words) (name : String) : Option String :=
  (words.options.reverse.find? fun option => option.1 == name).bind Prod.snd

end Words

end SnippetTutor.Command
