import SnippetTutor.Config.Basic
import SnippetTutor.Number.Reader
import SnippetTutor.Text.Split

/-!
# Loading the configuration

The values of a file replace defaults of the same type, and environment variables replace both.
A file that is malformed, an unknown key, a value of another type or a text that cannot be
converted changes nothing; a file with a number that has too many digits is a fault. The converted
type is that of the value in place, so a truth value that a file put in place of a number makes the
variable a truth value too.
-/

namespace SnippetTutor.Config

/-- Whether a value can stand where the sample stands. Truth values count as numbers, but not the
other way round. -/
def fits : (sample value : Json) → Bool
  | .null, .null => true
  | .bool _, .bool _ => true
  | .int _, .int _ => true
  | .int _, .bool _ => true
  | .real _, .real _ => true
  | .text _, .text _ => true
  | .list _, .list _ => true
  | .object _, .object _ => true
  | _, _ => false

/-! ### The file -/

/-- Sets a key that is known to a value that fits. -/
def setKnown (values : Keyed Json) (entry : String × Json) : Keyed Json :=
  match values.get? entry.1 with
  | some sample => if fits sample entry.2 then values.put entry.1 entry.2 else values
  | none => values

/-- The values of a section after the file has been read. -/
def applySection (file : Keyed Json) (name : String) (values : Keyed Json) : Keyed Json :=
  match file.get? name with
  | some (.object members) => members.foldl setKnown values
  | _ => values

/-- The configuration after the file has been read. -/
def applyFile (file : Json) (config : Config) : Config :=
  match file with
  | .object sections => config.map fun (name, values) => (name, applySection sections name values)
  | _ => config

/-! ### The environment -/

/-- Words for true. -/
def trueWords : List String := ["1", "true", "yes", "on"]

/-- Words for false. -/
def falseWords : List String := ["0", "false", "no", "off"]

/-- A text without the white space at its ends. -/
def stripped (text : String) : String := String.ofList (Text.strip text.toList)

/-- A text converted to the type of the sample. -/
def convert (text : String) : (sample : Json) → Option Json
  | .bool _ =>
    let word := (stripped text).toLower
    if trueWords.contains word then some (.bool true)
    else if falseWords.contains word then some (.bool false)
    else none
  | .int _ => (Number.integer? text.toList).map .int
  | .real _ => (Number.real? text.toList).map .real
  | .list _ => some (.list ((Text.split ',' text).map fun item => .text (stripped item)))
  | _ => some (.text text)

/-- The environment variable for a value. -/
def variableName (name key : String) : String :=
  "CODECOACH_" ++ name.toUpper ++ "_" ++ key.toUpper

/-- A value after the environment has been looked at. -/
def applyVariable (environment : Keyed String) (name key : String) (value : Json) : Json :=
  match environment.get? (variableName name key) with
  | some text => (convert text value).getD value
  | none => value

/-- The configuration after the environment has been looked at. -/
def applyEnvironment (environment : Keyed String) (config : Config) : Config :=
  config.map fun (name, values) =>
    (name, values.map fun (key, value) => (key, applyVariable environment name key value))

/-- What a file says; nothing when it is malformed. -/
def readFile (text : String) : Except Fault (Option Json) :=
  match Json.parse text with
  | .ok json => .ok (some json)
  | .error misreading =>
    if misreading.flaw.isMalformation then .ok none else .error (misreading.fault text)

/-- The defaults with the values of a file in their place. -/
def settle : Option Json → Config
  | some file => applyFile file defaults
  | none => defaults

/-- The configuration from the text of a file and the environment. -/
def load (file : Option String) (environment : Keyed String) : Except Fault Config := do
  let json? ← match file with
    | some text => readFile text
    | none => pure none
  return applyEnvironment environment (settle json?)

end SnippetTutor.Config
