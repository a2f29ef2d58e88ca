import SnippetTutor.Console.Markup

/-!
# What commands show

A command shows headings, lines and tables of marked-up text, one below the other.
-/

namespace SnippetTutor.Console

/-- Something shown on the console. -/
inductive Item where
  /-- A ruler with a title. -/
  | rule (title : String)
  | line (markup : String)
  | table (headers : List String) (rows : List (List String))
  deriving DecidableEq, Repr

/-- A text between the tags of a style. -/
def styled (style text : String) : String :=
  "[" ++ style ++ "]" ++ text ++ "[/" ++ style ++ "]"

namespace Item

/-- A heading. -/
def heading (title : String) : Item := rule (styled "bold" title)

/-- A warning. -/
def warning (text : String) : Item :=
  line (styled "warning" "WARNING:" ++ " " ++ escape text)

/-- The text of an item without its markup, in lines. -/
def plainLines : Item → List String
  | rule title => ["-- " ++ plain title ++ " --"]
  | line markup => [plain markup]
  | table headers rows =>
    (headers :: rows).map fun row => " | ".intercalate (row.map plain)

end Item

end SnippetTutor.Console
