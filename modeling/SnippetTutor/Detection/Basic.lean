import SnippetTutor.Json.Equality
import SnippetTutor.Tree.Node

/-!
# Detections

A detection is one finding about a topic in a snippet. Its four tags are independent of each
other: a finding may be both positive and negative, for something that works but is worth a note.
It points at a line and a column. Those of a construct are whole numbers; a report from outside
may give anything in their place.
-/

namespace SnippetTutor

/-- Which analysis a detection comes from. -/
inductive Origin where
  | native
  | dataflow
  | eslint
  deriving DecidableEq, Repr

namespace Origin

/-- The name of an analysis. -/
def name : Origin → String
  | native => "native"
  | dataflow => "dataflow"
  | eslint => "eslint"

/-- The analysis with the given name. -/
def ofName? (text : String) : Option Origin :=
  [native, dataflow, eslint].find? fun origin => origin.name == text

end Origin

/-- The line and the column that a detection points at. -/
structure Mark where
  line : Json
  column : Json
  deriving DecidableEq, Repr

/-- The mark of a position in a source. -/
def Location.mark (location : Location) : Mark := ⟨.int location.line, .int location.column⟩

/-- A mark in which numbers count by their size. -/
def Mark.normal (mark : Mark) : Mark := ⟨mark.line.normal, mark.column.normal⟩

/-- A finding about a topic. -/
structure Detection where
  topic : String
  positive : Bool := false
  negative : Bool := false
  idiomatic : Bool := false
  trivial : Bool := false
  mark : Option Mark := none
  details : Option String := none
  origin : Origin := .native
  deriving DecidableEq, Repr

end SnippetTutor
