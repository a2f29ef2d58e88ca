import SnippetTutor.Detection.Basic
import SnippetTutor.Fault
import SnippetTutor.Json.Display
import SnippetTutor.Json.Reader
import SnippetTutor.Linter.Rules

/-!
# The linter's report

A report lists files, a file lists messages, and a message names the rule that was violated and
where. A message without a rule is skipped; a report that has any other shape is a fault, and then
nothing of it counts.
-/

namespace SnippetTutor.Linter

/-- A part of a report that is not of the expected kind. -/
def lacks (part : Json) (ability : String) : Fault :=
  ⟨.noAttribute, "'" ++ part.typeName ++ "' object has no attribute '" ++ ability ++ "'"⟩

/-- The members of a part of a report that must be an object. -/
def membersOf : Json → Except Fault (Keyed Json)
  | .object members => .ok members
  | other => .error (lacks other "get")

/-- What a loop over a part of a report runs over. -/
def itemsOf (part : Json) : Except Fault (List Json) :=
  match part.items? with
  | some items => .ok items
  | none => .error ⟨.mismatch, "'" ++ part.typeName ++ "' object is not iterable"⟩

/-- A member, unless it is absent or does not count as set. -/
def setMember? (members : Keyed Json) (key : String) : Option Json :=
  (members.get? key).filter Json.isSet

/-- The name of a violated rule. -/
def ruleName : Json → Except Fault String
  | .text name => .ok name
  | .list items => .error ⟨.mismatch, "unhashable type: '" ++ (Json.list items).typeName ++ "'"⟩
  | .object members =>
    .error ⟨.mismatch, "unhashable type: '" ++ (Json.object members).typeName ++ "'"⟩
  | other => .error (lacks other "replace")

/-- The line of a message, whatever it is; zero when there is none. -/
def lineOf (members : Keyed Json) : Json := (setMember? members "line").getD (.int 0)

/-- A column that counts from one, counted from zero; a number below that becomes zero. -/
def fromZero : Json → Except Fault Json
  | .int column => .ok (.int (max (column - 1) 0))
  | .bool _ => .ok (.int 0)
  | .real column => .ok (if column - 1 < 0 then .int 0 else .real (column - 1))
  | other =>
    .error ⟨.mismatch, "unsupported operand type(s) for -: '" ++ other.typeName ++ "' and 'int'"⟩

/-- The column of a message, counted from zero. -/
def columnOf (members : Keyed Json) : Except Fault Json :=
  fromZero ((setMember? members "column").getD (.int 1))

/-- The text of a message. -/
def messageText (members : Keyed Json) : String :=
  ((members.get? "message").map Json.shown).getD ""

/-- Whether a message comes with a fix. -/
def hasFix (members : Keyed Json) : Bool :=
  match members.get? "fix" with
  | none | some .null => false
  | some _ => true

/-- The detection that a message stands for; none for a message without a rule. -/
def detectionOf (message : Json) : Except Fault (Option Detection) := do
  let members ← membersOf message
  match setMember? members "ruleId" with
  | none => return none
  | some rule =>
    let name ← ruleName rule
    let column ← columnOf members
    return some
      { topic := topicOf name
        negative := true
        trivial := hasFix members
        mark := some ⟨lineOf members, column⟩
        details := some ("[ESLint " ++ name ++ "] " ++ messageText members)
        origin := .eslint }

/-- The detections of a file. -/
def fileDetections (file : Json) : Except Fault (List Detection) := do
  let members ← membersOf file
  let messages ← itemsOf ((members.get? "messages").getD (.list []))
  let found ← messages.mapM detectionOf
  return found.filterMap id

/-- The detections of a report. -/
def readReport (text : String) : Except Fault (List Detection) :=
  match Json.parse text with
  | .error misreading => .error (misreading.fault text)
  | .ok (.list files) => do
    let found ← files.mapM fileDetections
    return found.flatten
  | .ok _ => .error ⟨.badValue, "ESLint output is not a list of file results"⟩

end SnippetTutor.Linter
