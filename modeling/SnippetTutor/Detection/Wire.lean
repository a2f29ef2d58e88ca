import SnippetTutor.Detection.Basic
import SnippetTutor.Fault
import SnippetTutor.Json.Display

/-!
# Detections on the wire

The form in which detections are stored and handed to other programs. The mark, under the name of
location, and the details are left out when there are none. `Detection.ofJson` reads the form
back: a tag that is absent is not set, and a detection without an analysis is a native one.
-/

namespace SnippetTutor

/-- The wire form of a mark. -/
def Mark.toJson (mark : Mark) : Json :=
  .object [("line", mark.line), ("column", mark.column)]

/-- The wire form of a detection. -/
def Detection.toJson (detection : Detection) : Json :=
  .object
    ([("topicSlug", .text detection.topic),
      ("detected", .bool true),
      ("isPositive", .bool detection.positive),
      ("isNegative", .bool detection.negative),
      ("isIdiomatic", .bool detection.idiomatic),
      ("isTrivial", .bool detection.trivial),
      ("source", .text detection.origin.name)] ++
      (detection.mark.map fun mark => ("location", mark.toJson)).toList ++
      (detection.details.map fun details => ("details", Json.text details)).toList)

/-- The wire form of a list of detections. -/
def Detection.listToJson (detections : List Detection) : Json :=
  .list (detections.map Detection.toJson)

/-- The mark with the given wire form. -/
def Mark.ofJson (json : Json) : Mark :=
  ⟨(json.get? "line").getD (.int 0), (json.get? "column").getD (.int 0)⟩

/-- The analysis with the given name. -/
def Origin.ofName (name : String) : Except Fault Origin :=
  match Origin.ofName? name with
  | some origin => .ok origin
  | none => .error ⟨.badValue, Text.quoted name ++ " is not a valid DetectionSource"⟩

/-- The detection with the given wire form. -/
def Detection.ofJson (json : Json) : Except Fault Detection := do
  let text? (key : String) : Option String := (json.get? key).bind Json.asText?
  let flag (key : String) : Bool := ((json.get? key).map Json.isSet).getD false
  if (json.get? "topicSlug").isNone then throw ⟨.noKey, Text.quoted "topicSlug"⟩
  let origin ← Origin.ofName ((text? "source").getD Origin.native.name)
  return {
    topic := (text? "topicSlug").getD ""
    positive := flag "isPositive"
    negative := flag "isNegative"
    idiomatic := flag "isIdiomatic"
    trivial := flag "isTrivial"
    mark := ((json.get? "location").filter Json.isSet).map Mark.ofJson
    details := text? "details"
    origin := origin }

end SnippetTutor
