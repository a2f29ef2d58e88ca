import SnippetTutor.Fault
import SnippetTutor.Json.Basic
import SnippetTutor.Number.Printer

/-!
# Log records

An event of the log becomes a flat record of named fields, in the layout that the log viewers of
the surrounding service read. The fields of the event come first, then those bound to the logger
by its callers, and last the error. The fields share one name space: a field set again keeps its
place and takes the later value, so a caller can replace any field but the request and the error.
-/

namespace SnippetTutor.Log

/-- An error that an event reports. -/
structure Cause where
  /-- The name of its type. -/
  type : Option String := none
  text : Option String := none
  deriving DecidableEq, Repr

/-- Something that is logged. -/
structure Event where
  level : String
  /-- The time in whole milliseconds. -/
  time : Int
  message : String
  processId : Int
  /-- Fields bound by the callers. -/
  bound : Keyed Json := []
  cause : Option Cause := none

/-- The weight of a level in records. -/
def weight : String → Int
  | "TRACE" => 10
  | "DEBUG" => 20
  | "INFO" => 30
  | "WARNING" => 40
  | "ERROR" => 50
  | "CRITICAL" => 60
  | _ => 30

/-- The name of the field that ties the events of one request together. -/
def requestKey : String := "request_id"

/-- The fields of an error. -/
def Cause.toJson (cause : Cause) : Json :=
  .object
    [("type", .text (cause.type.getD "Error")), ("message", .text (cause.text.getD ""))]

/-- A double without its fraction. -/
def truncated (x : Float) : Except Fault Int :=
  match Number.whole? (if x < 0 then x.ceil else x.floor) with
  | some n => .ok n
  | none =>
    if x.isNaN then .error ⟨.badValue, "cannot convert float NaN to integer"⟩
    else .error ⟨.overflow, "cannot convert float infinity to integer"⟩

/-- A time in seconds, in whole milliseconds towards zero. -/
def milliseconds : Json → Except Fault Int
  | .int seconds => .ok (seconds * 1000)
  | .bool value => .ok (if value then 1000 else 0)
  | .real seconds => truncated (seconds * 1000)
  | other => .error ⟨.mismatch, "'" ++ other.typeName ++ "' is no time"⟩

namespace Event

/-- The request of an event: the bound one, or else that of the whole process. -/
def request (event : Event) (processRequest : String) : Json :=
  (event.bound.get? requestKey).getD (.text processRequest)

/-- The fields that every record starts with. -/
def ownFields (event : Event) (processRequest : String) : Keyed Json :=
  [("level", .int (weight event.level)),
   ("time", .int event.time),
   ("msg", .text event.message),
   ("pid", .int event.processId),
   (requestKey, event.request processRequest)]

/-- The fields bound by the callers, the request apart. -/
def otherFields (event : Event) : Keyed Json :=
  event.bound.filter fun field => field.1 != requestKey

/-- The record of an event. -/
def record (event : Event) (processRequest : String) : Keyed Json :=
  let fields := (event.ownFields processRequest).putAll event.otherFields
  match event.cause with
  | some cause => fields.put "err" cause.toJson
  | none => fields

end Event

end SnippetTutor.Log
