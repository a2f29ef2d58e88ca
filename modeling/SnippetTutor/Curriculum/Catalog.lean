import SnippetTutor.Curriculum.Bundled
import SnippetTutor.Fault
import SnippetTutor.Json.Display

/-!
# Catalogs

A catalog is a file with a curriculum. `Catalog.read` accepts a catalog or tells what is wrong
with it: which topic is no object, lacks a field, names an unknown layer or has the name of an
earlier one. Names, triggers and prerequisites of the wrong type are faults, and so is a name or a
layer that would have to be told and holds a number too long to be written.
-/

namespace SnippetTutor.Catalog

/-- What is found where a catalog should be. -/
inductive File where
  | missing
  | unreadable (reason : String)
  | holding (data : Json)

/-- What is wrong with a catalog. -/
inductive Problem where
  | notFound
  | unreadable (reason : String)
  | noTopics
  | notAnObject (position : Nat)
  | lacks (position : Nat) (fields : List String)
  | unknownLayer (slug layer : Json)
  | duplicate (slug : Json)

namespace Problem

/-- Whether there is a message about a problem: what it shows of a topic can be shown. -/
def isPrintable : Problem → Bool
  | unknownLayer slug layer => slug.isPrintable && layer.isPrintable
  | duplicate slug => slug.isPrintable
  | _ => true

/-- The message about a problem with the catalog at the given path, if there is one. -/
def message (path : String) : Problem → String
  | notFound => "Curriculum catalog not found: " ++ path
  | unreadable reason => "Could not read curriculum catalog " ++ path ++ ": " ++ reason
  | noTopics => "Curriculum catalog " ++ path ++ " has no 'topics' list"
  | notAnObject position =>
    "Topic #" ++ toString position ++ " in " ++ path ++ " is not a mapping"
  | lacks position fields =>
    "Topic #" ++ toString position ++ " in " ++ path ++ " is missing " ++ ", ".intercalate fields
  | unknownLayer slug layer =>
    "Topic '" ++ slug.shown ++ "' has unknown layer '" ++ layer.shown ++ "'"
  | duplicate slug => "Duplicate topic slug '" ++ slug.shown ++ "' in " ++ path

/-- The circumstances of a problem. -/
def details (path : String) : Problem → Keyed Json
  | notFound | unreadable _ | noTopics => [("path", .text path)]
  | notAnObject position => [("position", .int position)]
  | lacks position fields =>
    [("position", .int position), ("missing", .list (fields.map .text))]
  | unknownLayer slug _ => [("slug", slug)]
  | duplicate slug => [("slug", slug)]

end Problem

/-- Why a catalog was not accepted. -/
inductive Failure where
  | problem (problem : Problem)
  | fault (fault : Fault)

/-- Tells a problem, if there is a message about it. -/
def Problem.tell (problem : Problem) : Failure :=
  if problem.isPrintable then .problem problem else .fault .tooLong

/-- The fields that every topic has. -/
def requiredFields : List String := ["slug", "name", "layer", "category", "description"]

/-- A field of a topic. -/
def fieldOf (entry : Keyed Json) (key : String) : Json := (entry.get? key).getD .null

/-- A list of names in a topic; the fallback stands in for a list that is not set. -/
def namesOf (entry : Keyed Json) (key : String) (fallback : List Json) :
    Except Failure (List Json) :=
  let value := fieldOf entry key
  if value.isSet then
    match value.items? with
    | some items => .ok items
    | none => .error (.fault ⟨.mismatch, "'" ++ value.typeName ++ "' object is not iterable"⟩)
  else .ok fallback

/-- The layer with the given name. -/
def layerOf? : Json → Option Layer
  | .text name => Layer.ofName? name
  | _ => none

/-- A topic from its entry at a position of the catalog. -/
def topicOf (position : Nat) : Json → Except Failure Topic
  | .object entry => do
    let missing := requiredFields.filter fun key => !(fieldOf entry key).isSet
    if !missing.isEmpty then throw (Problem.lacks position missing).tell
    let slug := fieldOf entry "slug"
    match layerOf? (fieldOf entry "layer") with
    | none => throw (Problem.unknownLayer slug (fieldOf entry "layer")).tell
    | some layer =>
      let prerequisites ← namesOf entry "prerequisites" []
      let triggers ← namesOf entry "triggers" [slug]
      return {
        slug := slug
        name := fieldOf entry "name"
        layer := layer
        category := fieldOf entry "category"
        description := fieldOf entry "description"
        framework := (Keyed.get? entry "framework").getD (.text "shared")
        criticality := (Keyed.get? entry "criticality").getD (.text "medium")
        prerequisites := prerequisites
        triggers := triggers }
  | _ => throw (Problem.notAnObject position).tell

/-- A name that is a list or an object. -/
def noName (value : Json) : Failure :=
  .fault ⟨.mismatch, "unhashable type: '" ++ value.typeName ++ "'"⟩

/-- The topics of a catalog from a position on, given the names before it. -/
def topicsFrom (position : Nat) (seen : List Json) : List Json → Except Failure (List Topic)
  | [] => .ok []
  | entry :: rest => do
    let topic ← topicOf position entry
    if !topic.slug.isPlain then throw (noName topic.slug)
    if seen.any topic.slug.alike then throw (Problem.duplicate topic.slug).tell
    let others ← topicsFrom (position + 1) (topic.slug :: seen) rest
    return topic :: others

/-- The curriculum of a catalog. -/
def read : File → Except Failure Curriculum
  | .missing => .error Problem.notFound.tell
  | .unreadable reason => .error (Problem.unreadable reason).tell
  | .holding data =>
    match data.get? "topics" with
    | some (.list entries) => do
      let topics ← topicsFrom 1 [] entries
      match (topics.flatMap Topic.triggers).find? fun trigger => !trigger.isPlain with
      | some trigger => throw (noName trigger)
      | none => return ⟨topics⟩
    | _ => .error Problem.noTopics.tell

/-- The curriculum that comes with the program. -/
def bundled : Curriculum := ⟨Curriculum.Bundled.topics⟩

/-- The curriculum in use: a curriculum without topics stands for the bundled one. -/
def orBundled (curriculum : Curriculum) : Curriculum :=
  if curriculum.topics.isEmpty then bundled else curriculum

/-- The topics of a layer that are triggered by one of the given detections, in the curriculum in
use. -/
def topicsFor (curriculum : Curriculum) (slugs : List String) (layer : Layer) : List Topic :=
  (orBundled curriculum).triggered slugs layer

end SnippetTutor.Catalog
