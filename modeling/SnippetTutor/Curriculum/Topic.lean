import SnippetTutor.Curriculum.Layer
import SnippetTutor.Json.Equality
import SnippetTutor.Linter.Rules

/-!
# Topics

A topic is filed in a layer and triggered by the detections on its list. Apart from the layer,
what a catalog says about a topic is kept as it stands there, whatever it is.

`Curriculum.layerFor?` places a detection: in the layer of the first topic that it triggers, or
else, for a rule of the linter, in the layer of that rule.
-/

namespace SnippetTutor

/-- Something to learn. -/
structure Topic where
  slug : Json
  name : Json
  layer : Layer
  category : Json
  description : Json
  framework : Json := .text "shared"
  criticality : Json := .text "medium"
  prerequisites : List Json := []
  triggers : List Json

namespace Topic

/-- Whether a value is the given text. -/
def isText (text : String) : Json → Bool
  | .text value => value == text
  | _ => false

/-- Whether a topic is triggered by a detection. -/
def isTriggeredBy (topic : Topic) (slug : String) : Bool := topic.triggers.any (isText slug)

/-- The wire form of a topic. -/
def toJson (topic : Topic) : Json :=
  .object
    [("slug", topic.slug), ("name", topic.name), ("layer", .text topic.layer.name),
     ("category", topic.category), ("description", topic.description),
     ("framework", topic.framework), ("criticality", topic.criticality),
     ("prerequisites", .list topic.prerequisites), ("triggers", .list topic.triggers)]

end Topic

/-- Topics in order. -/
structure Curriculum where
  topics : List Topic

namespace Curriculum

/-- The topic with the given name. Names are compared like keys: numbers count by their size. -/
def find? (curriculum : Curriculum) (slug : Json) : Option Topic :=
  curriculum.topics.find? fun topic => slug.alike topic.slug

/-- The topics of a layer. -/
def inLayer (curriculum : Curriculum) (layer : Layer) : List Topic :=
  curriculum.topics.filter fun topic => topic.layer == layer

/-- The topics of a layer that are triggered by one of the given detections. -/
def triggered (curriculum : Curriculum) (slugs : List String) (layer : Layer) : List Topic :=
  (curriculum.inLayer layer).filter fun topic => slugs.any topic.isTriggeredBy

/-- Rules of the linter about fundamentals. -/
def fundamentalRules : List String :=
  ["for-direction", "getter-return", "no-async-promise-executor", "no-compare-neg-zero",
   "no-cond-assign", "no-constant-binary-expression", "no-constant-condition", "no-dupe-args",
   "no-dupe-keys", "no-duplicate-case", "no-empty-pattern", "no-ex-assign", "no-fallthrough",
   "no-self-assign", "no-self-compare", "no-sparse-arrays", "no-unreachable", "use-isnan",
   "valid-typeof", "no-unsafe-finally", "no-unsafe-negation", "no-loss-of-precision",
   "no-extra-boolean-cast", "no-regex-spaces", "no-control-regex", "no-empty-character-class",
   "no-invalid-regexp", "no-misleading-character-class", "no-prototype-builtins",
   "no-unexpected-multiline", "no-inner-declarations", "no-func-assign", "no-import-assign",
   "no-obj-calls", "no-setter-return", "no-global-assign", "no-delete-var", "no-octal", "no-with"]

/-- Rules of the linter about patterns. -/
def patternRules : List String :=
  ["no-await-in-loop", "require-atomic-updates", "require-await", "prefer-promise-reject-errors",
   "complexity", "class-methods-use-this", "grouped-accessor-pairs",
   "logical-assignment-operators", "prefer-named-capture-group", "accessor-pairs",
   "no-useless-backreference", "react/jsx-no-constructed-context-values",
   "react/no-unstable-nested-components", "react/no-object-type-as-default-prop",
   "react/prefer-stateless-function"]

/-- The layer of a rule of the linter, by its topic. -/
def linterLayer (slug : String) : Layer :=
  if patternRules.any fun rule => Linter.topicOf rule == slug then .patterns
  else if fundamentalRules.any fun rule => Linter.topicOf rule == slug then .fundamentals
  else .intermediate

/-- The layer that a detection belongs to. -/
def layerFor? (curriculum : Curriculum) (slug : String) : Option Layer :=
  match curriculum.topics.find? fun topic => topic.isTriggeredBy slug with
  | some topic => some topic.layer
  | none => if slug.startsWith "eslint-" then some (linterLayer slug) else none

end Curriculum

end SnippetTutor
