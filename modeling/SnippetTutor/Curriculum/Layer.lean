/-!
# Layers and levels

The curriculum has three layers, and a learner one of three levels. A level decides which layers
the learner sees.
-/

namespace SnippetTutor

/-- A layer of the curriculum. -/
inductive Layer where
  | fundamentals
  | intermediate
  | patterns
  deriving DecidableEq, Repr

/-- How a layer is presented. -/
structure LayerInfo where
  name : String
  shortName : String
  priority : String
  description : String
  deriving DecidableEq, Repr

namespace Layer

/-- The name of a layer. -/
def name : Layer → String
  | fundamentals => "fundamentals"
  | intermediate => "intermediate"
  | patterns => "patterns"

/-- Every layer in order. -/
def all : List Layer := [fundamentals, intermediate, patterns]

/-- The layer with the given name. -/
def ofName? (text : String) : Option Layer := all.find? fun layer => layer.name == text

/-- How a layer is presented. -/
def info : Layer → LayerInfo
  | fundamentals =>
    { name := "Fundamentals"
      shortName := "Foundation"
      priority := "40-50%"
      description := "Master these first. Everything else builds on them." }
  | intermediate =>
    { name := "Intermediate"
      shortName := "Next Level"
      priority := "30%"
      description := "Build on your fundamentals with deeper concepts." }
  | patterns =>
    { name := "Patterns"
      shortName := "Design Patterns"
      priority := "20%"
      description := "Advanced techniques for maintainable code." }

end Layer

/-- The level of a learner. -/
inductive Level where
  | beginner
  | intermediate
  | advanced
  deriving DecidableEq, Repr

namespace Level

/-- The name of a level. -/
def name : Level → String
  | beginner => "beginner"
  | intermediate => "intermediate"
  | advanced => "advanced"

/-- Every level in order. -/
def all : List Level := [beginner, intermediate, advanced]

/-- The level with the given name. -/
def ofName? (text : String) : Option Level := all.find? fun level => level.name == text

/-- The layers that a learner sees. -/
def visibleLayers : Level → List Layer
  | beginner => [.fundamentals]
  | intermediate => [.fundamentals, .intermediate]
  | advanced => [.fundamentals, .intermediate, .patterns]

/-- The level of a learner by the mastery of the first two layers, each from 0 to 5. -/
def estimate (fundamentals intermediate : Float) : Level :=
  if fundamentals < 3 then beginner
  else if intermediate < 3 then .intermediate
  else if fundamentals ≥ 4 then advanced
  else .intermediate

end Level

end SnippetTutor
