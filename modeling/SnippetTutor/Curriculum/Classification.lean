import SnippetTutor.Curriculum.Catalog
import SnippetTutor.Detection.Basic
import SnippetTutor.Snippet.Bound

/-!
# Detections by layer

Detections are sorted into the layers of a curriculum, and the ones that a learner should look at
are picked from them: as long as anything fundamental is wrong, nothing else is shown.
-/

namespace SnippetTutor

/-- Detections by layer, each part in the order of the whole. -/
structure LayeredDetections where
  fundamentals : List Detection := []
  intermediate : List Detection := []
  patterns : List Detection := []
  unclassified : List Detection := []
  deriving DecidableEq, Repr

namespace LayeredDetections

/-- The detections of a layer. -/
def ofLayer (layered : LayeredDetections) : Layer → List Detection
  | .fundamentals => layered.fundamentals
  | .intermediate => layered.intermediate
  | .patterns => layered.patterns

/-- What is wrong in a layer. -/
def issues (layered : LayeredDetections) (layer : Layer) : List Detection :=
  (layered.ofLayer layer).filter Detection.negative

/-- The number of detections of every layer. -/
def counts (layered : LayeredDetections) : Keyed Nat :=
  Layer.all.map fun layer => (layer.name, (layered.ofLayer layer).length)

/-- The number of detections of every layer under its name. -/
def countsToJson (layered : LayeredDetections) : Json :=
  .object (layered.counts.map fun (name, count) => (name, .int count))

/-- Puts a detection before the others of its layer. -/
def file (layered : LayeredDetections) (detection : Detection) : Option Layer → LayeredDetections
  | some .fundamentals => { layered with fundamentals := detection :: layered.fundamentals }
  | some .intermediate => { layered with intermediate := detection :: layered.intermediate }
  | some .patterns => { layered with patterns := detection :: layered.patterns }
  | none => { layered with unclassified := detection :: layered.unclassified }

/-- Detections sorted into the layers that a function assigns to their topics. -/
def sortBy (layerFor? : String → Option Layer) : List Detection → LayeredDetections
  | [] => {}
  | detection :: rest => (sortBy layerFor? rest).file detection (layerFor? detection.topic)

/-- Detections sorted into the layers of a curriculum. -/
def classify (curriculum : Curriculum) (detections : List Detection) : LayeredDetections :=
  sortBy (Catalog.orBundled curriculum).layerFor? detections

/-- The issues that a learner should look at. -/
def surfaced (layered : LayeredDetections) (level : Level) : List Detection :=
  let fundamentals := layered.issues .fundamentals
  if !fundamentals.isEmpty then fundamentals
  else if level == .beginner then []
  else layered.issues .intermediate ++ layered.issues .patterns

/-- The first of the issues that a learner should look at. -/
def prioritize (layered : LayeredDetections) (level : Level) (limit : Bound) :
    Except Fault (List Detection) :=
  limit.cut (layered.surfaced level)

end LayeredDetections

end SnippetTutor
