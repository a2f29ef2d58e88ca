import SnippetTutor.Curriculum.Classification

/-!
# Detections sorted into layers

Sorting puts every detection into the part of its layer, or apart when it has none.

* `LayeredDetections.ofLayer_sortBy` and `unclassified_sortBy`: each part is the selection of the
  detections that belong there, in the order of the whole;
* `LayeredDetections.total_sortBy`: the parts have as many members as the whole.
-/

namespace SnippetTutor.LayeredDetections

variable (layerFor? : String → Option Layer)

theorem ofLayer_file (layered : LayeredDetections) (detection : Detection) (layer? : Option Layer)
    (layer : Layer) :
    (layered.file detection layer?).ofLayer layer =
      if layer? = some layer then detection :: layered.ofLayer layer
      else layered.ofLayer layer := by
  rcases layer? with _ | (_ | _ | _) <;> cases layer <;> rfl

theorem unclassified_file (layered : LayeredDetections) (detection : Detection)
    (layer? : Option Layer) :
    (layered.file detection layer?).unclassified =
      if layer? = none then detection :: layered.unclassified else layered.unclassified := by
  rcases layer? with _ | (_ | _ | _) <;> rfl

/-- The part of a layer holds the detections of that layer, in order. -/
theorem ofLayer_sortBy (detections : List Detection) (layer : Layer) :
    (sortBy layerFor? detections).ofLayer layer =
      detections.filter fun detection => layerFor? detection.topic = some layer := by
  induction detections with
  | nil => cases layer <;> rfl
  | cons detection rest ih =>
    rw [sortBy, ofLayer_file, ih, List.filter_cons]
    simp only [decide_eq_true_eq]

/-- The detections that belong to no layer, in order. -/
theorem unclassified_sortBy (detections : List Detection) :
    (sortBy layerFor? detections).unclassified =
      detections.filter fun detection => layerFor? detection.topic = none := by
  induction detections with
  | nil => rfl
  | cons detection rest ih =>
    rw [sortBy, unclassified_file, ih, List.filter_cons]
    simp only [decide_eq_true_eq]

/-- The number of detections in all layers together. -/
def total (layered : LayeredDetections) : Nat :=
  layered.counts.foldr (fun (_, count) total => count + total) 0

theorem total_eq (layered : LayeredDetections) :
    layered.total =
      layered.fundamentals.length + layered.intermediate.length + layered.patterns.length := by
  show layered.fundamentals.length + (layered.intermediate.length +
    (layered.patterns.length + 0)) = _
  omega

/-- Filing a detection makes one part longer by one. -/
theorem total_file (layered : LayeredDetections) (detection : Detection)
    (layer? : Option Layer) :
    (layered.file detection layer?).total + (layered.file detection layer?).unclassified.length =
      layered.total + layered.unclassified.length + 1 := by
  rw [total_eq, total_eq]
  rcases layer? with _ | (_ | _ | _) <;> simp only [file, List.length_cons] <;> omega

/-- No detection is lost and none counted twice. -/
theorem total_sortBy (detections : List Detection) :
    (sortBy layerFor? detections).total + (sortBy layerFor? detections).unclassified.length =
      detections.length := by
  induction detections with
  | nil => rfl
  | cons detection rest ih => rw [sortBy, total_file, ih, List.length_cons]

end SnippetTutor.LayeredDetections
