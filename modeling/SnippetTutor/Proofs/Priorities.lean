import SnippetTutor.Proofs.Layers

/-!
# What a learner is shown

Sorting into layers keeps every detection once and in order, and the issues that are shown first are
read off the sorted ones: fundamental issues hide all others, and without them a beginner is shown
nothing.

* `issuesBy` are the issues of a layer, told from the layers of topics alone;
* `LayeredDetections.perm_parts_sortBy`: the parts are the whole again;
* `LayeredDetections.prioritize_sortBy` says what is shown, `prioritize_sortBy_congr` that
  fundamental issues alone decide it where there are any;
* `LayeredDetections.prioritize_classify` is both for a curriculum. A curriculum without topics has
  no say: its place is taken by the bundled one (`Curriculum.layerFor?_orBundled_iff`).
-/

namespace SnippetTutor

/-- A list cut to a number of items that is not negative. -/
theorem Bound.cut_natCast {α : Type} (limit : Nat) (items : List α) :
    (Bound.int limit).cut items = .ok (items.take limit) := by
  simp [cut, firstItems]

/-- What is wrong in a layer, when a function tells the layers of topics. -/
def issuesBy (layerFor? : String → Option Layer) (layer : Layer) (detections : List Detection) :
    List Detection :=
  detections.filter fun detection =>
    detection.negative && layerFor? detection.topic = some layer

namespace LayeredDetections

/-! ### The parts and the whole -/

/-- All detections, layer by layer. -/
def parts (layered : LayeredDetections) : List Detection :=
  layered.fundamentals ++ layered.intermediate ++ layered.patterns ++ layered.unclassified

theorem parts_file (layered : LayeredDetections) (detection : Detection)
    (layer? : Option Layer) :
    ((layered.file detection layer?).parts).Perm (detection :: layered.parts) := by
  rcases layer? with _ | (_ | _ | _)
  · exact List.perm_middle
  · exact .refl _
  · simp only [parts, file, List.append_assoc, List.cons_append]
    exact List.perm_middle
  · simp only [parts, file]
    rw [List.append_assoc _ (_ :: _), List.append_assoc _ layered.patterns]
    exact List.perm_middle

variable (layerFor? : String → Option Layer)

/-- No detection is lost by sorting, and none is there twice. -/
theorem perm_parts_sortBy (detections : List Detection) :
    ((sortBy layerFor? detections).parts).Perm detections := by
  induction detections with
  | nil => exact .refl _
  | cons detection rest ih => exact (parts_file _ _ _).trans (ih.cons _)

/-! ### What is shown -/

theorem issues_sortBy (detections : List Detection) (layer : Layer) :
    (sortBy layerFor? detections).issues layer = issuesBy layerFor? layer detections := by
  rw [issues, ofLayer_sortBy, List.filter_filter, issuesBy]

/-- The issues that a learner should look at, by their layers. -/
theorem surfaced_sortBy (detections : List Detection) (level : Level) :
    let issues := fun layer => issuesBy layerFor? layer detections
    (sortBy layerFor? detections).surfaced level =
      if issues .fundamentals ≠ [] then issues .fundamentals
      else if level = .beginner then []
      else issues .intermediate ++ issues .patterns := by
  simp [surfaced, issues_sortBy]

/-- The issues that a learner is shown: as many of them as the limit allows. -/
theorem prioritize_sortBy (detections : List Detection) (level : Level) (limit : Nat) :
    let issues := fun layer => issuesBy layerFor? layer detections
    (sortBy layerFor? detections).prioritize level (.int limit) =
      .ok (if issues .fundamentals ≠ [] then (issues .fundamentals).take limit
        else if level = .beginner then []
        else (issues .intermediate ++ issues .patterns).take limit) := by
  intro issues
  rw [prioritize, Bound.cut_natCast, surfaced_sortBy, apply_ite (List.take limit),
    apply_ite (List.take limit), List.take_nil]

/-- Where something fundamental is wrong, neither the level nor any other detection than those of
the first layer makes a difference. -/
theorem prioritize_sortBy_congr {detections others : List Detection}
    (same : (sortBy layerFor? others).fundamentals = (sortBy layerFor? detections).fundamentals)
    (wrong : issuesBy layerFor? .fundamentals detections ≠ []) (level level' : Level)
    (limit : Bound) :
    (sortBy layerFor? others).prioritize level' limit =
      (sortBy layerFor? detections).prioritize level limit := by
  have issues_eq : (sortBy layerFor? others).issues .fundamentals =
      (sortBy layerFor? detections).issues .fundamentals := congrArg _ same
  rw [← issues_sortBy] at wrong
  simp [prioritize, surfaced, issues_eq, wrong]

end LayeredDetections

/-! ### Curricula -/

/-- The layers in use are those of the curriculum, unless it has no topics. -/
theorem Curriculum.layerFor?_orBundled_iff (curriculum : Curriculum) :
    (Catalog.orBundled curriculum).layerFor? = curriculum.layerFor? ↔ curriculum.topics ≠ [] := by
  obtain ⟨topics⟩ := curriculum
  cases topics with
  | nil =>
    refine ⟨fun same => ?_, fun given => absurd rfl given⟩
    have placed : Catalog.bundled.layerFor? "no-var-usage" = some .fundamentals := by decide +kernel
    rw [show Catalog.orBundled ⟨[]⟩ = Catalog.bundled from rfl] at same
    rw [same] at placed
    revert placed
    decide +kernel
  | cons topic rest => simp [Catalog.orBundled]

namespace LayeredDetections

/-- The detections are sorted by the layers in use, and a learner is shown the first issues
accordingly. The layers in use are those of the curriculum exactly when it has topics. -/
theorem prioritize_classify (curriculum : Curriculum) (detections : List Detection)
    (level : Level) (limit : Nat) :
    let layerFor? := (Catalog.orBundled curriculum).layerFor?
    let issues := fun layer => issuesBy layerFor? layer detections
    let layered := classify curriculum detections
    (layerFor? = curriculum.layerFor? ↔ curriculum.topics ≠ []) ∧
      layered.prioritize level (.int limit) =
        .ok (if issues .fundamentals ≠ [] then (issues .fundamentals).take limit
          else if level = .beginner then []
          else (issues .intermediate ++ issues .patterns).take limit) ∧
      (issues .fundamentals ≠ [] → ∀ others level',
        others.filter (fun detection => layerFor? detection.topic = some .fundamentals) =
            detections.filter (fun detection => layerFor? detection.topic = some .fundamentals) →
          (classify curriculum others).prioritize level' (.int limit) =
            layered.prioritize level (.int limit)) ∧
      (∀ layer, layered.ofLayer layer =
        detections.filter fun detection => layerFor? detection.topic = some layer) ∧
      layered.unclassified =
        detections.filter (fun detection => layerFor? detection.topic = none) ∧
      (layered.fundamentals ++ layered.intermediate ++ layered.patterns ++
        layered.unclassified).Perm detections := by
  intro layerFor? issues layered
  refine ⟨curriculum.layerFor?_orBundled_iff, prioritize_sortBy layerFor? detections level limit,
    ?_, ofLayer_sortBy layerFor? detections, unclassified_sortBy layerFor? detections,
    perm_parts_sortBy layerFor? detections⟩
  intro wrong others level' same
  apply prioritize_sortBy_congr layerFor? _ wrong
  rw [← ofLayer_sortBy, ← ofLayer_sortBy] at same
  exact same

/-- A catalog without topics is accepted and places no topic, yet the use of `var` is shown as a
fundamental issue. -/
theorem prioritize_despite_empty_curriculum :
    let curriculum : Curriculum := ⟨[]⟩
    let detection : Detection := { topic := "no-var-usage", negative := true }
    Catalog.read (.holding (.object [("topics", .list [])])) = .ok curriculum ∧
      curriculum.layerFor? detection.topic = none ∧
      (classify curriculum [detection]).prioritize .beginner (.int 5) = .ok [detection] := by
  exact ⟨rfl, by decide +kernel, rfl⟩

end LayeredDetections

end SnippetTutor
