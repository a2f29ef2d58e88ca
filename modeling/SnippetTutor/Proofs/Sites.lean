import SnippetTutor.Proofs.Aliases
import SnippetTutor.Proofs.Assembly

/-!
# Where detections stand

A detector points at constructs of the tree it looks at, and nowhere else: the line of a construct
counts from one, its column counts bytes from zero.

* `Tree.parts` lists a tree with everything below it, and `Node.tree_mem_parts` says that going
  down from the top never leaves the list;
* `Detection.StandsIn` is the statement for one detection, `Detector.standsIn_of_run` proves it of
  every detector, and `Task.detections_stand` of every analysis;
* the changes of shared values were recorded before any detector ran, but they are told at the
  places where they were met (`Detectors.Hazards.exists_mutation_of_run`).
-/

namespace SnippetTutor

/-! ### Parts of a tree -/

namespace Tree

mutual

/-- A tree with all trees below it, parents first. -/
def parts : Tree → List Tree
  | node label subtrees => node label subtrees :: forestParts subtrees

/-- The trees of a forest with all trees below them. -/
def forestParts : List Tree → List Tree
  | [] => []
  | tree :: rest => parts tree ++ forestParts rest

end

theorem mem_forestParts {part : Tree} {forest : List Tree} :
    part ∈ forestParts forest ↔ ∃ tree ∈ forest, part ∈ tree.parts := by
  induction forest with
  | nil => simp [forestParts]
  | cons tree rest ih => simp [forestParts, ih]

theorem mem_parts {part tree : Tree} :
    part ∈ tree.parts ↔ part = tree ∨ ∃ below ∈ tree.subtrees, part ∈ below.parts := by
  cases tree with
  | node label subtrees => rw [parts, List.mem_cons, mem_forestParts, Tree.subtrees]

theorem self_mem_parts (tree : Tree) : tree ∈ tree.parts := mem_parts.2 (.inl rfl)

/-- Parts of parts are parts. -/
theorem mem_parts_trans {part middle : Tree} (inner : part ∈ middle.parts) :
    ∀ {tree : Tree}, middle ∈ tree.parts → part ∈ tree.parts
  | tree, outer => by
    rcases mem_parts.1 outer with rfl | ⟨below, listed, outer⟩
    · exact inner
    · have lower := height_lt_of_mem listed
      exact mem_parts.2 (.inr ⟨below, listed, mem_parts_trans inner outer⟩)
termination_by tree => tree.height

end Tree

/-- Going down from the top leads to parts of the tree. -/
theorem Reaches.mem_parts {root tree : Tree} {above : List Tree} {path : List Nat}
    (reached : Reaches root tree above path) : tree ∈ root.parts := by
  induction reached with
  | top => exact root.self_mem_parts
  | @down tree above path _ i bound ih =>
    have below : tree.subtrees[i] ∈ tree.parts :=
      Tree.mem_parts.2 (.inr ⟨_, List.getElem_mem bound, Tree.self_mem_parts _⟩)
    exact Tree.mem_parts_trans below ih

theorem Node.tree_mem_parts {root : Tree} (node : Node root) : node.tree ∈ root.parts :=
  node.reached.mem_parts

/-! ### Detections -/

namespace Detection

/-- A detection points at the beginning of a construct. -/
def StandsAt (detection : Detection) (tree : Tree) : Prop :=
  detection.mark = some ⟨.int (tree.label.row + 1), .int tree.label.column⟩

/-- A detection points at nothing, or at the beginning of some construct of a tree. -/
def StandsIn (root : Tree) (detection : Detection) : Prop :=
  detection.mark = none ∨ ∃ tree ∈ root.parts, detection.StandsAt tree

theorem standsIn_toDetection {root : Tree} (finding : Finding root) (topic : String) :
    (finding.toDetection topic).StandsIn root := by
  unfold StandsIn StandsAt Finding.toDetection
  cases finding.site with
  | none => exact .inl rfl
  | some site => exact .inr ⟨site.tree, site.tree_mem_parts, rfl⟩

theorem standsAt_filedUnder {tree : Tree} {detection : Detection} {origin : Origin} :
    (detection.filedUnder origin).StandsAt tree ↔ detection.StandsAt tree :=
  Iff.rfl

theorem standsIn_filedUnder {root : Tree} {detection : Detection} {origin : Origin} :
    (detection.filedUnder origin).StandsIn root ↔ detection.StandsIn root :=
  Iff.rfl

end Detection

/-- A detector points at constructs of the tree that it looks at. -/
theorem Detector.standsIn_of_run {detector : Detector} {subject : Subject}
    {detections : List Detection} (ran : detector.run subject = .ok detections)
    {detection : Detection} (member : detection ∈ detections) :
    detection.StandsIn subject.root := by
  obtain ⟨finding, topic, -, rfl⟩ := Detector.exists_finding_of_run ran member
  exact Detection.standsIn_toDetection finding topic

namespace Detectors.Hazards

/-- The detector of changes of shared values. -/
def sharing : Detector :=
  .hazards "find_object_reference_sharing" "object-reference-sharing" sharedReferences

/-- Among the detectors that follow values only one reports on shared values. -/
theorem eq_sharing_of_mem {collection : Collection} (known : collection ∈ hazardCollections)
    {detector : Detector} (held : detector ∈ collection.detectors)
    (listed : "object-reference-sharing" ∈ detector.topics) : detector = sharing := by
  simp only [hazardCollections, List.mem_cons, List.not_mem_nil, or_false] at known
  rcases known with rfl | rfl
  · simp only [dataFlow, List.mem_cons, List.not_mem_nil, or_false] at held
    rcases held with rfl | others
    · rfl
    · rcases others with rfl | rfl | rfl | rfl | rfl | rfl | rfl | rfl | rfl | rfl | rfl <;>
        exact absurd listed (by decide)
  · simp only [reactDataFlow, List.mem_cons, List.not_mem_nil, or_false] at held
    rcases held with rfl | rfl <;> exact absurd listed (by decide)

/-- Changes of shared values are told where they were recorded: at the assignments and calls in
the index that write a path of the value. -/
theorem exists_mutation_of_run {limits : SearchLimits} {parsed : Parsed}
    {detections : List Detection}
    (ran : sharing.run (Subject.ofParsed limits parsed) = .ok detections)
    {detection : Detection} (member : detection ∈ detections) :
    ∃ mutation, AliasMap.IsWrittenIn parsed.index mutation ∧
      detection.StandsAt mutation.site.tree := by
  obtain ⟨hazards, found, hazard, held, rfl⟩ := Detector.exists_hazard_of_run ran member
  cases found
  obtain ⟨group, changed, inside⟩ := List.mem_flatMap.1 held
  obtain ⟨mutation, recorded, rfl⟩ := List.mem_map.1 inside
  exact ⟨mutation, AliasMap.isWrittenIn_of_mem_mutated changed recorded, rfl⟩

end Detectors.Hazards

/-! ### Analyses -/

namespace Detection

/-- A detection of an analysis points at nothing or at a construct of the tree that was read; if
it is about a change of a shared value, at a construct that was recorded as one. -/
def StandsInParsed (parsed : Parsed) (detection : Detection) : Prop :=
  detection.StandsIn parsed.root ∧
    (detection.origin = .dataflow → detection.topic = "object-reference-sharing" →
      ∃ mutation, AliasMap.IsWrittenIn parsed.index mutation ∧
        detection.StandsAt mutation.site.tree)

/-- What does not come from the linter points at constructs of the tree that was read. -/
theorem MadeIn.exists_standsInParsed {reading : Reading} {detection : Detection}
    (made : detection.MadeIn reading) (own : detection.origin ≠ .eslint) :
    ∃ parsed, reading.parsed = some parsed ∧ detection.StandsInParsed parsed := by
  cases made with
  | byLinter reported => exact absurd reported.origin own
  | @byDetector parsed read collection known detector held fits limits found ran original made =>
    refine ⟨parsed, read, standsIn_filedUnder.2 (Detector.standsIn_of_run ran made), ?_⟩
    intro dataflow topic
    rw [origin_filedUnder] at dataflow
    rw [topic_filedUnder] at topic
    -- The topic gives the detector away.
    rcases Detectors.origin_of_mem known with native | ⟨-, hazardous⟩
    · rw [native] at dataflow
      cases dataflow
    · have listed := Detector.topic_mem_of_run ran made
      rw [topic] at listed
      obtain rfl := Detectors.Hazards.eq_sharing_of_mem hazardous held listed
      obtain ⟨mutation, written, site⟩ := Detectors.Hazards.exists_mutation_of_run ran made
      exact ⟨mutation, written, standsAt_filedUnder.2 site⟩

end Detection

namespace Task

/-- Every detector points at constructs of the tree that it looks at, and so does every analysis,
apart from what the linter reports. -/
theorem detections_located :
    (∀ (detector : Detector) (subject : Subject) (detections : List Detection),
      detector.run subject = .ok detections →
        ∀ detection ∈ detections, detection.StandsIn subject.root) ∧
    ∀ (task : Task) (analysis : Analysis), task.analyze = .ok analysis →
      ∀ detection ∈ analysis.detections, detection.origin ≠ .eslint →
        ∃ parsed, analysis.reading.parsed = some parsed ∧ detection.StandsInParsed parsed := by
  constructor
  · intro detector subject detections ran detection member
    exact Detector.standsIn_of_run ran member
  · intro task analysis ended detection member own
    exact (madeIn_of_mem_analysis ended member).exists_standsInParsed own

/-- A list with two names that is changed through the second one, on the second line. -/
theorem detections_located_sharing :
    let task : Task :=
      { source := .text "const a = [], b = a\nb.x = 1"
        parses := fun _ => some (.node { name := "program", stop := 27 }
          [.node { name := "lexical_declaration", stop := 19 }
            [.node { name := "variable_declarator", start := 6, stop := 12, column := 6 }
              [.node { name := "identifier", role := some .name, text := "a" } [],
               .node { name := "array", role := some .value, text := "[]" } []],
             .node { name := "variable_declarator", start := 14, stop := 19, column := 14 }
              [.node { name := "identifier", role := some .name, text := "b" } [],
               .node { name := "identifier", role := some .value, text := "a" } []]],
           .node { name := "assignment_expression", start := 20, stop := 27, row := 1 }
            [.node { name := "member_expression", role := some .left, row := 1 }
              [.node { name := "identifier", role := some .object, text := "b" } [],
               .node { name := "property_identifier", role := some .property, text := "x" } []],
             .node { name := "number", role := some .right, text := "1" } []]])
        linting := some false }
    ∃ analysis, task.analyze = .ok analysis ∧
      ∃ detection ∈ analysis.detections, detection.mark = some ⟨.int 2, .int 0⟩ ∧
        ∃ parsed, analysis.reading.parsed = some parsed ∧
          ∃ mutation, AliasMap.IsWrittenIn parsed.index mutation ∧
            detection.StandsAt mutation.site.tree := by
  intro task
  have computed :
      (task.analyze.toOption.any fun analysis => analysis.detections.any fun detection =>
        detection.origin = .dataflow ∧ detection.topic = "object-reference-sharing" ∧
          detection.mark = some ⟨.int 2, .int 0⟩) = true := by
    decide +kernel
  obtain ⟨analysis, ended, passed⟩ := exists_ok_of_any computed
  obtain ⟨detection, member, shown⟩ := List.any_eq_true.1 passed
  obtain ⟨dataflow, topic, mark⟩ := of_decide_eq_true shown
  have own : detection.origin ≠ .eslint := by
    rw [dataflow]
    decide
  obtain ⟨parsed, read, -, shared⟩ :=
    detections_located.2 task analysis ended detection member own
  exact ⟨analysis, ended, detection, member, mark, parsed, read, shared dataflow topic⟩

end Task

end SnippetTutor
