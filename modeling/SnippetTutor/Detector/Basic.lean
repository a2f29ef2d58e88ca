import SnippetTutor.Detection.KeepFirst
import SnippetTutor.Detector.Context
import SnippetTutor.Detector.Finding
import SnippetTutor.Shape.Composite
import SnippetTutor.Shape.Markup
import SnippetTutor.Shape.Statement

/-!
# Detectors and rules

A detector looks through a tree for one idea and reports findings on its topics. Detectors that
belong together form a suite, which says when they run. A rule is what an engine runs: a name, a
suite, and a function from any kind of subject to detections.

A finding comes with the position of its topic among the topics of its detector, so a detector
cannot report on a topic that it does not list (`Detector.topic_mem_of_run`), and every finding is
reported (`Detector.run_fallible`).
-/

namespace SnippetTutor

/-- A group of detectors that run under the same conditions. -/
structure Suite where
  name : String
  category : String
  /-- Suites run in ascending order. -/
  order : Nat
  /-- Where the suite is filed. -/
  home : String
  requiresReact : Bool := false
  origin : Origin := .native
  deriving DecidableEq, Repr

/-- A named function from subjects to detections. -/
structure Rule (σ : Type) where
  name : String
  suite : Suite
  /-- What the rule finds. No list at all counts as an empty one. -/
  run : σ → Except Fault (Option (List Detection))

/-- The name of a rule with the place of its suite. -/
def Rule.qualifiedName {σ : Type} (rule : Rule σ) : String := rule.suite.home ++ "." ++ rule.name

/-- A tree with its context. -/
structure Subject where
  root : Tree
  context : Context root

/-- A search of trees for one idea. -/
structure Detector where
  name : String
  topics : List String
  /-- The findings, each with the position of its topic among the topics of the detector. -/
  find : (root : Tree) → Context root → Except Fault (List (Fin topics.length × Finding root))

namespace Detector

/-- A detector with a single topic that can fail. -/
def fallible (name topic : String)
    (find : {root : Tree} → Context root → Except Fault (List (Finding root))) : Detector :=
  ⟨name, [topic], fun _ context =>
    (find context).map fun findings => findings.map fun finding => (⟨0, Nat.zero_lt_one⟩, finding)⟩

/-- A detector with a single topic. -/
def of (name topic : String) (find : {root : Tree} → Context root → List (Finding root)) :
    Detector :=
  fallible name topic fun context => .ok (find context)

/-- The detection that a finding of this detector is. -/
def report {root : Tree} (detector : Detector)
    (entry : Fin detector.topics.length × Finding root) : Detection :=
  entry.2.toDetection (detector.topics.get entry.1)

/-- The detections of a detector in a tree. -/
def run (detector : Detector) (subject : Subject) : Except Fault (List Detection) :=
  (detector.find subject.root subject.context).map fun findings => findings.map detector.report

/-- The rule that runs a detector. -/
def toRule (suite : Suite) (detector : Detector) : Rule Subject :=
  ⟨detector.name, suite, fun subject => (detector.run subject).map some⟩

/-- What a detector with a single topic that can fail finds. -/
theorem run_fallible (name topic : String)
    (find : {root : Tree} → Context root → Except Fault (List (Finding root)))
    (subject : Subject) :
    (fallible name topic find).run subject =
      (find subject.context).map fun findings =>
        findings.map fun finding => finding.toDetection topic := by
  show ((find subject.context).map _).map _ = _
  cases find subject.context with
  | error fault => rfl
  | ok findings => exact congrArg Except.ok List.map_map

theorem topic_toDetection {root : Tree} (finding : Finding root) (topic : String) :
    (finding.toDetection topic).topic = topic :=
  rfl

/-- The detections of a detector are those of its findings. -/
theorem exists_finding_of_run {detector : Detector} {subject : Subject}
    {detections : List Detection} (ran : detector.run subject = .ok detections)
    {detection : Detection} (member : detection ∈ detections) :
    ∃ (finding : Finding subject.root) (topic : String),
      topic ∈ detector.topics ∧ detection = finding.toDetection topic := by
  unfold run at ran
  cases found : detector.find subject.root subject.context with
  | error fault => rw [found] at ran; cases ran
  | ok findings =>
    rw [found] at ran
    cases ran
    obtain ⟨entry, -, rfl⟩ := List.mem_map.1 member
    exact ⟨entry.2, _, List.get_mem detector.topics entry.1, rfl⟩

/-- A detector only reports on topics that it lists. -/
theorem topic_mem_of_run {detector : Detector} {subject : Subject} {detections : List Detection}
    (ran : detector.run subject = .ok detections) {detection : Detection}
    (member : detection ∈ detections) : detection.topic ∈ detector.topics := by
  obtain ⟨finding, topic, listed, rfl⟩ := exists_finding_of_run ran member
  rw [topic_toDetection]
  exact listed

end Detector

/-- A suite with its detectors in order. -/
structure Collection where
  suite : Suite
  detectors : List Detector

/-- The rules that run the detectors of a collection. -/
def Collection.rules (collection : Collection) : List (Rule Subject) :=
  collection.detectors.map (Detector.toRule collection.suite)

end SnippetTutor
