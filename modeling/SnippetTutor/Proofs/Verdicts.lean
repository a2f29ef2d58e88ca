import SnippetTutor.Proofs.Assembly

/-!
# Praise and blame

The four marks of a detection are set apart from each other, but not every combination occurs.

* `Detection.Praised`: an idiom is in order, and neither wrong nor of little weight. A finding
  brings the proof along with its verdict, and filing a detection keeps it;
* `Detection.IsWarning`: what the linter and the detectors that follow values have to say is
  always against the code. For the latter this holds because a suite whose detections are not
  filed under syntax has detectors of hazards only (`Detectors.exists_hazards_of_mem`).

So no analysis counts more idioms than positive detections.
-/

namespace SnippetTutor

namespace Detection

/-- Nothing is said against an idiom. -/
def Praised (detection : Detection) : Prop :=
  detection.idiomatic = true →
    detection.positive = true ∧ detection.negative = false ∧ detection.trivial = false

/-- Something is said against the code, and nothing for it. -/
def IsWarning (detection : Detection) : Prop :=
  detection.negative = true ∧ detection.positive = false ∧ detection.idiomatic = false

theorem IsWarning.praised {detection : Detection} (warning : detection.IsWarning) :
    detection.Praised := by
  intro idiomatic
  rw [warning.2.2] at idiomatic
  cases idiomatic

theorem praised_toDetection {root : Tree} (finding : Finding root) (topic : String) :
    (finding.toDetection topic).Praised :=
  finding.verdict.praised

@[simp]
theorem praised_filedUnder {detection : Detection} {origin : Origin} :
    (detection.filedUnder origin).Praised ↔ detection.Praised :=
  Iff.rfl

@[simp]
theorem isWarning_filedUnder {detection : Detection} {origin : Origin} :
    (detection.filedUnder origin).IsWarning ↔ detection.IsWarning :=
  Iff.rfl

end Detection

theorem Linter.Reported.isWarning {detection : Detection} (reported : Linter.Reported detection) :
    detection.IsWarning :=
  ⟨reported.negative, reported.positive, reported.idiomatic⟩

/-! ### Detectors -/

/-- No detector says anything against an idiom. -/
theorem Detector.praised_of_run {detector : Detector} {subject : Subject}
    {detections : List Detection} (ran : detector.run subject = .ok detections)
    {detection : Detection} (member : detection ∈ detections) : detection.Praised := by
  obtain ⟨finding, topic, -, rfl⟩ := Detector.exists_finding_of_run ran member
  exact Detection.praised_toDetection finding topic

namespace Detectors

/-- The detectors of the suites that follow values are detectors of hazards. -/
theorem exists_hazards_of_mem {collection : Collection} (known : collection ∈ hazardCollections)
    {detector : Detector} (held : detector ∈ collection.detectors) :
    ∃ (name topic : String)
      (find : {root : Tree} → Context root → Except Fault (List (Hazard root))),
      detector = .fallibleHazards name topic find := by
  -- Both suites list their detectors, each of them built from a search for hazards.
  simp only [hazardCollections, List.mem_cons, List.not_mem_nil, or_false] at known
  rcases known with rfl | rfl
  · simp only [Hazards.dataFlow, List.mem_cons, List.not_mem_nil, or_false] at held
    rcases held with rfl | rfl | rfl | rfl | rfl | rfl | rfl | rfl | rfl | rfl | rfl | rfl <;>
      exact ⟨_, _, _, rfl⟩
  · simp only [Hazards.reactDataFlow, List.mem_cons, List.not_mem_nil, or_false] at held
    rcases held with rfl | rfl <;> exact ⟨_, _, _, rfl⟩

end Detectors

/-! ### Analyses -/

namespace Detection.MadeIn

variable {reading : Reading} {detection : Detection}

/-- However a detection came about, it says nothing against an idiom. -/
theorem praised (made : detection.MadeIn reading) : detection.Praised := by
  cases made with
  | byLinter reported => exact reported.isWarning.praised
  | byDetector read known held fits ran made =>
    exact praised_filedUnder.2 (Detector.praised_of_run ran made)

/-- What is not filed under syntax is a warning. -/
theorem isWarning (made : detection.MadeIn reading)
    (filed : detection.origin = .dataflow ∨ detection.origin = .eslint) :
    detection.IsWarning := by
  cases made with
  | byLinter reported => exact reported.isWarning
  | @byDetector parsed read collection known detector held fits limits found ran original made =>
    rw [isWarning_filedUnder]
    rw [origin_filedUnder] at filed
    -- A suite that is not filed under syntax follows values.
    rcases Detectors.origin_of_mem known with native | ⟨-, hazardous⟩
    · rw [native] at filed
      rcases filed with dataflow | eslint
      · cases dataflow
      · cases eslint
    · obtain ⟨name, topic, find, rfl⟩ := Detectors.exists_hazards_of_mem hazardous held
      exact Detector.negative_of_run_hazards ran made

end Detection.MadeIn

/-- If nothing is said against idioms, there are at most as many idioms as positive detections. -/
theorem Analysis.idiomaticCount_le {analysis : Analysis}
    (praised : ∀ detection ∈ analysis.detections, detection.Praised) :
    analysis.idiomaticCount ≤ analysis.positives.length := by
  unfold Analysis.positives Analysis.positivesOf
  rw [← List.countP_eq_length_filter]
  apply List.countP_mono_left
  intro detection member idiomatic
  obtain ⟨positive, negative, -⟩ := praised detection member idiomatic
  show (detection.positive && !detection.negative) = true
  rw [positive, negative]
  rfl

namespace Task

/-- In every analysis, nothing is said against an idiom, and what does not come from syntax is a
warning; so there are at most as many idioms as positive detections. -/
theorem marks_consistent (task : Task) (analysis : Analysis)
    (ended : task.analyze = .ok analysis) :
    (∀ detection ∈ analysis.detections,
      detection.Praised ∧
        (detection.origin = .dataflow ∨ detection.origin = .eslint → detection.IsWarning)) ∧
      analysis.idiomaticCount ≤ analysis.positives.length := by
  have made : ∀ detection ∈ analysis.detections, detection.MadeIn analysis.reading :=
    fun _ member => madeIn_of_mem_analysis ended member
  constructor
  · intro detection member
    exact ⟨(made detection member).praised, (made detection member).isWarning⟩
  · apply Analysis.idiomaticCount_le
    intro detection member
    exact (made detection member).praised

/-- A keyword is an idiom, and what the linter says about it is a warning. -/
theorem marks_consistent_keyword :
    let task : Task :=
      { source := .text "this"
        parses := fun _ => some (.node { name := "program", stop := 4 }
          [.node { name := "this", stop := 4, text := "this" } []])
        linting := some true
        execution := .finished "[\x7b\"messages\": [\x7b\"ruleId\": \"no-var\"\x7d]\x7d]" "" 1 }
    ∃ analysis, task.analyze = .ok analysis ∧ analysis.idiomaticCount = 1 ∧
      analysis.detections.map Detection.origin = [.native, .eslint] ∧
      (∀ detection ∈ analysis.detections,
        detection.Praised ∧
          (detection.origin = .dataflow ∨ detection.origin = .eslint → detection.IsWarning)) ∧
      1 ≤ analysis.positives.length := by
  intro task
  have computed :
      (task.analyze.toOption.any fun analysis =>
        analysis.idiomaticCount == 1 &&
          analysis.detections.map Detection.origin == [.native, .eslint]) = true := by
    decide +kernel
  obtain ⟨analysis, ended, passed⟩ := exists_ok_of_any computed
  obtain ⟨counted, origins⟩ := Bool.and_eq_true_iff.1 passed
  obtain ⟨marks, bound⟩ := marks_consistent task analysis ended
  rw [eq_of_beq counted] at bound
  exact ⟨analysis, ended, eq_of_beq counted, eq_of_beq origins, marks, bound⟩

end Task

end SnippetTutor
