import SnippetTutor.Detector.Basic

/-!
# Hazards

A hazard is a finding that is always against the code: it stands at a construct, says what can go
wrong there, and may be of little weight. A detector of hazards reports nothing else
(`Detector.negative_of_run_hazards`).
-/

namespace SnippetTutor

/-- Something that can go wrong at a construct. -/
structure Hazard (root : Tree) where
  site : Node root
  details : String
  minor : Bool := false

namespace Hazard

variable {root : Tree}

/-- The finding that a hazard is. -/
def toFinding (hazard : Hazard root) : Finding root :=
  .of (if hazard.minor then .minorBad else .bad) hazard.site hazard.details

theorem negative_toFinding (hazard : Hazard root) (topic : String) :
    (hazard.toFinding.toDetection topic).negative = true ∧
      (hazard.toFinding.toDetection topic).positive = false ∧
      (hazard.toFinding.toDetection topic).idiomatic = false := by
  unfold toFinding
  split <;> exact ⟨rfl, rfl, rfl⟩

/-- The first hazard for every name. -/
def oncePerName (candidates : List (String × Hazard root)) : List (Hazard root) :=
  (keepFirst Prod.fst candidates).map Prod.snd

theorem exists_name_of_mem_oncePerName {candidates : List (String × Hazard root)}
    {hazard : Hazard root} (member : hazard ∈ oncePerName candidates) :
    ∃ name, (name, hazard) ∈ candidates := by
  obtain ⟨⟨name, hazard⟩, kept, rfl⟩ := List.mem_map.1 member
  exact ⟨name, (keepFirst_sublist Prod.fst candidates).subset kept⟩

/-- There is a hazard for every name. -/
theorem exists_mem_oncePerName {candidates : List (String × Hazard root)} {name : String}
    {first : Hazard root} (listed : (name, first) ∈ candidates) :
    ∃ hazard ∈ oncePerName candidates, (name, hazard) ∈ candidates := by
  have kept : name ∈ (keepFirst Prod.fst candidates).map Prod.fst :=
    mem_map_keepUnseen.2 ⟨List.mem_map_of_mem listed, List.not_mem_nil⟩
  obtain ⟨⟨_, hazard⟩, member, rfl⟩ := List.mem_map.1 kept
  exact ⟨hazard, List.mem_map_of_mem member, (keepFirst_sublist Prod.fst candidates).subset member⟩

end Hazard

namespace Detector

/-- A detector of hazards that can fail. -/
def fallibleHazards (name topic : String)
    (find : {root : Tree} → Context root → Except Fault (List (Hazard root))) : Detector :=
  fallible name topic fun context => (find context).map fun hazards => hazards.map Hazard.toFinding

/-- A detector of hazards. -/
def hazards (name topic : String) (find : {root : Tree} → Context root → List (Hazard root)) :
    Detector :=
  fallibleHazards name topic fun context => .ok (find context)

/-- The detections of a detector of hazards are those of the hazards it finds. -/
theorem exists_hazard_of_run {name topic : String}
    {find : {root : Tree} → Context root → Except Fault (List (Hazard root))}
    {subject : Subject} {detections : List Detection}
    (ran : (fallibleHazards name topic find).run subject = .ok detections)
    {detection : Detection} (member : detection ∈ detections) :
    ∃ hazards, find subject.context = .ok hazards ∧
      ∃ hazard ∈ hazards, detection = hazard.toFinding.toDetection topic := by
  rw [fallibleHazards, run_fallible] at ran
  cases found : find subject.context with
  | error fault => rw [found] at ran; cases ran
  | ok hazards =>
    rw [found] at ran
    cases ran
    obtain ⟨finding, listed, rfl⟩ := List.mem_map.1 member
    obtain ⟨hazard, held, rfl⟩ := List.mem_map.1 listed
    exact ⟨hazards, rfl, hazard, held, rfl⟩

/-- A detector of hazards only reports against the code. -/
theorem negative_of_run_hazards {name topic : String}
    {find : {root : Tree} → Context root → Except Fault (List (Hazard root))}
    {subject : Subject} {detections : List Detection}
    (ran : (fallibleHazards name topic find).run subject = .ok detections)
    {detection : Detection} (member : detection ∈ detections) :
    detection.negative = true ∧ detection.positive = false ∧ detection.idiomatic = false := by
  obtain ⟨hazards, -, hazard, -, rfl⟩ := exists_hazard_of_run ran member
  exact hazard.negative_toFinding topic

end Detector

end SnippetTutor
