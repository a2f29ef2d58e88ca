import SnippetTutor.Proofs.Engine
import SnippetTutor.Proofs.Reading
import SnippetTutor.Proofs.Report
import SnippetTutor.Proofs.Settings

/-!
# How an analysis is put together

The detections of an analysis are three blocks in a row: those of the rules that look at syntax,
those of the linter, and those of the rules that follow values. Its diagnostics begin with what
reading complained about; then come the complaints of the blocks, in the same order.

* `Task.ruleBlock` and `Task.lintBlock` say what the blocks hold, from the reading, the rules and
  the linter's process alone, and `Task.ruleComplaints` and `Task.lintComplaint?` what goes wrong
  with them;
* `Task.steps_of_analyze` takes an analysis apart into these, and `Task.exists_analysis_of_cut` says
  when there is one;
* `Task.Assembled` is the whole statement, `Task.assembled_of_analyze` proves it of every analysis,
  and `Task.analyze_assembles` adds that there is one whenever the limits are whole numbers;
* `Detection.MadeIn` lists the ways in which a detection can come about, and
  `Task.madeIn_of_mem_analysis` says that there are no others.
-/

namespace SnippetTutor

/-! ### Rules and collections -/

namespace Detectors

/-- Every rule runs a detector of a collection. -/
theorem mem_allRules {rule : Rule Subject} :
    rule ∈ allRules ↔
      ∃ collection ∈ allCollections, ∃ detector ∈ collection.detectors,
        detector.toRule collection.suite = rule := by
  simp [allRules, Collection.rules]

theorem order_allCollections :
    allCollections.Pairwise fun first second => first.suite.order < second.suite.order := by
  decide

/-- Detections on syntax and detections on the flow of data are filed apart. -/
theorem origin_of_mem {collection : Collection} (known : collection ∈ allCollections) :
    collection.suite.origin = .native ∨
      collection.suite.origin = .dataflow ∧ collection ∈ hazardCollections := by
  have syntactic : ∀ collection ∈ syntacticCollections, collection.suite.origin = .native := by
    decide
  have hazardous : ∀ collection ∈ hazardCollections, collection.suite.origin = .dataflow := by
    decide
  rcases List.mem_append.1 known with early | late
  · exact .inl (syntactic collection early)
  · exact .inr ⟨hazardous collection late, late⟩

/-- Rules run in the order of their suites. -/
theorem order_allRules :
    allRules.Pairwise fun first second => first.suite.order ≤ second.suite.order := by
  rw [allRules, List.pairwise_flatMap]
  constructor
  · intro collection _
    rw [Collection.rules, List.pairwise_map]
    exact List.pairwise_of_forall fun _ _ => Nat.le_refl _
  · refine order_allCollections.imp fun {first second} before rule listed rule' listed' => ?_
    obtain ⟨detector, -, rfl⟩ := List.mem_map.1 listed
    obtain ⟨detector', -, rfl⟩ := List.mem_map.1 listed'
    exact Nat.le_of_lt before

/-- No suite has a name that begins with a capital `A`. -/
theorem head?_suite_name :
    ∀ collection ∈ allCollections,
      collection.suite.name.toList.head?.any (fun c => c != 'A') = true := by
  decide +kernel

/-- The diagnostic about a rule that failed is not one about the analysis as a whole. -/
theorem failure_ne_aborted {rule : Rule Subject} (listed : rule ∈ allRules) (fault : Fault)
    (reason : String) : (rule.failure fault).message ≠ "Analysis aborted: " ++ reason := by
  obtain ⟨collection, known, detector, -, rfl⟩ := mem_allRules.1 listed
  have capital := head?_suite_name collection known
  intro same
  have heads := congrArg (fun text : String => text.toList.head?) same
  simp only [Rule.failure, Detector.toRule, String.toList_append, List.append_assoc] at heads
  cases spelled : collection.suite.name.toList with
  | nil => rw [spelled] at capital; cases capital
  | cons c rest =>
    rw [spelled] at capital heads
    have first : some c = some 'A' := heads
    cases first
    cases capital

end Detectors

theorem Dialect.ofName?_name (dialect : Dialect) :
    Dialect.ofName? dialect.name = some dialect := by
  cases dialect <;> decide

/-- How a detection can come about in the analysis of a reading. -/
inductive Detection.MadeIn (reading : Reading) : Detection → Prop where
  | byLinter {detection : Detection} (reported : Linter.Reported detection) :
      MadeIn reading detection
  | byDetector {parsed : Parsed} (read : reading.parsed = some parsed)
      {collection : Collection} (known : collection ∈ Detectors.allCollections)
      {detector : Detector} (held : detector ∈ collection.detectors)
      (fits : reading.profile.isReact = true ∨ collection.suite.requiresReact = false)
      {limits : SearchLimits} {found : List Detection}
      (ran : detector.run (Subject.ofParsed limits parsed) = .ok found)
      {original : Detection} (made : original ∈ found) :
      MadeIn reading (original.filedUnder collection.suite.origin)

namespace Task

/-! ### Blocks -/

/-- What the rules of one analysis find in a reading. Every rule that belongs to the analysis and
fits the snippet contributes what it finds, in the order of the rules; where nothing was read,
nothing is found. -/
def ruleBlock (origin : Origin) (limits : Limits) (reading : Reading) : List Detection :=
  match reading.parsed with
  | none => []
  | some parsed =>
    Engine.contributions
      (Detectors.allRules.filter fun rule =>
        rule.suite.origin = origin ∧
          (reading.profile.isReact = true ∨ rule.suite.requiresReact = false))
      origin (Subject.ofParsed limits.search parsed)

/-- What the linter hands over; nothing when its run ends with a fault. -/
def lintBlock (settings : Linter.Settings) (execution : Linter.Execution) : List Detection :=
  match settings.run execution with
  | .ok run => run.detections
  | .error _ => []

theorem detections_detect (origin : Origin) (limits : Limits) (reading : Reading)
    (earlier : List Diagnostic) :
    (detect origin reading.profile.isReact earlier
      (reading.parsed.map (Subject.ofParsed limits.search))).detections =
      ruleBlock origin limits reading := by
  unfold ruleBlock
  cases reading.parsed with
  | none => rfl
  | some parsed =>
    show (Engine.run _ _ _ _ _).detections = _
    rw [Engine.detections_run]
    congr 1
    apply List.filter_congr
    intro rule _
    rw [Bool.eq_iff_iff]
    simp [Rule.applies]

theorem detections_lint (settings : Linter.Settings) (execution : Linter.Execution)
    (earlier : List Diagnostic) :
    (lint settings execution earlier).detections = lintBlock settings execution := by
  unfold lint lintBlock
  cases settings.run execution with
  | error fault => rfl
  | ok run => cases run <;> rfl

/-- A detection of a block of rules was made by a detector that fits the snippet. -/
theorem madeIn_of_mem_ruleBlock {origin : Origin} {limits : Limits} {reading : Reading}
    {detection : Detection} (member : detection ∈ ruleBlock origin limits reading) :
    detection.MadeIn reading := by
  unfold ruleBlock at member
  cases read : reading.parsed with
  | none =>
    rw [read] at member
    exact absurd member List.not_mem_nil
  | some parsed =>
    rw [read] at member
    obtain ⟨rule, selected, made⟩ := List.mem_flatMap.1 member
    obtain ⟨original, found, rfl⟩ := List.mem_map.1 made
    obtain ⟨listed, applies⟩ := List.mem_filter.1 selected
    obtain ⟨rfl, fits⟩ := of_decide_eq_true applies
    obtain ⟨collection, known, detector, held, rfl⟩ := Detectors.mem_allRules.1 listed
    obtain ⟨detections, ran, inside⟩ := Rule.exists_run_of_mem_found found
    obtain ⟨_, ran, same⟩ := map_eq_ok.1 ran
    cases same
    exact .byDetector read known held fits ran inside

/-- A detection of the linter's block is of the linter's shape. -/
theorem reported_of_mem_lintBlock {settings : Linter.Settings} {execution : Linter.Execution}
    {detection : Detection} (member : detection ∈ lintBlock settings execution) :
    Linter.Reported detection := by
  unfold lintBlock at member
  cases ended : settings.run execution with
  | error fault =>
    rw [ended] at member
    exact absurd member List.not_mem_nil
  | ok run =>
    rw [ended] at member
    exact Linter.Settings.reported_of_run ended member

/-! ### Complaints -/

/-- What goes wrong with the rules of one analysis: one diagnostic for every rule that fails. -/
def ruleComplaints (origin : Origin) (limits : Limits) (reading : Reading) : List Diagnostic :=
  match reading.parsed with
  | none => []
  | some parsed =>
    Engine.complaints (Engine.applicable Detectors.allRules origin reading.profile.isReact)
      (Subject.ofParsed limits.search parsed)

/-- What goes wrong with the linter. -/
def lintComplaint? (settings : Linter.Settings) (execution : Linter.Execution) :
    Option Diagnostic :=
  match settings.run execution with
  | .ok (.completed _) => none
  | .ok (.failed reason) => some { message := reason, kind := .ruleEngine }
  | .error fault =>
    some { message := "ESLint adapter failed: " ++ fault.describe, kind := .ruleEngine }

theorem diagnostics_detect (origin : Origin) (limits : Limits) (reading : Reading)
    (earlier : List Diagnostic) :
    (detect origin reading.profile.isReact earlier
      (reading.parsed.map (Subject.ofParsed limits.search))).diagnostics =
      earlier ++ ruleComplaints origin limits reading := by
  unfold ruleComplaints
  cases reading.parsed with
  | none => exact (List.append_nil earlier).symm
  | some parsed => exact Engine.diagnostics_run _ _ _ _ _

theorem diagnostics_lint (settings : Linter.Settings) (execution : Linter.Execution)
    (earlier : List Diagnostic) :
    (lint settings execution earlier).diagnostics =
      earlier ++ (lintComplaint? settings execution).toList := by
  unfold lint lintComplaint?
  cases settings.run execution with
  | error fault => rfl
  | ok run => cases run <;> simp

/-- What goes wrong with the rules of one analysis are failures of single rules. -/
theorem exists_failure_of_mem_ruleComplaints {origin : Origin} {limits : Limits}
    {reading : Reading} {diagnostic : Diagnostic}
    (member : diagnostic ∈ ruleComplaints origin limits reading) :
    ∃ rule ∈ Detectors.allRules, ∃ fault, diagnostic = rule.failure fault := by
  unfold ruleComplaints at member
  cases read : reading.parsed with
  | none =>
    rw [read] at member
    exact absurd member List.not_mem_nil
  | some parsed =>
    rw [read] at member
    obtain ⟨rule, applicable, failed⟩ := List.mem_filterMap.1 member
    obtain ⟨fault, -, rfl⟩ := Rule.failure?_eq_some failed
    exact ⟨rule, (Engine.mem_applicable.1 applicable).1, fault, rfl⟩

theorem kind_of_lintComplaint? {settings : Linter.Settings} {execution : Linter.Execution}
    {diagnostic : Diagnostic} (complaint : lintComplaint? settings execution = some diagnostic) :
    diagnostic.kind = .ruleEngine := by
  unfold lintComplaint? at complaint
  split at complaint
  · cases complaint
  · cases complaint
    rfl
  · cases complaint
    rfl

theorem kind_of_mem_reading {task : Task} {limits : Limits} {diagnostic : Diagnostic}
    (member : diagnostic ∈ (task.reading limits).diagnostics) : diagnostic.kind = .parse := by
  unfold reading at member
  split at member
  · rename_i read
    exact Reading.kind_of_mem_read read member
  · exact Reading.kind_of_mem_failure (fun _ absent => absurd absent List.not_mem_nil) member

/-- There is a complaint about the dialect exactly when its name is unknown. -/
theorem dialectDiagnostics_eq (task : Task) :
    task.dialectDiagnostics =
      match task.dialect with
      | none => []
      | some name =>
        if (Dialect.ofName? name).isSome then []
        else [{ message := "Unknown dialect '" ++ name ++ "'; detecting instead" }] := by
  unfold dialectDiagnostics hint
  cases task.dialect with
  | none => rfl
  | some name =>
    simp only [Option.bind_some]
    cases Dialect.ofName? name <;> rfl

/-- Tasks in the same dialect have the same complaints about it. -/
theorem dialectDiagnostics_congr {first second : Task} (same : first.dialect = second.dialect) :
    first.dialectDiagnostics = second.dialectDiagnostics := by
  rw [dialectDiagnostics_eq, dialectDiagnostics_eq, same]

theorem kind_of_mem_dialectDiagnostics {task : Task} {diagnostic : Diagnostic}
    (member : diagnostic ∈ task.dialectDiagnostics) : diagnostic.kind = .parse := by
  rw [dialectDiagnostics_eq] at member
  split at member
  · exact absurd member List.not_mem_nil
  · split at member
    · exact absurd member List.not_mem_nil
    · rw [List.mem_singleton.1 member]

/-! ### The whole -/

/-- How an analysis is put together. -/
structure Assembled (task : Task) (limits : Limits) (settings : Linter.Settings)
    (analysis : Analysis) : Prop where
  reading_eq : analysis.reading = task.reading limits
  /-- Three blocks in a row. -/
  detections_eq : analysis.detections =
    ruleBlock .native limits analysis.reading ++ lintBlock settings task.execution ++
      ruleBlock .dataflow limits analysis.reading
  /-- The rules of a block come in the order of their suites. -/
  rules_ordered :
    Detectors.allRules.Pairwise fun first second => first.suite.order ≤ second.suite.order
  lint_origin : ∀ detection ∈ lintBlock settings task.execution, detection.origin = .eslint
  unread : analysis.reading.parsed = none →
    ∀ origin, ruleBlock origin limits analysis.reading = []
  /-- A snippet that does not belong to React is left alone by the rules for React. -/
  without_react : analysis.reading.profile.isReact = false →
    ∀ origin parsed, analysis.reading.parsed = some parsed →
      ruleBlock origin limits analysis.reading =
        Engine.contributions
          (Detectors.allRules.filter fun rule =>
            rule.suite.origin = origin ∧ rule.suite.requiresReact = false)
          origin (Subject.ofParsed limits.search parsed)
  /-- Complaints about reading come first, and only there. -/
  diagnostics_eq : ∃ complaints,
    analysis.diagnostics =
      analysis.reading.diagnostics ++ task.dialectDiagnostics ++ complaints ∧
    (∀ diagnostic ∈ analysis.reading.diagnostics ++ task.dialectDiagnostics,
      diagnostic.kind = .parse) ∧
    ∀ diagnostic ∈ complaints, diagnostic.kind ≠ .parse
  /-- A dialect is known by its name. -/
  dialect_known : ∀ dialect : Dialect, task.dialect = some dialect.name →
    task.hint = some dialect
  /-- The only other complaint about reading is that the dialect is unknown. -/
  dialect_eq : task.dialectDiagnostics =
    match task.dialect with
    | none => []
    | some name =>
      if (Dialect.ofName? name).isSome then []
      else [{ message := "Unknown dialect '" ++ name ++ "'; detecting instead" }]
  /-- No analysis is given up as a whole. -/
  not_aborted : ∀ reason,
    { message := "Analysis aborted: " ++ reason, kind := .detector } ∉ analysis.diagnostics

/-- The steps of an analysis that came to an end. -/
theorem steps_of_analyze {task : Task} {analysis : Analysis}
    (ended : task.analyze = .ok analysis) :
    ∃ limits settings, task.limits = .ok limits ∧ task.linterSettings = .ok settings ∧
      analysis.reading = task.reading limits ∧
      analysis.detections =
        ruleBlock .native limits analysis.reading ++ lintBlock settings task.execution ++
          ruleBlock .dataflow limits analysis.reading ∧
      analysis.diagnostics = analysis.reading.diagnostics ++ task.dialectDiagnostics ++
        (ruleComplaints .native limits analysis.reading ++
          (lintComplaint? settings task.execution).toList ++
          ruleComplaints .dataflow limits analysis.reading) := by
  obtain ⟨limits, limited, ended⟩ := bind_eq_ok.1 ended
  obtain ⟨settings, set, ended⟩ := bind_eq_ok.1 ended
  obtain ⟨topIssues, -, rfl⟩ := map_eq_ok.1 ended
  refine ⟨limits, settings, limited, set, rfl, ?_, ?_⟩
  · show (detect _ _ _ _).detections ++ (lint _ _ _).detections ++ (detect _ _ _ _).detections = _
    rw [detections_detect, detections_detect, detections_lint]
  · show (detect _ _ _ _).diagnostics = _
    rw [diagnostics_detect, diagnostics_lint, diagnostics_detect]
    simp only [List.append_assoc]

/-- An analysis comes to an end if its settings can be read and lists can be cut to its limit. -/
theorem exists_analysis_of_cut {task : Task} {limits : Limits} {settings : Linter.Settings}
    (limited : task.limits = .ok limits) (set : task.linterSettings = .ok settings)
    (cuts : ∀ issues : List Detection, ∃ part, limits.topIssues.cut issues = .ok part) :
    ∃ analysis, task.analyze = .ok analysis := by
  have summary : ∀ reading detections diagnostics, ∃ analysis,
      Analysis.summarize reading detections diagnostics limits.topIssues = .ok analysis := by
    intro reading detections diagnostics
    obtain ⟨part, cut⟩ := cuts (Analysis.issuesOf detections)
    exact ⟨_, map_eq_ok.2 ⟨part, cut, rfl⟩⟩
  unfold analyze
  rw [limited, set]
  exact summary _ _ _

/-- An analysis comes to an end if the limits are whole numbers. -/
theorem exists_analysis (task : Task) (config : Config)
    (given : config.toJson = .object task.config) (whole : config.HasWholeLimits) :
    ∃ analysis, task.analyze = .ok analysis := by
  obtain ⟨limits, limited, cuts⟩ := exists_limits given whole
  obtain ⟨settings, set⟩ := exists_linterSettings given
  exact exists_analysis_of_cut limited set cuts

/-- Every analysis is put together in this way. -/
theorem assembled_of_analyze {task : Task} {analysis : Analysis}
    (ended : task.analyze = .ok analysis) :
    ∃ limits settings, task.limits = .ok limits ∧ task.linterSettings = .ok settings ∧
      task.Assembled limits settings analysis := by
  obtain ⟨limits, settings, limited, set, read, detections, diagnostics⟩ := steps_of_analyze ended
  have parsing : ∀ diagnostic ∈ analysis.reading.diagnostics ++ task.dialectDiagnostics,
      diagnostic.kind = .parse := by
    intro diagnostic member
    rcases List.mem_append.1 member with early | late
    · rw [read] at early
      exact kind_of_mem_reading early
    · exact kind_of_mem_dialectDiagnostics late
  refine ⟨limits, settings, limited, set, read, detections, Detectors.order_allRules, ?_, ?_, ?_,
    ⟨_, diagnostics, parsing, ?_⟩, ?_, task.dialectDiagnostics_eq, ?_⟩
  · intro detection member
    exact (reported_of_mem_lintBlock member).origin
  · intro nothing origin
    rw [ruleBlock, nothing]
  · intro plain origin parsed parsed_eq
    rw [ruleBlock, parsed_eq]
    simp [plain]
  · intro diagnostic member
    rcases List.mem_append.1 member with early | late
    · rcases List.mem_append.1 early with native | linted
      · obtain ⟨rule, -, fault, rfl⟩ := exists_failure_of_mem_ruleComplaints native
        exact DiagnosticKind.noConfusion
      · rw [kind_of_lintComplaint? (Option.mem_toList.1 linted)]
        decide
    · obtain ⟨rule, -, fault, rfl⟩ := exists_failure_of_mem_ruleComplaints late
      exact DiagnosticKind.noConfusion
  · intro dialect named
    rw [hint, named]
    exact dialect.ofName?_name
  · -- Of the three sources only rules complain as detectors do, and each names itself.
    intro reason member
    rw [diagnostics] at member
    rcases List.mem_append.1 member with early | late
    · cases parsing _ early
    · rcases List.mem_append.1 late with early | late
      · rcases List.mem_append.1 early with native | linted
        · obtain ⟨rule, listed, fault, same⟩ := exists_failure_of_mem_ruleComplaints native
          exact Detectors.failure_ne_aborted listed fault reason (congrArg _ same).symm
        · cases kind_of_lintComplaint? (Option.mem_toList.1 linted)
      · obtain ⟨rule, listed, fault, same⟩ := exists_failure_of_mem_ruleComplaints late
        exact Detectors.failure_ne_aborted listed fault reason (congrArg _ same).symm

/-- Every detection of an analysis was made in one of the blocks. -/
theorem madeIn_of_mem_analysis {task : Task} {analysis : Analysis}
    (ended : task.analyze = .ok analysis) {detection : Detection}
    (member : detection ∈ analysis.detections) : detection.MadeIn analysis.reading := by
  obtain ⟨limits, settings, -, -, -, detections, -⟩ := steps_of_analyze ended
  rw [detections] at member
  rcases List.mem_append.1 member with early | late
  · rcases List.mem_append.1 early with native | linted
    · exact madeIn_of_mem_ruleBlock native
    · exact .byLinter (reported_of_mem_lintBlock linted)
  · exact madeIn_of_mem_ruleBlock late

end Task

end SnippetTutor
