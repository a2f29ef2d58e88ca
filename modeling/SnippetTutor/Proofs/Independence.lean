import SnippetTutor.Proofs.Assembly

/-!
# The linter and the rest of an analysis

The linter runs between the two groups of rules, and everything writes to one list of diagnostics.
Still the linter leaves no trace outside its own share: what an analysis reads, what its rules find
and what goes wrong with them is the same however the linter is set up and however its process
goes. The linter itself either hands over its detections or complains, and never both.

* `Detection.isOwn` and `Diagnostic.isOwn` tell the linter's share from the rest, and
  `Task.shares_of_analyze` says what the two shares are;
* `Task.lintBlock_eq_nil`: a linter that complains hands over nothing;
* `Task.SameApartFromLinter`: two tasks that differ in nothing but the linter;
* `Task.linter_isolated` puts them together.
-/

namespace SnippetTutor

/-- Whether a detection does not come from the linter. -/
def Detection.isOwn (detection : Detection) : Bool := detection.origin ≠ .eslint

/-- Whether a diagnostic is not about the linter. -/
def Diagnostic.isOwn (diagnostic : Diagnostic) : Bool := diagnostic.kind ≠ .ruleEngine

/-- A list in three parts is split by a test that only the outer parts pass. -/
theorem filter_between {α : Type} {test : α → Bool} {front middle back : List α}
    (passed : ∀ item ∈ front ++ back, test item = true)
    (failed : ∀ item ∈ middle, test item = false) :
    (front ++ middle ++ back).filter test = front ++ back ∧
      ((front ++ middle ++ back).filter fun item => !test item) = middle := by
  have outer : ∀ part, part ⊆ front ++ back →
      part.filter test = part ∧ (part.filter fun item => !test item) = [] := by
    intro part inside
    rw [List.filter_eq_self, List.filter_eq_nil_iff]
    constructor <;> intro item member <;> simp [passed item (inside member)]
  have inner : middle.filter test = [] ∧ (middle.filter fun item => !test item) = middle := by
    rw [List.filter_eq_self, List.filter_eq_nil_iff]
    constructor <;> intro item member <;> simp [failed item member]
  obtain ⟨kept, dropped⟩ := outer front (List.subset_append_left front back)
  obtain ⟨kept', dropped'⟩ := outer back (List.subset_append_right front back)
  simp only [List.filter_append, kept, dropped, kept', dropped', inner, List.append_nil,
    List.nil_append, and_self]

namespace Task

/-! ### Shares -/

section

variable {limits : Limits} {reading : Reading} {settings : Linter.Settings}
  {execution : Linter.Execution}

/-- Detections of rules are filed under the analysis of the rules, and so are not the linter's. -/
theorem isOwn_of_mem_ruleBlock {origin : Origin} (other : origin ≠ .eslint)
    {detection : Detection} (member : detection ∈ ruleBlock origin limits reading) :
    detection.isOwn = true := by
  unfold ruleBlock at member
  cases read : reading.parsed with
  | none =>
    rw [read] at member
    exact absurd member List.not_mem_nil
  | some parsed =>
    rw [read] at member
    obtain ⟨rule, -, made⟩ := List.mem_flatMap.1 member
    obtain ⟨original, -, rfl⟩ := List.mem_map.1 made
    exact decide_eq_true other

theorem isOwn_of_mem_lintBlock {detection : Detection}
    (member : detection ∈ lintBlock settings execution) : detection.isOwn = false := by
  rw [Detection.isOwn, (reported_of_mem_lintBlock member).origin]
  rfl

theorem isOwn_of_mem_ruleComplaints {origin : Origin} {diagnostic : Diagnostic}
    (member : diagnostic ∈ ruleComplaints origin limits reading) : diagnostic.isOwn = true := by
  obtain ⟨rule, -, fault, rfl⟩ := exists_failure_of_mem_ruleComplaints member
  rfl

theorem isOwn_of_lintComplaint? {complaint : Diagnostic}
    (complains : lintComplaint? settings execution = some complaint) :
    complaint.isOwn = false := by
  rw [Diagnostic.isOwn, kind_of_lintComplaint? complains]
  rfl

/-- A linter that complains hands over nothing, not even the part of a report that could be
read. -/
theorem lintBlock_eq_nil {complaint : Diagnostic}
    (complains : lintComplaint? settings execution = some complaint) :
    lintBlock settings execution = [] := by
  unfold lintComplaint? at complains
  unfold lintBlock
  cases ended : settings.run execution with
  | error fault => rfl
  | ok run =>
    cases run with
    | failed reason => rfl
    | completed detections =>
      rw [ended] at complains
      cases complains

/-- Diagnostics about reading are not about the linter. -/
theorem isOwn_of_mem_parsing {task : Task} {diagnostic : Diagnostic}
    (member : diagnostic ∈ (task.reading limits).diagnostics ++ task.dialectDiagnostics) :
    diagnostic.isOwn = true := by
  have parsing : diagnostic.kind = .parse := by
    rcases List.mem_append.1 member with early | late
    · exact kind_of_mem_reading early
    · exact kind_of_mem_dialectDiagnostics late
  rw [Diagnostic.isOwn, parsing]
  rfl

end

/-- What an analysis holds apart from the linter's share, and that share. -/
theorem shares_of_analyze {task : Task} {analysis : Analysis}
    (ended : task.analyze = .ok analysis) :
    ∃ limits settings, task.limits = .ok limits ∧ task.linterSettings = .ok settings ∧
      analysis.reading = task.reading limits ∧
      (analysis.detections.filter Detection.isOwn =
          ruleBlock .native limits analysis.reading ++
            ruleBlock .dataflow limits analysis.reading ∧
        (analysis.detections.filter fun detection => !detection.isOwn) =
          lintBlock settings task.execution) ∧
      (analysis.diagnostics.filter Diagnostic.isOwn =
          analysis.reading.diagnostics ++ task.dialectDiagnostics ++
            ruleComplaints .native limits analysis.reading ++
            ruleComplaints .dataflow limits analysis.reading ∧
        (analysis.diagnostics.filter fun diagnostic => !diagnostic.isOwn) =
          (lintComplaint? settings task.execution).toList) := by
  obtain ⟨limits, settings, limited, set, read, detections, diagnostics⟩ := steps_of_analyze ended
  refine ⟨limits, settings, limited, set, read, ?_, ?_⟩
  · rw [detections]
    apply filter_between
    · intro detection member
      rcases List.mem_append.1 member with native | dataflow
      · exact isOwn_of_mem_ruleBlock (by decide) native
      · exact isOwn_of_mem_ruleBlock (by decide) dataflow
    · intro detection member
      exact isOwn_of_mem_lintBlock member
  · rw [diagnostics, ← List.append_assoc, ← List.append_assoc]
    apply filter_between
    · intro diagnostic member
      rcases List.mem_append.1 member with early | dataflow
      · rcases List.mem_append.1 early with parsing | native
        · rw [read] at parsing
          exact isOwn_of_mem_parsing parsing
        · exact isOwn_of_mem_ruleComplaints native
      · exact isOwn_of_mem_ruleComplaints dataflow
    · intro complaint member
      exact isOwn_of_lintComplaint? (Option.mem_toList.1 member)

/-! ### Two tasks -/

/-- Two tasks that differ at most in whether the linter runs, in how it is set up and in how its
process goes. -/
structure SameApartFromLinter (first second : Task) : Prop where
  source_eq : first.source = second.source
  parses_eq : first.parses = second.parses
  dialect_eq : first.dialect = second.dialect
  config_eq : ∀ name, name ≠ "eslint" →
    Keyed.get? first.config name = Keyed.get? second.config name

namespace SameApartFromLinter

variable {first second : Task} (same : first.SameApartFromLinter second)

include same

theorem limits_eq : first.limits = second.limits := by
  unfold Task.limits sectionValues
  rw [same.config_eq "limits" (by decide)]

theorem reading_eq (limits : Limits) : first.reading limits = second.reading limits := by
  unfold Task.reading hint
  rw [same.dialect_eq, same.parses_eq, same.source_eq]

end SameApartFromLinter

end Task

/-- Whether a list can be cut to a limit does not depend on the list. -/
theorem Bound.exists_cut_of_cut {α : Type} {bound : Bound} {items part : List α}
    (ended : bound.cut items = .ok part) (others : List α) :
    ∃ part, bound.cut others = .ok part := by
  cases bound with
  | absent => exact ⟨_, rfl⟩
  | int value => exact ⟨_, rfl⟩
  | flag value => exact ⟨_, rfl⟩
  | real value => cases ended
  | incomparable type => cases ended

namespace Task

/-- An analysis comes to an end with any settings of the linter if it does with some. -/
theorem SameApartFromLinter.exists_analysis {first second : Task}
    (same : first.SameApartFromLinter second) {analysis : Analysis}
    (ended : first.analyze = .ok analysis) {settings : Linter.Settings}
    (set : second.linterSettings = .ok settings) :
    ∃ analysis, second.analyze = .ok analysis := by
  obtain ⟨limits, limited, ended⟩ := bind_eq_ok.1 ended
  obtain ⟨_, -, ended⟩ := bind_eq_ok.1 ended
  obtain ⟨topIssues, cut, -⟩ := map_eq_ok.1 ended
  rw [same.limits_eq] at limited
  exact exists_analysis_of_cut limited set (Bound.exists_cut_of_cut cut)

/-! ### Main statement -/

/-- The linter cannot interfere with the rest of an analysis, and fails as a whole. Two tasks that
differ only in the linter have the same reading, and apart from the linter's share the same
detections and the same diagnostics; the second comes to an end if the first does and its settings
can be read. In every analysis the linter complains at most once, and when it does it has found
nothing. -/
theorem linter_isolated :
    (∀ first second : Task, first.SameApartFromLinter second →
      ∀ analysis, first.analyze = .ok analysis →
        (∀ settings, second.linterSettings = .ok settings →
          ∃ analysis', second.analyze = .ok analysis') ∧
        ∀ analysis', second.analyze = .ok analysis' →
          analysis.reading = analysis'.reading ∧
          (analysis.detections.filter fun detection => detection.origin ≠ .eslint) =
            (analysis'.detections.filter fun detection => detection.origin ≠ .eslint) ∧
          (analysis.diagnostics.filter fun diagnostic => diagnostic.kind ≠ .ruleEngine) =
            (analysis'.diagnostics.filter fun diagnostic => diagnostic.kind ≠ .ruleEngine)) ∧
    ∀ (task : Task) (analysis : Analysis), task.analyze = .ok analysis →
      (analysis.diagnostics.countP fun diagnostic => diagnostic.kind = .ruleEngine) ≤ 1 ∧
      ((∃ diagnostic ∈ analysis.diagnostics, diagnostic.kind = .ruleEngine) →
        ∀ detection ∈ analysis.detections, detection.origin ≠ .eslint) := by
  constructor
  · intro first second same analysis ended
    refine ⟨fun settings set => same.exists_analysis ended set, ?_⟩
    intro analysis' ended'
    obtain ⟨limits, -, limited, -, read, ⟨found, -⟩, complaints, -⟩ := shares_of_analyze ended
    obtain ⟨limits', -, limited', -, read', ⟨found', -⟩, complaints', -⟩ :=
      shares_of_analyze ended'
    obtain rfl : limits = limits' := by
      rw [same.limits_eq, limited'] at limited
      exact (Except.ok.inj limited).symm
    have reading : analysis.reading = analysis'.reading := by
      rw [read, read', same.reading_eq]
    refine ⟨reading, ?_, ?_⟩
    · exact found.trans (reading ▸ found'.symm)
    · rw [reading, dialectDiagnostics_congr same.dialect_eq] at complaints
      exact complaints.trans complaints'.symm
  · intro task analysis ended
    obtain ⟨-, settings, -, -, -, ⟨-, found⟩, -, complaints⟩ := shares_of_analyze ended
    constructor
    · have foreign : ∀ diagnostic ∈ analysis.diagnostics,
          decide (diagnostic.kind = .ruleEngine) = true ↔ (!diagnostic.isOwn) = true := by
        intro diagnostic _
        simp [Diagnostic.isOwn]
      rw [List.countP_congr foreign, List.countP_eq_length_filter, complaints]
      exact Option.length_toList_le
    · rintro ⟨complaint, member, kind⟩ detection listed origin
      have complains : lintComplaint? settings task.execution = some complaint := by
        apply Option.mem_toList.1
        rw [← complaints, List.mem_filter]
        exact ⟨member, by simp [Diagnostic.isOwn, kind]⟩
      have linted : detection ∈ lintBlock settings task.execution := by
        rw [← found, List.mem_filter]
        exact ⟨listed, by simp [Detection.isOwn, origin]⟩
      rw [lintBlock_eq_nil complains] at linted
      cases linted

/-- A report of which one message cannot be read, against the same report without that message. -/
theorem linter_isolated_malformed :
    let task : Task :=
      { source := .text "this"
        parses := fun _ => some (.node { name := "program", stop := 4 }
          [.node { name := "this", stop := 4, text := "this" } []])
        linting := some true
        execution := .finished "[\x7b\"messages\": [\x7b\"ruleId\": \"no-var\"\x7d, 5]\x7d]" "" 1 }
    let other : Task :=
      { task with
        config := [("eslint", .object [("timeout", .int 5)])]
        execution := .finished "[\x7b\"messages\": [\x7b\"ruleId\": \"no-var\"\x7d]\x7d]" "" 1 }
    task.SameApartFromLinter other ∧
      ∃ analysis analysis', task.analyze = .ok analysis ∧ other.analyze = .ok analysis' ∧
        analysis'.detections.map Detection.origin = [.native, .eslint] ∧
        (analysis.detections.filter fun detection => detection.origin ≠ .eslint) =
          (analysis'.detections.filter fun detection => detection.origin ≠ .eslint) ∧
        (analysis.diagnostics.countP fun diagnostic => diagnostic.kind = .ruleEngine) = 1 ∧
        ∀ detection ∈ analysis.detections, detection.origin ≠ .eslint := by
  intro task other
  have same : task.SameApartFromLinter other := by
    refine ⟨rfl, rfl, rfl, fun name foreign => ?_⟩
    have apart : "eslint" ≠ name := Ne.symm foreign
    simp [task, other, Keyed.get?_cons, apart]
  have computed :
      (task.analyze.toOption.any fun analysis =>
        (analysis.diagnostics.countP fun diagnostic => diagnostic.kind = .ruleEngine) = 1) =
        true := by
    decide +kernel
  have computed' :
      (other.analyze.toOption.any fun analysis =>
        analysis.detections.map Detection.origin = [.native, .eslint]) = true := by
    decide +kernel
  obtain ⟨analysis, ended, complained⟩ := exists_ok_of_any computed
  obtain ⟨analysis', ended', origins⟩ := exists_ok_of_any computed'
  have counted := of_decide_eq_true complained
  obtain ⟨interference, failure⟩ := linter_isolated
  obtain ⟨-, found, -⟩ := (interference task other same analysis ended).2 analysis' ended'
  obtain ⟨diagnostic, member, kind⟩ := List.countP_pos_iff.1 (counted ▸ Nat.zero_lt_one)
  refine ⟨same, analysis, analysis', ended, ended', of_decide_eq_true origins, found, counted, ?_⟩
  exact (failure task analysis ended).2 ⟨diagnostic, member, of_decide_eq_true kind⟩

end Task

end SnippetTutor
