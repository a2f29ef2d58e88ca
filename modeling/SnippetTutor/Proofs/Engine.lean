import Mathlib.Data.List.Basic
import SnippetTutor.Detector.Engine

/-!
# What rules contribute to a run

A run of the engine is taken apart into its rules. A rule that succeeds contributes what it found,
filed under the analysis it belongs to; a rule that fails contributes one diagnostic.

* `Rule.found` and `Rule.failure?` are the two halves of what a rule does: one of them is always
  empty;
* `Engine.detections_step` and `Engine.diagnostics_step` say what one step adds, and
  `Engine.detections_foldl` and `Engine.diagnostics_foldl` what several steps add;
* `Engine.detections_run` and `Engine.diagnostics_run` say that a run adds these halves over the
  applicable rules, and `Engine.mem_applicable` which rules those are;
* `Engine.run_isolates`: rules do not disturb each other.
-/

namespace SnippetTutor

variable {σ : Type}

/-- A detection that is filed under an analysis. -/
def Detection.filedUnder (detection : Detection) (origin : Origin) : Detection :=
  { detection with origin := origin }

@[simp] theorem Detection.topic_filedUnder (detection : Detection) (origin : Origin) :
    (detection.filedUnder origin).topic = detection.topic := rfl

@[simp] theorem Detection.origin_filedUnder (detection : Detection) (origin : Origin) :
    (detection.filedUnder origin).origin = origin := rfl

namespace Rule

/-- What a rule finds; nothing when it fails. -/
def found (rule : Rule σ) (subject : σ) : List Detection :=
  match rule.run subject with
  | .ok found => found.getD []
  | .error _ => []

/-- The diagnostic about a rule that fails. -/
def failure? (rule : Rule σ) (subject : σ) : Option Diagnostic :=
  match rule.run subject with
  | .ok _ => none
  | .error fault => some (rule.failure fault)

/-- A diagnostic about a rule names the rule and the fault it ended with. -/
theorem failure?_eq_some {rule : Rule σ} {subject : σ} {diagnostic : Diagnostic}
    (failed : rule.failure? subject = some diagnostic) :
    ∃ fault, rule.run subject = .error fault ∧ diagnostic = rule.failure fault := by
  unfold failure? at failed
  cases ran : rule.run subject with
  | ok detections => rw [ran] at failed; cases failed
  | error fault =>
    rw [ran] at failed
    exact ⟨fault, rfl, (Option.some.inj failed).symm⟩

/-- What a rule finds is what its run returned. -/
theorem exists_run_of_mem_found {rule : Rule σ} {subject : σ} {detection : Detection}
    (member : detection ∈ rule.found subject) :
    ∃ detections, rule.run subject = .ok (some detections) ∧ detection ∈ detections := by
  unfold found at member
  cases ran : rule.run subject with
  | error fault =>
    rw [ran] at member
    exact absurd member List.not_mem_nil
  | ok detections? =>
    rw [ran] at member
    cases detections? with
    | none => exact absurd member List.not_mem_nil
    | some detections => exact ⟨detections, rfl, member⟩

end Rule

namespace Engine

/-- What rules find in a subject one after the other, filed under an analysis. -/
def contributions (rules : List (Rule σ)) (origin : Origin) (subject : σ) : List Detection :=
  rules.flatMap fun rule =>
    (rule.found subject).map fun detection => detection.filedUnder origin

/-- The diagnostics about the rules that fail on a subject, one after the other. -/
def complaints (rules : List (Rule σ)) (subject : σ) : List Diagnostic :=
  rules.filterMap fun rule => rule.failure? subject

theorem mem_applicable {rules : List (Rule σ)} {origin : Origin} {isReact : Bool}
    {rule : Rule σ} :
    rule ∈ applicable rules origin isReact ↔
      rule ∈ rules ∧ rule.suite.origin = origin ∧
        (isReact = true ∨ rule.suite.requiresReact = false) := by
  simp [applicable, Rule.applies]

/-! ### Steps and runs -/

/-- A step adds what the rule finds. -/
theorem detections_step (subject : σ) (outcome : Outcome) (rule : Rule σ) :
    (step subject outcome rule).detections =
      outcome.detections ++
        (rule.found subject).map fun detection => detection.filedUnder rule.suite.origin := by
  unfold step Rule.found
  cases rule.run subject with
  | ok found => rfl
  | error fault => simp

/-- A step adds the diagnostic about a rule that fails. -/
theorem diagnostics_step (subject : σ) (outcome : Outcome) (rule : Rule σ) :
    (step subject outcome rule).diagnostics =
      outcome.diagnostics ++ (rule.failure? subject).toList := by
  unfold step Rule.failure?
  cases rule.run subject with
  | ok found => simp
  | error fault => rfl

theorem detections_foldl (subject : σ) (rules : List (Rule σ)) (outcome : Outcome) :
    (rules.foldl (step subject) outcome).detections =
      outcome.detections ++ rules.flatMap fun rule =>
        (rule.found subject).map fun detection => detection.filedUnder rule.suite.origin := by
  induction rules generalizing outcome with
  | nil => simp
  | cons rule rest ih =>
    rw [List.foldl_cons, ih, detections_step, List.flatMap_cons, List.append_assoc]

theorem diagnostics_foldl (subject : σ) (rules : List (Rule σ)) (outcome : Outcome) :
    (rules.foldl (step subject) outcome).diagnostics =
      outcome.diagnostics ++ complaints rules subject := by
  induction rules generalizing outcome with
  | nil => simp [complaints]
  | cons rule rest ih =>
    rw [List.foldl_cons, ih, diagnostics_step, List.append_assoc]
    cases failed : rule.failure? subject <;> simp [complaints, failed]

/-- What a run finds: what every applicable rule finds, filed under the analysis of the run. -/
theorem detections_run (rules : List (Rule σ)) (origin : Origin) (isReact : Bool) (subject : σ)
    (earlier : List Diagnostic) :
    (run rules origin isReact subject earlier).detections =
      contributions (applicable rules origin isReact) origin subject := by
  rw [run, detections_foldl, List.nil_append]
  apply List.flatMap_congr
  intro rule member
  obtain ⟨-, same, -⟩ := mem_applicable.1 member
  rw [same]

/-- What goes wrong up to the end of a run: what went wrong earlier, then one diagnostic for every
applicable rule that fails. -/
theorem diagnostics_run (rules : List (Rule σ)) (origin : Origin) (isReact : Bool)
    (subject : σ) (earlier : List Diagnostic) :
    (run rules origin isReact subject earlier).diagnostics =
      earlier ++ complaints (applicable rules origin isReact) subject :=
  diagnostics_foldl subject _ _

/-- A run depends on its subject only through what the rules do with it. -/
theorem run_congr {rules : List (Rule σ)} {subject subject' : σ}
    (same : ∀ rule ∈ rules, rule.run subject = rule.run subject') (origin : Origin)
    (isReact : Bool) (earlier : List Diagnostic) :
    run rules origin isReact subject earlier = run rules origin isReact subject' earlier := by
  unfold run
  apply List.foldl_ext
  intro outcome rule member
  unfold step
  rw [same rule (mem_applicable.1 member).1]

/-! ### Rules on their own -/

section

variable {origin : Origin} {isReact : Bool} {subject : σ}

/-- What a run gives, in terms of the single rules. -/
theorem run_eq (rules : List (Rule σ)) (earlier : List Diagnostic) :
    run rules origin isReact subject earlier =
      { detections := contributions (applicable rules origin isReact) origin subject
        diagnostics := earlier ++ complaints (applicable rules origin isReact) subject } := by
  rw [← detections_run rules origin isReact subject earlier, ← diagnostics_run]

theorem applicable_append (first second : List (Rule σ)) :
    applicable (first ++ second) origin isReact =
      applicable first origin isReact ++ applicable second origin isReact :=
  List.filter_append ..

/-- One list of rules after another. -/
theorem run_append (first second : List (Rule σ)) (earlier : List Diagnostic) :
    run (first ++ second) origin isReact subject earlier =
      { detections :=
          contributions (applicable first origin isReact) origin subject ++
            contributions (applicable second origin isReact) origin subject
        diagnostics := earlier ++
          (complaints (applicable first origin isReact) subject ++
            complaints (applicable second origin isReact) subject) } := by
  rw [run_eq, applicable_append, contributions, List.flatMap_append, complaints,
    List.filterMap_append]
  rfl

/-- A rule that fails adds a diagnostic and nothing else. -/
theorem run_cons_of_failed {rule : Rule σ} {fault : Fault}
    (failed : rule.run subject = .error fault) (applies : rule.applies origin isReact = true)
    (rest : List (Rule σ)) :
    contributions (applicable (rule :: rest) origin isReact) origin subject =
        contributions (applicable rest origin isReact) origin subject ∧
      complaints (applicable (rule :: rest) origin isReact) subject =
        rule.failure fault :: complaints (applicable rest origin isReact) subject := by
  have nothing : rule.found subject = [] := by
    unfold Rule.found
    rw [failed]
  have reported : rule.failure? subject = some (rule.failure fault) := by
    unfold Rule.failure?
    rw [failed]
  rw [applicable, List.filter_cons_of_pos applies]
  constructor
  · rw [contributions, List.flatMap_cons, nothing]
    rfl
  · simp only [complaints, List.filterMap_cons, reported]
    rfl

/-- A rule that does not apply adds nothing. -/
theorem applicable_cons_of_idle {rule : Rule σ} (idle : rule.applies origin isReact = false)
    (rest : List (Rule σ)) :
    applicable (rule :: rest) origin isReact = applicable rest origin isReact := by
  have unfit : ¬rule.applies origin isReact = true := by
    rw [idle]
    exact Bool.false_ne_true
  exact List.filter_cons_of_neg unfit

end

/-- Rules run one after the other and do not disturb each other. What a list of rules adds to the
detections and to the diagnostics is what its parts add, whatever was there before. A rule that
fails can be left out: the detections stay as they are, and of the diagnostics only the one that
names the rule is gone. A rule that does not apply can be left out in any case. -/
theorem run_isolates (origin : Origin) (isReact : Bool) (subject : σ) :
    (∀ first second : List (Rule σ), ∃ found found' added added', ∀ earlier,
      run first origin isReact subject earlier = ⟨found, earlier ++ added⟩ ∧
      run second origin isReact subject earlier = ⟨found', earlier ++ added'⟩ ∧
      run (first ++ second) origin isReact subject earlier =
        ⟨found ++ found', earlier ++ (added ++ added')⟩) ∧
    (∀ (before after : List (Rule σ)) (rule : Rule σ) (fault : Fault),
      rule.run subject = .error fault → rule.applies origin isReact = true →
      ∃ found early late, ∀ earlier,
        run (before ++ rule :: after) origin isReact subject earlier =
          ⟨found, earlier ++
            (early ++
              { message := rule.suite.name ++ "." ++ rule.name ++ " failed: " ++ fault.describe
                kind := .detector } :: late)⟩ ∧
        run (before ++ after) origin isReact subject earlier =
          ⟨found, earlier ++ (early ++ late)⟩) ∧
    ∀ (before after : List (Rule σ)) (rule : Rule σ), rule.applies origin isReact = false →
      ∀ earlier,
        run (before ++ rule :: after) origin isReact subject earlier =
          run (before ++ after) origin isReact subject earlier := by
  refine ⟨?_, ?_, ?_⟩
  · intro first second
    exact ⟨_, _, _, _, fun earlier => ⟨run_eq first earlier, run_eq second earlier,
      run_append first second earlier⟩⟩
  · intro before after rule fault failed applies
    obtain ⟨found, added⟩ := run_cons_of_failed failed applies after
    refine ⟨contributions (applicable before origin isReact) origin subject ++
      contributions (applicable after origin isReact) origin subject,
      complaints (applicable before origin isReact) subject,
      complaints (applicable after origin isReact) subject, fun earlier => ⟨?_, ?_⟩⟩
    · rw [run_append, found, added]
      rfl
    · rw [run_append]
  · intro before after rule idle earlier
    rw [run, run, applicable_append, applicable_append, applicable_cons_of_idle idle]

/-- A rule that fails among one that finds something, one that gives no list and one that is for
React only. -/
theorem run_isolates_broken :
    let suite : Suite := { name := "tests", category := "tests", order := 0, home := "tests" }
    let always : Rule Unit := ⟨"find_always", suite, fun _ => .ok (some [{ topic := "always" }])⟩
    let silent : Rule Unit := ⟨"find_none", suite, fun _ => .ok none⟩
    let gated : Rule Unit :=
      ⟨"find_react", { suite with requiresReact := true }, fun _ => .error ⟨.runtime, "gate"⟩⟩
    let broken : Rule Unit := ⟨"find_broken", suite, fun _ => .error ⟨.runtime, "boom"⟩⟩
    broken.run () = .error ⟨.runtime, "boom"⟩ ∧ broken.applies .native false = true ∧
      gated.applies .native false = false ∧
      ∃ found early late, ∀ earlier,
        run ([silent, gated] ++ broken :: [always]) .native false () earlier =
          ⟨found, earlier ++
            (early ++
              { message := "tests.find_broken failed: RuntimeError: boom"
                kind := .detector } :: late)⟩ ∧
        run ([silent, gated] ++ [always]) .native false () earlier =
          ⟨found, earlier ++ (early ++ late)⟩ ∧
        run ([silent] ++ gated :: [always]) .native false () earlier =
          run ([silent] ++ [always]) .native false () earlier := by
  intro suite always silent gated broken
  obtain ⟨-, failing, idle⟩ := run_isolates .native false ()
  obtain ⟨found, early, late, runs⟩ :=
    failing [silent, gated] [always] broken ⟨.runtime, "boom"⟩ rfl rfl
  refine ⟨rfl, rfl, rfl, found, early, late, fun earlier => ?_⟩
  obtain ⟨whole, part⟩ := runs earlier
  exact ⟨whole, part, idle [silent] [always] gated rfl earlier⟩

end Engine

end SnippetTutor
