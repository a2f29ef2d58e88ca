import SnippetTutor.Linter.Run
import SnippetTutor.Proofs.Success

/-!
# What the linter's detections look like

Every detection of the linter stands for a message of its report, so it is of one shape: against
the code, filed under the linter, and on the topic of the rule that the message names.

* `Linter.Reported` is that shape;
* `Linter.reported_of_readReport` carries it from one message (`reported_of_detectionOf`) to a file
  and to the whole report, and `Linter.Settings.reported_of_run` to a run, however it ended.
-/

namespace SnippetTutor

namespace Linter

/-- The shape of a detection of the linter. -/
structure Reported (detection : Detection) : Prop where
  topic : ∃ rule, detection.topic = topicOf rule
  negative : detection.negative = true
  positive : detection.positive = false
  idiomatic : detection.idiomatic = false
  origin : detection.origin = .eslint

/-- The detection that a message on a rule stands for. -/
def told (members : Keyed Json) (name : String) (column : Json) : Detection :=
  { topic := topicOf name
    negative := true
    trivial := hasFix members
    mark := some ⟨lineOf members, column⟩
    details := some ("[ESLint " ++ name ++ "] " ++ messageText members)
    origin := .eslint }

/-- First the name of the rule is read, then the column. -/
theorem detectionOf_of_named {members : Keyed Json} {rule : Json}
    (named : setMember? members "ruleId" = some rule) :
    detectionOf (.object members) =
      (ruleName rule >>= fun name => columnOf members >>= fun column =>
        .ok (some (told members name column))) := by
  unfold detectionOf membersOf
  simp only [bind, Except.bind, named]
  rfl

theorem detectionOf_of_unnamed {members : Keyed Json}
    (unnamed : setMember? members "ruleId" = none) :
    detectionOf (.object members) = .ok none := by
  unfold detectionOf membersOf
  simp only [bind, Except.bind, unnamed]
  rfl

/-- A message that stands for a detection names a rule. -/
theorem reported_of_detectionOf {message : Json} {detection : Detection}
    (read : detectionOf message = .ok (some detection)) : Reported detection := by
  unfold detectionOf at read
  obtain ⟨members, -, read⟩ := bind_eq_ok.1 read
  cases named : setMember? members "ruleId" with
  | none =>
    simp only [named] at read
    cases read
  | some rule =>
    simp only [named] at read
    obtain ⟨name, -, read⟩ := bind_eq_ok.1 read
    obtain ⟨column, -, read⟩ := bind_eq_ok.1 read
    cases read
    exact ⟨⟨name, rfl⟩, rfl, rfl, rfl, rfl⟩

theorem reported_of_fileDetections {file : Json} {detections : List Detection}
    (read : fileDetections file = .ok detections) {detection : Detection}
    (member : detection ∈ detections) : Reported detection := by
  unfold fileDetections at read
  obtain ⟨members, -, read⟩ := bind_eq_ok.1 read
  obtain ⟨messages, -, read⟩ := bind_eq_ok.1 read
  obtain ⟨found, looped, read⟩ := bind_eq_ok.1 read
  cases read
  obtain ⟨made, listed, rfl⟩ := List.mem_filterMap.1 member
  obtain ⟨message, -, told⟩ := exists_of_mem_mapM looped listed
  exact reported_of_detectionOf told

/-- Every detection of a report stands for one of its messages. -/
theorem reported_of_readReport {text : String} {detections : List Detection}
    (read : readReport text = .ok detections) {detection : Detection}
    (member : detection ∈ detections) : Reported detection := by
  unfold readReport at read
  split at read
  · cases read
  · rename_i files _
    obtain ⟨found, looped, read⟩ := bind_eq_ok.1 read
    cases read
    obtain ⟨part, listed, inside⟩ := List.mem_flatten.1 member
    obtain ⟨file, -, told⟩ := exists_of_mem_mapM looped listed
    exact reported_of_fileDetections told inside
  · cases read

namespace Settings

theorem reported_of_concludeOutput {stdout stderr : String} {exitCode : Int} {run : Run}
    (ended : concludeOutput stdout stderr exitCode = .ok run) {detection : Detection}
    (member : detection ∈ run.detections) : Reported detection := by
  unfold concludeOutput at ended
  split at ended
  · cases ended
    exact absurd member List.not_mem_nil
  · split at ended
    · rename_i detections read
      cases ended
      exact reported_of_readReport read member
    · split at ended
      · cases ended
        exact absurd member List.not_mem_nil
      · cases ended

/-- Whatever a run of the linter hands over comes from its report. -/
theorem reported_of_run {settings : Settings} {execution : Execution} {run : Run}
    (ended : settings.run execution = .ok run) {detection : Detection}
    (member : detection ∈ run.detections) : Reported detection := by
  have unfinished : ∀ reason, run = .failed reason → Reported detection := by
    rintro reason rfl
    exact absurd member List.not_mem_nil
  unfold Settings.run at ended
  obtain ⟨binary?, -, ended⟩ := bind_eq_ok.1 ended
  cases binary? with
  | none =>
    cases ended
    exact absurd member List.not_mem_nil
  | some binary =>
    simp only at ended
    split at ended
    · exact unfinished _ (Except.ok.inj ended).symm
    · -- Only a finished process has a report; every other end is a failure with a reason.
      cases execution with
      | notFound => exact unfinished _ (Except.ok.inj ended).symm
      | timedOut => exact unfinished _ (Except.ok.inj ended).symm
      | broken fault => exact unfinished _ (Except.ok.inj ended).symm
      | noDirectory => exact unfinished _ (Except.ok.inj ended).symm
      | finished stdout stderr exitCode => exact reported_of_concludeOutput ended member

end Settings

end Linter

end SnippetTutor
