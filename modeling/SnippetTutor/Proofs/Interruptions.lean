import SnippetTutor.Proofs.Report

/-!
# What interrupts a run of the linter

A report is read message by message. A report that is no JSON, a part of it that is no object, or a
rule that is a number make the run fail with a reason. In three places a value of the wrong type is
not caught, and then the run is interrupted and has no outcome at all: the messages of a file that
cannot be gone through, the rule of a message that is a list or an object, and a column that is no
number.

* `faultClass?` is the class of the fault that a computation ended with; a loop ends with that of
  its first turn that fails (`faultClass?_mapM`);
* `Linter.IsReadable` and `Linter.IsMistyped` are told from a message alone, and
  `Linter.detectionOf_cases` says what each of them comes to;
* `Linter.faultClass?_readReport` carries this over files to reports: what counts is the first
  part that cannot be read;
* `Linter.Settings.run_outcome`: a run has an outcome unless its report is mistyped.
-/

namespace SnippetTutor

variable {α β : Type}

/-! ### Classes of faults -/

/-- The class of the fault that a computation ended with, if it did. -/
def faultClass? : Except Fault α → Option FaultClass
  | .ok _ => none
  | .error fault => some fault.cls

theorem faultClass?_eq_none_iff {whole : Except Fault α} :
    faultClass? whole = none ↔ ∃ result, whole = .ok result := by
  cases whole <;> simp [faultClass?]

/-- What is made of a result does not change how the computation ended. -/
theorem faultClass?_bind_ok (first : Except Fault α) (f : α → β) :
    faultClass? (first >>= fun value => .ok (f value)) = faultClass? first := by
  cases first <;> rfl

/-- A loop ends like the first of its turns that fails. -/
theorem faultClass?_mapM (f : α → Except Fault β) (items : List α) :
    faultClass? (items.mapM f) = items.findSome? fun item => faultClass? (f item) := by
  induction items with
  | nil => rfl
  | cons item rest ih =>
    rw [List.mapM_cons, List.findSome?_cons]
    cases f item with
    | error fault => rfl
    | ok value => exact (faultClass?_bind_ok (rest.mapM f) (value :: ·)).trans ih

/-- Whether a value counts as a number; truth values do. -/
def Json.isNumeric : Json → Bool
  | .int _ | .bool _ | .real _ => true
  | _ => false

namespace Linter

/-! ### Messages -/

/-- A message that can be read: an object that names no rule, or one that names it by a text and
does not give anything but a number as its column. -/
inductive IsReadable : Json → Prop where
  | silent {members : Keyed Json} (unnamed : setMember? members "ruleId" = none) :
    IsReadable (.object members)
  | telling {members : Keyed Json} {name : String}
    (named : setMember? members "ruleId" = some (.text name))
    (numbered : ∀ column, setMember? members "column" = some column → column.isNumeric = true) :
    IsReadable (.object members)

/-- A message that interrupts a run. -/
inductive IsMistyped : Json → Prop where
  | rule {members : Keyed Json} {rule : Json} (named : setMember? members "ruleId" = some rule)
    (compound : rule.isPlain = false) : IsMistyped (.object members)
  | column {members : Keyed Json} {name : String} {column : Json}
    (named : setMember? members "ruleId" = some (.text name))
    (placed : setMember? members "column" = some column)
    (unnumbered : column.isNumeric = false) : IsMistyped (.object members)

theorem IsReadable.not_isMistyped {message : Json} (readable : IsReadable message) :
    ¬IsMistyped message := by
  intro mistyped
  cases readable with
  | silent unnamed =>
    cases mistyped with
    | rule named => simp [unnamed] at named
    | column named => simp [unnamed] at named
  | telling named numbered =>
    cases mistyped with
    | rule named' compound =>
      rw [named] at named'
      cases named'
      cases compound
    | column named' placed unnumbered =>
      rw [numbered _ placed] at unnumbered
      cases unnumbered

/-- The column is the last thing that can go wrong with a message. -/
theorem faultClass?_columnOf (members : Keyed Json) :
    faultClass? (columnOf members) =
      if ((setMember? members "column").getD (.int 1)).isNumeric then none
      else some .mismatch := by
  unfold columnOf
  cases (setMember? members "column").getD (.int 1) <;> rfl

theorem faultClass?_detectionOf {members : Keyed Json} {rule : Json}
    (named : setMember? members "ruleId" = some rule) :
    faultClass? (detectionOf (.object members)) =
      (faultClass? (ruleName rule)).or (faultClass? (columnOf members)) := by
  rw [detectionOf_of_named named]
  cases ruleName rule with
  | error fault => rfl
  | ok name => exact faultClass?_bind_ok (columnOf members) _

/-- A rule that is neither a text nor made of parts is no reason to interrupt a run. -/
theorem not_isReadable_and_not_isMistyped {members : Keyed Json} {rule : Json}
    (named : setMember? members "ruleId" = some rule) (untold : ∀ name, rule ≠ .text name)
    (plain : rule.isPlain = true) :
    ¬IsReadable (.object members) ∧ ¬IsMistyped (.object members) := by
  constructor
  · intro readable
    cases readable with
    | silent unnamed => simp [named] at unnamed
    | telling named' => exact untold _ (Option.some.inj (named.symm.trans named'))
  · intro mistyped
    cases mistyped with
    | rule named' compound =>
      rw [← Option.some.inj (named.symm.trans named'), plain] at compound
      cases compound
    | column named' => exact untold _ (Option.some.inj (named.symm.trans named'))

/-- What a message comes to. -/
theorem detectionOf_cases (message : Json) :
    (IsReadable message ∧ faultClass? (detectionOf message) = none) ∨
    (IsMistyped message ∧ faultClass? (detectionOf message) = some .mismatch) ∨
    (¬IsReadable message ∧ ¬IsMistyped message ∧
      faultClass? (detectionOf message) = some .noAttribute) := by
  cases message with
  | object members =>
    cases named : setMember? members "ruleId" with
    | none =>
      rw [detectionOf_of_unnamed named]
      exact .inl ⟨.silent named, rfl⟩
    | some rule =>
      rw [faultClass?_detectionOf named]
      cases rule with
      | text name =>
        rw [show faultClass? (ruleName (.text name)) = none from rfl, Option.none_or,
          faultClass?_columnOf]
        cases placed : setMember? members "column" with
        | none => exact .inl ⟨.telling named fun column given => by simp [placed] at given, rfl⟩
        | some column =>
          cases numeric : column.isNumeric with
          | true =>
            refine .inl ⟨.telling named fun other given => ?_, by simp [numeric]⟩
            rwa [← Option.some.inj (placed.symm.trans given)]
          | false => exact .inr (.inl ⟨.column named placed numeric, by simp [numeric]⟩)
      | list items => exact .inr (.inl ⟨.rule named rfl, rfl⟩)
      | object parts => exact .inr (.inl ⟨.rule named rfl, rfl⟩)
      | null | bool _ | int _ | real _ =>
        obtain ⟨unread, typed⟩ := not_isReadable_and_not_isMistyped named nofun rfl
        exact .inr (.inr ⟨unread, typed, rfl⟩)
  | null | bool _ | int _ | real _ | text _ | list _ => exact .inr (.inr ⟨nofun, nofun, rfl⟩)

theorem isReadable_iff {message : Json} :
    IsReadable message ↔ faultClass? (detectionOf message) = none := by
  rcases detectionOf_cases message with ⟨readable, ended⟩ | ⟨mistyped, ended⟩ | ⟨unread, -, ended⟩
  · simp [readable, ended]
  · have unread : ¬IsReadable message := fun readable => readable.not_isMistyped mistyped
    simp [unread, ended]
  · simp [unread, ended]

theorem isMistyped_iff {message : Json} :
    IsMistyped message ↔ faultClass? (detectionOf message) = some .mismatch := by
  rcases detectionOf_cases message with ⟨readable, ended⟩ | ⟨mistyped, ended⟩ | ⟨-, typed, ended⟩
  · simp [readable.not_isMistyped, ended]
  · simp [mistyped, ended]
  · simp [typed, ended]

theorem class_of_detectionOf {message : Json} {cls : FaultClass}
    (ended : faultClass? (detectionOf message) = some cls) :
    cls = .mismatch ∨ cls = .noAttribute := by
  rcases detectionOf_cases message with ⟨-, ended'⟩ | ⟨-, ended'⟩ | ⟨-, -, ended'⟩
  all_goals simp_all

/-! ### Files and reports -/

/-- What a file has as its messages. -/
def messagesOf (members : Keyed Json) : Json := (members.get? "messages").getD (.list [])

/-- A file that can be read: its messages can be gone through, and each of them can be read. -/
inductive IsReadableFile : Json → Prop where
  | listing {members : Keyed Json} {messages : List Json}
    (listed : (messagesOf members).items? = some messages)
    (readable : ∀ message ∈ messages, IsReadable message) : IsReadableFile (.object members)

/-- A file that interrupts a run: there is no going through its messages, or the first of them that
cannot be read is mistyped. -/
inductive IsMistypedFile : Json → Prop where
  | unlisted {members : Keyed Json} (unlisted : (messagesOf members).items? = none) :
    IsMistypedFile (.object members)
  | listing {members : Keyed Json} {before after : List Json} {message : Json}
    (listed : (messagesOf members).items? = some (before ++ message :: after))
    (readable : ∀ earlier ∈ before, IsReadable earlier) (mistyped : IsMistyped message) :
    IsMistypedFile (.object members)

/-- A report that interrupts a run: the first of its files that cannot be read is mistyped. -/
def IsMistypedReport (text : String) : Prop :=
  ∃ before file after, Json.parse text = .ok (.list (before ++ file :: after)) ∧
    (∀ earlier ∈ before, IsReadableFile earlier) ∧ IsMistypedFile file

theorem faultClass?_fileDetections (members : Keyed Json) :
    faultClass? (fileDetections (.object members)) =
      match (messagesOf members).items? with
      | none => some .mismatch
      | some messages => messages.findSome? fun message => faultClass? (detectionOf message) := by
  have unfolded : fileDetections (.object members) =
      (itemsOf (messagesOf members) >>= fun messages =>
        messages.mapM detectionOf >>= fun found => .ok (found.filterMap id)) := rfl
  rw [unfolded, itemsOf]
  cases (messagesOf members).items? with
  | none => rfl
  | some messages =>
    exact (faultClass?_bind_ok (messages.mapM detectionOf) _).trans (faultClass?_mapM _ _)

theorem isReadableFile_iff {file : Json} :
    IsReadableFile file ↔ faultClass? (fileDetections file) = none := by
  constructor
  · rintro ⟨listed, readable⟩
    rw [faultClass?_fileDetections, listed]
    exact List.findSome?_eq_none_iff.2 fun message member => isReadable_iff.1 (readable _ member)
  · intro ended
    cases file with
    | object members =>
      rw [faultClass?_fileDetections] at ended
      cases listed : (messagesOf members).items? with
      | none => simp [listed] at ended
      | some messages =>
        simp only [listed, List.findSome?_eq_none_iff] at ended
        exact .listing listed fun message member => isReadable_iff.2 (ended message member)
    | null | bool _ | int _ | real _ | text _ | list _ => cases ended

theorem isMistypedFile_iff {file : Json} :
    IsMistypedFile file ↔ faultClass? (fileDetections file) = some .mismatch := by
  constructor
  · intro mistyped
    cases mistyped with
    | unlisted unlisted => rw [faultClass?_fileDetections, unlisted]
    | listing listed readable mistyped =>
      rw [faultClass?_fileDetections, listed]
      refine List.findSome?_eq_some_iff.2 ⟨_, _, _, rfl, isMistyped_iff.1 mistyped, ?_⟩
      exact fun earlier member => isReadable_iff.1 (readable earlier member)
  · intro ended
    cases file with
    | object members =>
      rw [faultClass?_fileDetections] at ended
      cases listed : (messagesOf members).items? with
      | none => exact .unlisted listed
      | some messages =>
        simp only [listed] at ended
        obtain ⟨before, message, after, rfl, failed, passed⟩ := List.findSome?_eq_some_iff.1 ended
        exact .listing listed (fun earlier member => isReadable_iff.2 (passed earlier member))
          (isMistyped_iff.2 failed)
    | null | bool _ | int _ | real _ | text _ | list _ => cases ended

theorem class_of_fileDetections {file : Json} {cls : FaultClass}
    (ended : faultClass? (fileDetections file) = some cls) :
    cls = .mismatch ∨ cls = .noAttribute := by
  cases file with
  | object members =>
    rw [faultClass?_fileDetections] at ended
    split at ended
    · exact .inl (Option.some.inj ended).symm
    · obtain ⟨message, -, failed⟩ := List.exists_of_findSome?_eq_some ended
      exact class_of_detectionOf failed
  | null | bool _ | int _ | real _ | text _ | list _ => exact .inr (Option.some.inj ended).symm

/-- How reading a report ends, by what its text denotes. -/
theorem faultClass?_readReport (text : String) :
    faultClass? (readReport text) =
      match Json.parse text with
      | .error misreading => some (misreading.fault text).cls
      | .ok (.list files) => files.findSome? fun file => faultClass? (fileDetections file)
      | .ok _ => some .badValue := by
  unfold readReport
  cases Json.parse text with
  | error misreading => rfl
  | ok report =>
    cases report with
    | list files =>
      exact (faultClass?_bind_ok (files.mapM fileDetections) _).trans (faultClass?_mapM _ _)
    | null | bool _ | int _ | real _ | text _ | object _ => rfl

theorem isMistypedReport_iff {text : String} :
    IsMistypedReport text ↔ faultClass? (readReport text) = some .mismatch := by
  rw [faultClass?_readReport]
  constructor
  · rintro ⟨before, file, after, parsed, readable, mistyped⟩
    rw [parsed]
    refine List.findSome?_eq_some_iff.2 ⟨_, _, _, rfl, isMistypedFile_iff.1 mistyped, ?_⟩
    exact fun earlier member => isReadableFile_iff.1 (readable earlier member)
  · intro ended
    split at ended
    · -- Whatever the flaw of a text that is no JSON, it has a class of its own.
      rename_i misreading _
      cases form : misreading.flaw.isMalformation <;> simp [Json.Misreading.fault, form] at ended
    · rename_i parsed
      obtain ⟨before, file, after, rfl, failed, passed⟩ := List.findSome?_eq_some_iff.1 ended
      exact ⟨before, file, after, parsed,
        fun earlier member => isReadableFile_iff.2 (passed earlier member),
        isMistypedFile_iff.2 failed⟩
    · cases ended

/-- Whatever else is wrong with a report is a reason for the run to fail. -/
theorem isReportFault_of_readReport {text : String} {cls : FaultClass}
    (ended : faultClass? (readReport text) = some cls) :
    cls = .mismatch ∨ Settings.isReportFault cls = true := by
  rw [faultClass?_readReport] at ended
  split at ended
  · rename_i misreading _
    cases Option.some.inj ended
    cases form : misreading.flaw.isMalformation <;>
      simp [Json.Misreading.fault, form, Settings.isReportFault]
  · obtain ⟨file, -, failed⟩ := List.exists_of_findSome?_eq_some ended
    rcases class_of_fileDetections failed with rfl | rfl
    · exact .inl rfl
    · exact .inr rfl
  · cases ended
    exact .inr rfl

/-! ### Runs -/

namespace Settings

/-- Settings whose values have the types of the defaults. How long the linter may take does not
matter here, so it may be anything. -/
structure AreTyped (members : Keyed Json) : Prop where
  enabled : ∀ value, members.get? "enabled" = some value → ∃ on, value = .bool on
  binary : ∀ value, members.get? "binary" = some value → ∃ name, value = .text name
  projectDir : ∀ value, members.get? "project_dir" = some value → ∃ path, value = .text path

/-- The linter is started, and what its process writes interrupts the run. -/
def IsInterrupted (settings : Settings) (execution : Execution) : Prop :=
  settings.enabled = .bool true ∧ settings.binary ≠ .text "" ∧
    ∃ stdout stderr exitCode, execution = .finished stdout stderr exitCode ∧
      Text.strip stdout.toList ≠ [] ∧ IsMistypedReport stdout

theorem binary?_ofMembers {members : Keyed Json} (typed : AreTyped members) :
    ∃ on name, (ofMembers members).enabled = .bool on ∧ (ofMembers members).binary = .text name ∧
      (ofMembers members).binary? = .ok (if on then some name else none) := by
  have enabled : ∃ on, (ofMembers members).enabled = .bool on := by
    show ∃ on, (members.get? "enabled").getD (.bool true) = .bool on
    cases given : members.get? "enabled" with
    | none => exact ⟨true, rfl⟩
    | some value => exact typed.enabled value given
  have binary : ∃ name, (ofMembers members).binary = .text name := by
    show ∃ name, (members.get? "binary").getD (.text "eslint") = .text name
    cases given : members.get? "binary" with
    | none => exact ⟨"eslint", rfl⟩
    | some value => exact typed.binary value given
  have directory : (ofMembers members).directoryFault? = none := by
    have path : ∃ path, (ofMembers members).projectDir = .text path := by
      show ∃ path, (members.get? "project_dir").getD (.text ".") = .text path
      cases given : members.get? "project_dir" with
      | none => exact ⟨".", rfl⟩
      | some value => exact typed.projectDir value given
    obtain ⟨path, given⟩ := path
    simp [directoryFault?, given]
  obtain ⟨on, enabled⟩ := enabled
  obtain ⟨name, binary⟩ := binary
  refine ⟨on, name, enabled, binary, ?_⟩
  cases on <;> simp [binary?, directory, enabled, binary, Json.isSet]

/-- Only a mistyped report gets past the reasons for which a run may fail. -/
theorem faultClass?_concludeOutput (stdout stderr : String) (exitCode : Int) :
    (faultClass? (concludeOutput stdout stderr exitCode) = none ∧
      ¬(Text.strip stdout.toList ≠ [] ∧ IsMistypedReport stdout)) ∨
    (faultClass? (concludeOutput stdout stderr exitCode) = some .mismatch ∧
      Text.strip stdout.toList ≠ [] ∧ IsMistypedReport stdout) := by
  unfold concludeOutput
  by_cases blank : Text.strip stdout.toList = []
  · simp [blank, faultClass?]
  · simp only [List.isEmpty_iff, blank, if_false]
    rw [isMistypedReport_iff]
    cases read : readReport stdout with
    | ok detections => simp [faultClass?]
    | error fault =>
      have ended : faultClass? (readReport stdout) = some fault.cls := by rw [read]; rfl
      rcases isReportFault_of_readReport ended with mismatch | caught
      · simp [isReportFault, faultClass?, mismatch, blank]
      · have other : fault.cls ≠ .mismatch := fun mismatch => by
          rw [mismatch] at caught
          cases caught
        simp [caught, faultClass?, other]

/-- A run ends with an outcome, or with a fault when it is interrupted. -/
theorem faultClass?_run {members : Keyed Json} (typed : AreTyped members)
    (execution : Execution) :
    (faultClass? ((ofMembers members).run execution) = none ∧
      ¬(ofMembers members).IsInterrupted execution) ∨
    (faultClass? ((ofMembers members).run execution) = some .mismatch ∧
      (ofMembers members).IsInterrupted execution) := by
  obtain ⟨on, name, enabled, binary, started⟩ := binary?_ofMembers typed
  unfold run
  rw [started]
  -- The linter is switched off, has no name to be started by, or is started.
  cases on with
  | false =>
    refine .inl ⟨rfl, fun interrupted => ?_⟩
    rw [interrupted.1] at enabled
    cases enabled
  | true =>
    by_cases unnamed : name = ""
    · subst unnamed
      exact .inl ⟨rfl, fun interrupted => interrupted.2.1 binary⟩
    · have named : (name == "") = false := by simp [unnamed]
      have named' : (ofMembers members).binary ≠ .text "" := by simp [binary, unnamed]
      simp only [bind, Except.bind, if_true, named, Bool.false_eq_true, if_false]
      cases execution with
      | finished stdout stderr exitCode =>
        rcases faultClass?_concludeOutput stdout stderr exitCode with
          ⟨ended, typed⟩ | ⟨ended, breaks⟩
        · refine .inl ⟨ended, ?_⟩
          rintro ⟨-, -, stdout', stderr', exitCode', same, breaks⟩
          cases same
          exact typed breaks
        · exact .inr ⟨ended, enabled, named', stdout, stderr, exitCode, rfl, breaks⟩
      | notFound | timedOut | broken _ | noDirectory =>
        refine .inl ⟨rfl, ?_⟩
        rintro ⟨-, -, stdout, stderr, exitCode, same, -⟩
        cases same

/-- With settings of the right types, a run of the linter has an outcome unless it is interrupted by
its report, and a run that failed has no detections. -/
theorem run_outcome {members : Keyed Json} (typed : AreTyped members) (execution : Execution) :
    let settings := ofMembers members
    ((∃ run, settings.run execution = .ok run) ↔ ¬settings.IsInterrupted execution) ∧
      (∀ fault, settings.run execution = .error fault → fault.cls = .mismatch) ∧
      ∀ run, settings.run execution = .ok run → run.error ≠ none → run.detections = [] := by
  intro settings
  refine ⟨?_, ?_, ?_⟩
  · rw [← faultClass?_eq_none_iff]
    rcases faultClass?_run typed execution with ⟨ended, calm⟩ | ⟨ended, interrupted⟩
    · exact iff_of_true ended calm
    · refine iff_of_false (fun calm => ?_) (not_not_intro interrupted)
      rw [ended] at calm
      cases calm
  · intro fault failed
    have ended : faultClass? (settings.run execution) = some fault.cls := by rw [failed]; rfl
    rcases faultClass?_run typed execution with ⟨ended', -⟩ | ⟨ended', -⟩
    · rw [ended'] at ended
      cases ended
    · exact (Option.some.inj (ended'.symm.trans ended)).symm
  · intro run ended failed
    cases run with
    | failed reason => rfl
    | completed detections => exact absurd rfl failed

/-- A report that is read up to a message whose rule is a number: the run fails with a reason,
though a file without messages follows. -/
theorem run_outcome_numbered_rule :
    let execution := Execution.finished
      "[\x7b\"messages\": [\x7b\"ruleId\": 7\x7d]\x7d, \x7b\"messages\": null\x7d]" "" 1
    AreTyped [("timeout", .int 5)] ∧
      (∃ run, (ofMembers [("timeout", .int 5)]).run execution = .ok run) ∧
      ¬(ofMembers [("timeout", .int 5)]).IsInterrupted execution := by
  intro execution
  have typed : AreTyped [("timeout", .int 5)] := by
    constructor <;> intro value given <;> cases given
  have ended : ∃ run, (ofMembers [("timeout", .int 5)]).run execution = .ok run :=
    faultClass?_eq_none_iff.1 (by decide +kernel)
  exact ⟨typed, ended, (run_outcome typed execution).1.1 ended⟩

/-- A file whose messages are null leaves the run without an outcome. -/
theorem run_interrupted_by_null :
    AreTyped [] ∧
      ¬∃ run, (ofMembers []).run (.finished "[\x7b\"messages\": null\x7d]" "" 1) = .ok run := by
  constructor
  · constructor <;> intro value given <;> cases given
  · rw [← faultClass?_eq_none_iff]
    decide +kernel

end Settings

end Linter

end SnippetTutor
