import Mathlib.Data.List.Forall2
import SnippetTutor.Proofs.Report

/-!
# How a report is translated

A report of the expected form is translated message by message: each message that names a rule
becomes one detection, in the order of the report, and the others are dropped.

* `Linter.FiledAs` relates a rule to its topic without reference to `Linter.topicOf`. Of the
  slashes in the name of a rule only the first becomes a dash, so a topic may still contain one
  (`Linter.slash_mem_topicOf_iff`), and is then not the one without slashes
  (`Linter.topicOf_eq_iff`);
* `Linter.Describes` relates a message to its detection;
* `Linter.detectionOf_of_isMessage` is one step of the translation, `Linter.exists_mapM_detectionOf`
  the run over a file, and `Linter.readReport_translates` the whole.
-/

namespace SnippetTutor.Linter

/-! ### Topics of rules -/

/-- A text with all its slashes turned into dashes. -/
def dashSlashes (text : List Char) : List Char := text.map fun c => if c = '/' then '-' else c

/-- The topic of a rule, if no slash were left in it. -/
def slashlessTopic (rule : String) : String :=
  (sharedTopics.get? rule).getD ("eslint-" ++ String.ofList (dashSlashes rule.toList))

/-- How the topic of a rule comes about: it is shared, or it is the name of the rule with its first
slash turned into a dash. -/
inductive FiledAs : String → String → Prop where
  | shared {rule topic : String} (listed : sharedTopics.get? rule = some topic) :
    FiledAs rule topic
  | undivided {rule : String} (own : rule ∉ sharedTopics.keys) (free : '/' ∉ rule.toList) :
    FiledAs rule ("eslint-" ++ rule)
  | divided {before after : String} (own : before ++ "/" ++ after ∉ sharedTopics.keys)
    (free : '/' ∉ before.toList) :
    FiledAs (before ++ "/" ++ after) ("eslint-" ++ before ++ "-" ++ after)

theorem dashFirstSlash_of_not_mem {text : List Char} (free : '/' ∉ text) :
    dashFirstSlash text = text := by
  induction text with
  | nil => rfl
  | cons c rest ih =>
    simp only [List.mem_cons, not_or] at free
    simp [dashFirstSlash, Ne.symm free.1, ih free.2]

theorem dashFirstSlash_append {before : List Char} (free : '/' ∉ before) (after : List Char) :
    dashFirstSlash (before ++ '/' :: after) = before ++ '-' :: after := by
  induction before with
  | nil => rfl
  | cons c rest ih =>
    simp only [List.mem_cons, not_or] at free
    simp [dashFirstSlash, Ne.symm free.1, ih free.2]

/-- One slash is lost, if there is any. -/
theorem count_dashFirstSlash (text : List Char) :
    (dashFirstSlash text).count '/' = text.count '/' - 1 := by
  induction text with
  | nil => rfl
  | cons c rest ih =>
    by_cases slash : c = '/'
    · simp [dashFirstSlash, slash]
    · simp [dashFirstSlash, slash, ih]

theorem count_dashSlashes (text : List Char) : (dashSlashes text).count '/' = 0 := by
  induction text with
  | nil => rfl
  | cons c rest ih =>
    by_cases slash : c = '/'
    · simpa [dashSlashes, slash] using ih
    · simpa [dashSlashes, slash] using ih

theorem dashSlashes_of_not_mem {text : List Char} (free : '/' ∉ text) :
    dashSlashes text = text := by
  refine (List.map_congr_left fun c member => ?_).trans (List.map_id text)
  have apart : c ≠ '/' := fun slash => free (slash ▸ member)
  simp [apart]

/-- Turning the first slash into a dash is turning all of them if there is no second one. -/
theorem dashFirstSlash_eq_iff {text : List Char} :
    dashFirstSlash text = dashSlashes text ↔ text.count '/' ≤ 1 := by
  constructor
  · intro same
    have lost := count_dashFirstSlash text
    rw [same, count_dashSlashes] at lost
    omega
  · intro few
    induction text with
    | nil => rfl
    | cons c rest ih =>
      by_cases slash : c = '/'
      · subst slash
        have free : '/' ∉ rest := by
          rw [List.count_cons_self] at few
          exact List.count_eq_zero.1 (by omega)
        have kept := dashSlashes_of_not_mem free
        simpa [dashFirstSlash, dashSlashes] using kept.symm
      · rw [List.count_cons_of_ne slash] at few
        have others := ih few
        simpa [dashFirstSlash, dashSlashes, slash] using others

theorem toList_ownTopic (rule : String) :
    (ownTopic rule).toList = "eslint-".toList ++ dashFirstSlash rule.toList := by
  simp [ownTopic]

theorem topicOf_of_get? {rule topic : String} (listed : sharedTopics.get? rule = some topic) :
    topicOf rule = topic := by
  simp [topicOf, listed]

theorem topicOf_of_not_mem {rule : String} (own : rule ∉ sharedTopics.keys) :
    topicOf rule = ownTopic rule := by
  simp [topicOf, (Keyed.get?_eq_none_iff _ _).2 own]

theorem exists_shared_of_mem {rule : String} (listed : rule ∈ sharedTopics.keys) :
    ∃ topic, sharedTopics.get? rule = some topic :=
  Option.isSome_iff_exists.1 ((Keyed.get?_isSome_iff _ _).2 listed)

/-- The topic of a rule comes about as described. -/
theorem filedAs_topicOf (rule : String) : FiledAs rule (topicOf rule) := by
  by_cases listed : rule ∈ sharedTopics.keys
  · obtain ⟨topic, found⟩ := exists_shared_of_mem listed
    rw [topicOf_of_get? found]
    exact .shared found
  · rw [topicOf_of_not_mem listed, ownTopic]
    by_cases slash : '/' ∈ rule.toList
    · -- Split at the first slash: what follows it may contain more of them.
      obtain ⟨before, after, split, free⟩ := List.eq_append_cons_of_mem slash
      have whole : rule = String.ofList before ++ "/" ++ String.ofList after :=
        String.toList_injective (by simp [split])
      have topic : "eslint-" ++ String.ofList (dashFirstSlash rule.toList) =
          "eslint-" ++ String.ofList before ++ "-" ++ String.ofList after :=
        String.toList_injective (by simp [split, dashFirstSlash_append free])
      rw [topic]
      rw [whole] at listed ⊢
      exact .divided listed (by simpa using free)
    · rw [dashFirstSlash_of_not_mem slash, String.ofList_toList]
      exact .undivided listed slash

/-- The topics that the linter shares are without slashes. -/
theorem slash_not_mem_of_shared {rule topic : String}
    (listed : sharedTopics.get? rule = some topic) : '/' ∉ topic.toList := by
  have free : ∀ shared ∈ sharedTopics, '/' ∉ shared.2.toList := by decide +kernel
  exact free _ (Keyed.mem_of_get? listed)

/-- A slash is left in the topic of a rule that has two of them. -/
theorem slash_mem_topicOf_iff (rule : String) :
    '/' ∈ (topicOf rule).toList ↔ rule ∉ sharedTopics.keys ∧ 2 ≤ rule.toList.count '/' := by
  by_cases listed : rule ∈ sharedTopics.keys
  · obtain ⟨topic, found⟩ := exists_shared_of_mem listed
    rw [topicOf_of_get? found]
    exact iff_of_false (slash_not_mem_of_shared found) fun own => own.1 listed
  · have leading : '/' ∉ "eslint-".toList := by decide
    have left : '/' ∈ dashFirstSlash rule.toList ↔ 2 ≤ rule.toList.count '/' := by
      rw [← List.count_pos_iff, count_dashFirstSlash]
      omega
    rw [topicOf_of_not_mem listed, toList_ownTopic, List.mem_append, left]
    exact ⟨fun slash => ⟨listed, slash.resolve_left leading⟩, fun both => .inr both.2⟩

/-- The topic of a rule is the one without slashes unless one is left. -/
theorem topicOf_eq_iff (rule : String) :
    topicOf rule = slashlessTopic rule ↔
      rule ∈ sharedTopics.keys ∨ rule.toList.count '/' ≤ 1 := by
  by_cases listed : rule ∈ sharedTopics.keys
  · obtain ⟨topic, found⟩ := exists_shared_of_mem listed
    simp [topicOf, slashlessTopic, found, listed]
  · have slashless :
        slashlessTopic rule = "eslint-" ++ String.ofList (dashSlashes rule.toList) := by
      simp [slashlessTopic, (Keyed.get?_eq_none_iff _ _).2 listed]
    rw [topicOf_of_not_mem listed, slashless, ownTopic, or_iff_right listed,
      ← dashFirstSlash_eq_iff]
    constructor
    · intro same
      have letters := congrArg String.toList same
      simpa using letters
    · intro same
      rw [same]

/-! ### Messages -/

/-- A message of the expected form: the rule is a text or null, the line and the column are whole
numbers or not there. -/
structure IsMessage (message : Json) : Prop where
  object : ∃ members, message = .object members
  rule : ∀ value, message.get? "ruleId" = some value → value = .null ∨ ∃ name, value = .text name
  line : ∀ value, message.get? "line" = some value → ∃ number, value = .int number
  column : ∀ value, message.get? "column" = some value → ∃ number, value = .int number

/-- A file of the expected form. -/
def IsFile (file : Json) : Prop :=
  ∃ messages, file.get? "messages" = some (.list messages) ∧ ∀ message ∈ messages, IsMessage message

/-- The rule that a message names. -/
def ruleOf? (message : Json) : Option String :=
  ((message.get? "ruleId").bind Json.asText?).filter (· ≠ "")

/-- The number under a key of a message; zero if there is none. -/
def numberIn (message : Json) (key : String) : Int :=
  match message.get? key with
  | some (.int number) => number
  | _ => 0

/-- The messages of a file that name a rule. -/
def namedIn (file : Json) : List Json :=
  (((file.get? "messages").bind Json.asList?).getD []).filter fun message =>
    (ruleOf? message).isSome

/-- What a message says, as a detection. -/
structure Describes (message : Json) (detection : Detection) : Prop where
  topic : ∃ rule, ruleOf? message = some rule ∧ FiledAs rule detection.topic ∧
    (detection.topic = slashlessTopic rule ↔
      rule ∈ sharedTopics.keys ∨ rule.toList.count '/' ≤ 1) ∧
    ('/' ∈ detection.topic.toList ↔ rule ∉ sharedTopics.keys ∧ 2 ≤ rule.toList.count '/')
  negative : detection.negative = true
  positive : detection.positive = false
  idiomatic : detection.idiomatic = false
  trivial : detection.trivial = true ↔ ∃ fix, message.get? "fix" = some fix ∧ fix ≠ .null
  mark : detection.mark =
    some ⟨.int (numberIn message "line"), .int (max (numberIn message "column" - 1) 0)⟩
  origin : detection.origin = .eslint

theorem setMember?_of_get? {members : Keyed Json} {key : String} {value : Json}
    (given : members.get? key = some value) :
    setMember? members key = if value.isSet then some value else none := by
  rw [setMember?, given]
  rfl

theorem setMember?_of_absent {members : Keyed Json} {key : String}
    (absent : members.get? key = none) : setMember? members key = none := by
  rw [setMember?, absent]
  rfl

section Members

variable {members : Keyed Json} (formed : IsMessage (.object members))

include formed

/-- The line is given, or zero. -/
theorem lineOf_of_isMessage : lineOf members = .int (numberIn (.object members) "line") := by
  unfold lineOf numberIn
  cases given : (Json.object members).get? "line" with
  | none => rw [setMember?_of_absent given, Option.getD_none]
  | some value =>
    obtain ⟨line, rfl⟩ := formed.line value given
    rw [setMember?_of_get? given]
    by_cases zero : line = 0
    · simp [zero, Json.isSet]
    · simp [zero, Json.isSet]

/-- The column is given and counted from one, or it is the first. A column of zero does not count
as given. -/
theorem columnOf_of_isMessage :
    columnOf members = .ok (.int (max (numberIn (.object members) "column" - 1) 0)) := by
  unfold columnOf numberIn
  cases given : (Json.object members).get? "column" with
  | none =>
    rw [setMember?_of_absent given]
    rfl
  | some value =>
    obtain ⟨column, rfl⟩ := formed.column value given
    rw [setMember?_of_get? given]
    by_cases zero : column = 0
    · subst zero
      rfl
    · simp [zero, Json.isSet, fromZero]

/-- A message names a rule exactly when it has one that counts. -/
theorem setMember?_ruleId :
    setMember? members "ruleId" = (ruleOf? (.object members)).map Json.text := by
  unfold ruleOf?
  cases given : (Json.object members).get? "ruleId" with
  | none => exact setMember?_of_absent given
  | some value =>
    rw [setMember?_of_get? given]
    rcases formed.rule value given with rfl | ⟨name, rfl⟩
    · rfl
    · by_cases empty : name = ""
      · simp [empty, Json.isSet, Json.asText?, Option.filter]
      · simp [empty, Json.isSet, Json.asText?, Option.filter]

end Members

theorem hasFix_iff (members : Keyed Json) :
    hasFix members = true ↔ ∃ fix, (Json.object members).get? "fix" = some fix ∧ fix ≠ .null := by
  show hasFix members = true ↔ ∃ fix, members.get? "fix" = some fix ∧ fix ≠ .null
  unfold hasFix
  cases members.get? "fix" with
  | none => simp
  | some fix => cases fix <;> simp

/-- One step of the translation: a message that names a rule becomes a detection that says the same,
any other message becomes nothing. -/
theorem detectionOf_of_isMessage {message : Json} (formed : IsMessage message) :
    (ruleOf? message = none ∧ detectionOf message = .ok none) ∨
    ∃ detection, (ruleOf? message).isSome = true ∧ detectionOf message = .ok (some detection) ∧
      Describes message detection := by
  obtain ⟨members, rfl⟩ := formed.object
  have named := setMember?_ruleId formed
  cases rule : ruleOf? (.object members) with
  | none =>
    rw [rule] at named
    exact .inl ⟨rfl, detectionOf_of_unnamed named⟩
  | some name =>
    rw [rule] at named
    have made : detectionOf (.object members) =
        .ok (some (told members name
          (.int (max (numberIn (.object members) "column" - 1) 0)))) := by
      rw [detectionOf_of_named named, columnOf_of_isMessage formed]
      rfl
    refine .inr ⟨_, rfl, made, ?_⟩
    exact
      { topic := ⟨name, rule, filedAs_topicOf name, topicOf_eq_iff name, slash_mem_topicOf_iff name⟩
        negative := rfl
        positive := rfl
        idiomatic := rfl
        trivial := hasFix_iff members
        mark := by rw [told, lineOf_of_isMessage formed]
        origin := rfl }

/-! ### Files and reports -/

/-- The run over the messages of a file. -/
theorem exists_mapM_detectionOf {messages : List Json}
    (formed : ∀ message ∈ messages, IsMessage message) :
    ∃ found, messages.mapM detectionOf = .ok found ∧
      List.Forall₂ Describes (messages.filter fun message => (ruleOf? message).isSome)
        (found.filterMap id) := by
  induction messages with
  | nil => exact ⟨[], rfl, .nil⟩
  | cons message rest ih =>
    obtain ⟨found, looped, described⟩ := ih fun other member =>
      formed other (List.mem_cons_of_mem _ member)
    rcases detectionOf_of_isMessage (formed message List.mem_cons_self) with
      ⟨unnamed, dropped⟩ | ⟨detection, named, made, faithful⟩
    · refine ⟨none :: found, ?_, ?_⟩
      · rw [List.mapM_cons, dropped, looped]
        rfl
      · simpa [unnamed] using described
    · refine ⟨some detection :: found, ?_, ?_⟩
      · rw [List.mapM_cons, made, looped]
        rfl
      · simpa [named] using List.Forall₂.cons faithful described

theorem exists_fileDetections {file : Json} (formed : IsFile file) :
    ∃ found, fileDetections file = .ok found ∧ List.Forall₂ Describes (namedIn file) found := by
  obtain ⟨messages, listed, formed⟩ := formed
  obtain ⟨found, looped, described⟩ := exists_mapM_detectionOf formed
  cases file with
  | object members =>
    have listed' : Keyed.get? members "messages" = some (.list messages) := listed
    refine ⟨found.filterMap id, ?_, ?_⟩
    · simp [fileDetections, membersOf, listed', itemsOf, Json.items?, looped, bind, Except.bind,
        pure, Except.pure]
    · rw [namedIn, listed]
      exact described
  | null | bool _ | int _ | real _ | text _ | list _ => cases listed

/-- The run over the files of a report. -/
theorem exists_mapM_fileDetections {files : List Json} (formed : ∀ file ∈ files, IsFile file) :
    ∃ found, files.mapM fileDetections = .ok found ∧
      List.Forall₂ Describes (files.flatMap namedIn) found.flatten := by
  induction files with
  | nil => exact ⟨[], rfl, .nil⟩
  | cons file rest ih =>
    obtain ⟨first, read, described⟩ := exists_fileDetections (formed file List.mem_cons_self)
    obtain ⟨found, looped, others⟩ := ih fun other member =>
      formed other (List.mem_cons_of_mem _ member)
    refine ⟨first :: found, ?_, ?_⟩
    · rw [List.mapM_cons, read, looped]
      rfl
    · rw [List.flatMap_cons, List.flatten_cons]
      exact List.rel_append described others

/-- A report of the expected form is translated message by message: its detections describe, one by
one and in order, the messages that name a rule. -/
theorem readReport_translates {text : String} {files : List Json}
    (parsed : Json.parse text = .ok (.list files)) (formed : ∀ file ∈ files, IsFile file) :
    ∃ detections, readReport text = .ok detections ∧
      List.Forall₂ Describes (files.flatMap namedIn) detections := by
  obtain ⟨found, looped, described⟩ := exists_mapM_fileDetections formed
  refine ⟨found.flatten, ?_, described⟩
  simp [readReport, parsed, looped, bind, Except.bind, pure, Except.pure]

/-- Two files: of the four messages one has no rule and one an empty one. -/
theorem readReport_translates_files :
    let text := "[\x7b\"messages\": [\x7b\"ruleId\": null\x7d, \x7b\"ruleId\": \"no-var\", " ++
      "\"line\": 2, \"column\": 5, \"fix\": 0\x7d]\x7d, " ++
      "\x7b\"messages\": [\x7b\"ruleId\": \"\"\x7d, \x7b\"ruleId\": \"a/b\"\x7d]\x7d]"
    let first := Json.object
      [("ruleId", .text "no-var"), ("line", .int 2), ("column", .int 5), ("fix", .int 0)]
    let second := Json.object [("ruleId", .text "a/b")]
    ∃ detections, readReport text = .ok detections ∧
      List.Forall₂ Describes [first, second] detections := by
  intro text first second
  let files := [Json.object [("messages", .list [.object [("ruleId", .null)], first])],
    Json.object [("messages", .list [.object [("ruleId", .text "")], second])]]
  have parsed : Json.parse text = .ok (.list files) := by
    have computed : ((Json.parse text).toOption.any (· = .list files)) = true := by decide +kernel
    obtain ⟨report, parsed, same⟩ := exists_ok_of_any computed
    rw [parsed, of_decide_eq_true same]
  have formed : ∀ file ∈ files, IsFile file := by
    simp only [files, List.forall_mem_cons, List.not_mem_nil, false_imp_iff, implies_true, and_true]
    refine ⟨⟨_, rfl, ?_⟩, ⟨_, rfl, ?_⟩⟩
    all_goals
      simp only [List.forall_mem_cons, List.not_mem_nil, false_imp_iff, implies_true, and_true]
      refine ⟨⟨⟨_, rfl⟩, ?_, ?_, ?_⟩, ⟨⟨_, rfl⟩, ?_, ?_, ?_⟩⟩
      all_goals
        intro value given
        cases given <;> simp
  have named : files.flatMap namedIn = [first, second] := by decide +kernel
  rw [← named]
  exact readReport_translates parsed formed

/-- The name of a rule in a plugin that belongs to another: the second slash is left, and the topic
is not the one without slashes. -/
theorem readReport_leaves_slash :
    let text := "[\x7b\"messages\": [\x7b\"ruleId\": \"@angular-eslint/template/eqeqeq\", " ++
      "\"line\": 3, \"column\": 5\x7d]\x7d]"
    ∃ detection, readReport text = .ok [detection] ∧
      detection.topic = "eslint-@angular-eslint-template/eqeqeq" ∧
      slashlessTopic "@angular-eslint/template/eqeqeq" =
        "eslint-@angular-eslint-template-eqeqeq" := by
  intro text
  have computed : ((readReport text).toOption.any fun detections =>
      detections.map Detection.topic = ["eslint-@angular-eslint-template/eqeqeq"]) = true := by
    decide +kernel
  obtain ⟨detections, read, topics⟩ := exists_ok_of_any computed
  obtain ⟨detection, rfl, topic⟩ := List.map_eq_singleton_iff.1 (of_decide_eq_true topics)
  exact ⟨detection, read, topic, by decide +kernel⟩

end SnippetTutor.Linter
