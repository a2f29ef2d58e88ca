import SnippetTutor.Proofs.Assembly
import SnippetTutor.Proofs.Walks

/-!
# Limits that are not reached

Three limits say how far an analysis goes: one on the length of the source, one on the depth to
which its tree is read and one on the depth to which detectors look below a construct. They begin
to count at different places (the index at the top, the search for deep nesting at the statements,
a scan at some body), but all of these are places of one tree, and going down from any of them takes
no more levels than the tree is high. So limits that are not below the length of the source and the
heights of its trees might as well be absent.

* `Context.unlimited` drops the limits of a context, and `Detectors.boundless_of_mem` says that no
  detector feels the difference: only those that scan or go down the statements look at a limit;
* `Reading.unlimited` is the reading of a source without limits, and `Reading.read_eq_unlimited`
  says when a source is read so;
* `Task.HasRoom` is the condition on a task, `Task.SameApartFromReach` that two tasks differ in
  nothing but these limits, and `Task.limits_without_effect` puts them together.
-/

namespace SnippetTutor

/-! ### Detectors -/

namespace Context

variable {root : Tree} {context : Context root}

/-- The same tree looked at without limits. -/
def unlimited (context : Context root) : Context root :=
  { context with scanDepth := .absent, treeDepth := .absent }

/-- The limits of a context are not below the height of its tree. -/
structure Roomy (context : Context root) : Prop where
  scanDepth : context.scanDepth.NotBelow root.height
  treeDepth : context.treeDepth.NotBelow root.height

theorem scan_eq_unlimited (roomy : context.Roomy) : context.scan = context.unlimited.scan := by
  obtain ⟨limit, read, room⟩ := Bound.exists_depthLimit roomy.scanDepth
  funext prune node
  rw [scan, read]
  exact congrArg Except.ok (node.walk_eq_unlimited prune room)

theorem scanContains_eq_unlimited (roomy : context.Roomy) :
    context.scanContains = context.unlimited.scanContains := by
  funext node test
  rw [scanContains, scan_eq_unlimited roomy, scanContains]

end Context

/-- The limits on how far a detector looks do not change what it finds, as long as they are not
below the height of the tree. -/
def Detector.Boundless (detector : Detector) : Prop :=
  ∀ (root : Tree) (context : Context root), context.Roomy →
    detector.find root context = detector.find root context.unlimited

theorem Detector.boundless_fallible {name topic : String}
    {find : {root : Tree} → Context root → Except Fault (List (Finding root))}
    (same : ∀ {root : Tree} {context : Context root}, context.Roomy →
      find context = find context.unlimited) : (fallible name topic find).Boundless := by
  intro root context roomy
  exact congrArg (Except.map _) (same roomy)

theorem Detector.boundless_fallibleHazards {name topic : String}
    {find : {root : Tree} → Context root → Except Fault (List (Hazard root))}
    (same : ∀ {root : Tree} {context : Context root}, context.Roomy →
      find context = find context.unlimited) : (fallibleHazards name topic find).Boundless := by
  apply boundless_fallible
  intro root context roomy
  exact congrArg (Except.map _) (same roomy)

namespace Detectors

variable {root : Tree} {context : Context root}

theorem Arrays.callbackFindings_eq_unlimited (roomy : context.Roomy) :
    callbackFindings context = callbackFindings context.unlimited := by
  have same : callback context = callback context.unlimited := by
    funext method missingReturn call
    unfold callback hasReturn
    rw [Context.scanContains_eq_unlimited roomy]
  unfold callbackFindings
  rw [same]
  rfl

theorem Components.rendersMarkup_eq_unlimited (roomy : context.Roomy) :
    rendersMarkup context = rendersMarkup context.unlimited := by
  unfold rendersMarkup
  rw [Context.scanContains_eq_unlimited roomy]

theorem Components.propsDestructuring_eq_unlimited (roomy : context.Roomy) :
    propsDestructuring context = propsDestructuring context.unlimited := by
  unfold propsDestructuring
  rw [rendersMarkup_eq_unlimited roomy]
  rfl

theorem Components.defaultProps_eq_unlimited (roomy : context.Roomy) :
    defaultProps context = defaultProps context.unlimited := by
  unfold defaultProps
  rw [rendersMarkup_eq_unlimited roomy]
  rfl

theorem State.reducers_eq_unlimited (roomy : context.Roomy) :
    reducers context = reducers context.unlimited := by
  unfold reducers switches
  rw [Context.scanContains_eq_unlimited roomy]
  rfl

theorem Hazards.earlyUses_eq_unlimited (roomy : context.Roomy) :
    earlyUses context = earlyUses context.unlimited := by
  unfold earlyUses
  rw [Context.scan_eq_unlimited roomy]
  rfl

/-- Depth counts from the statements here, which are below the top and have less to go. -/
theorem Hazards.nestingConstructs_eq_unlimited (roomy : context.Roomy) :
    nestingConstructs context = nestingConstructs context.unlimited := by
  obtain ⟨limit, read, room⟩ := Bound.exists_depthLimit roomy.treeDepth
  have fits : ∀ entry ∈ context.statements.map fun statement => (⟨statement, 0, 0⟩ : Nested root),
      entry.Fits root.height := by
    intro entry member
    obtain ⟨statement, -, rfl⟩ := List.mem_map.1 member
    exact Nat.le_trans (Nat.le_of_eq (Nat.zero_add _)) statement.height_le
  have drained := Nested.drain_eq_unlimited room fits
  have same : context.unlimited.statements = context.statements := rfl
  unfold nestingConstructs
  rw [read, same]
  cases listed : context.statements with
  | nil => rfl
  | cons first rest =>
    rw [listed] at drained
    exact congrArg (fun visits => Except.ok (visits.filter fun visit => opensLevel visit.node))
      drained

/-- No detector feels a limit that is not below the height of the tree. -/
theorem boundless_of_mem :
    ∀ collection ∈ allCollections, ∀ detector ∈ collection.detectors, detector.Boundless := by
  unfold allCollections syntacticCollections hazardCollections
  simp only [List.cons_append, List.nil_append]
  repeat' refine List.forall_mem_cons.2 ⟨?_, ?_⟩
  all_goals try exact List.forall_mem_nil _
  -- Most detectors never look at a limit.
  all_goals try exact fun _ _ _ => rfl
  · exact Detector.boundless_fallible fun roomy =>
      congrFun₂ (Arrays.callbackFindings_eq_unlimited roomy) _ _
  · exact Detector.boundless_fallible fun roomy =>
      congrFun₂ (Arrays.callbackFindings_eq_unlimited roomy) _ _
  · exact Detector.boundless_fallible Components.propsDestructuring_eq_unlimited
  · exact Detector.boundless_fallible Components.defaultProps_eq_unlimited
  · exact Detector.boundless_fallible State.reducers_eq_unlimited
  · exact Detector.boundless_fallibleHazards fun roomy =>
      congrArg (Except.map _) (Hazards.nestingConstructs_eq_unlimited roomy)
  · exact Detector.boundless_fallibleHazards Hazards.earlyUses_eq_unlimited

end Detectors

/-! ### Readings -/

/-- A limit on depth is not below the height of any tree that a source has. -/
def Parses.Within (parses : Parses) (depth : Bound) : Prop :=
  ∀ grammar tree, parses grammar = some tree → depth.NotBelow tree.height

namespace Reading

variable {parses : Parses} {depth : Bound} {hint : Option Dialect} {dialect : Dialect}
  {parsed : Parsed}

theorem parseWith_eq_unlimited (room : parses.Within depth) :
    parseWith parses depth = parseWith parses .absent := by
  funext grammar
  unfold parseWith
  cases found : parses grammar with
  | none => rfl
  | some root =>
    obtain ⟨limit, read, room⟩ := Bound.exists_depthLimit (room grammar root found)
    rw [read]
    exact congrArg (fun index => Except.ok (⟨root, index⟩ : Parsed)) (Index.build_eq_unlimited room)

theorem parse_eq_unlimited (room : parses.Within depth) :
    parse parses depth hint = parse parses .absent hint := by
  unfold parse
  rw [parseWith_eq_unlimited room]

/-- A tree that was read is one that a grammar yields. -/
theorem exists_parseWith_of_parse (ended : parse parses depth hint = .ok (dialect, parsed)) :
    ∃ grammar, parseWith parses depth grammar = .ok parsed := by
  cases hint with
  | some asked =>
    obtain ⟨_, read, same⟩ := map_eq_ok.1 ended
    cases same
    exact ⟨_, read⟩
  | none =>
    obtain ⟨first, read, ended⟩ := bind_eq_ok.1 ended
    dsimp only at ended
    split at ended
    · cases ended
      exact ⟨_, read⟩
    · obtain ⟨_, read, same⟩ := map_eq_ok.1 ended
      cases same
      exact ⟨_, read⟩

theorem root_of_parse (ended : parse parses .absent hint = .ok (dialect, parsed)) :
    (∃ grammar, parses grammar = some parsed.root) ∧ parsed.index.truncated = false := by
  obtain ⟨grammar, read⟩ := exists_parseWith_of_parse ended
  unfold parseWith at read
  cases found : parses grammar with
  | none => rw [found] at read; cases read
  | some root =>
    rw [found] at read
    cases read
    exact ⟨⟨grammar, found⟩, Index.truncated_build_unlimited root⟩

/-- The reading of a tree that was not cut. -/
def ofWhole (dialect : Dialect) (parsed : Parsed) : Reading :=
  let errors := Diagnostic.syntaxErrors Diagnostic.maxSyntaxErrors parsed.root
  if isHopeless parsed.root then failure dialect "No statement could be recovered" errors
  else ofUsable dialect parsed errors

/-- The reading of a source without limits. -/
def unlimited (parses : Parses) (hint : Option Dialect) : Source → Reading
  | .surrogates value first last =>
    failure (hint.getD .javascript)
      ("Source is not valid UTF-8: " ++ Source.encodingError value first last) []
  | .text _ =>
    match parse parses .absent hint with
    | .error message => failure (hint.getD .javascript) ("Parser unavailable: " ++ message) []
    | .ok (dialect, parsed) => ofWhole dialect parsed

/-- What comes of a tree that was not cut does not depend on the limit. -/
theorem ofParsed_of_whole (whole : parsed.index.truncated = false) :
    ofParsed dialect depth parsed = .ok (ofWhole dialect parsed) := by
  unfold ofParsed ofWhole
  simp only [whole, Bool.false_eq_true, if_false]
  split <;> rfl

/-- A source that is not longer and has no higher trees than the limits say is read whole. -/
theorem read_eq_unlimited {limits : ReadingLimits} {source : Source}
    (bytes : ∀ content, source = .text content →
      limits.sourceBytes.NotBelow content.utf8ByteSize)
    (levels : parses.Within limits.treeDepth) :
    read limits parses hint source = .ok (unlimited parses hint source) := by
  cases source with
  | surrogates value first last => rfl
  | text content =>
    unfold read unlimited
    simp only [Bound.exceededBy_of_notBelow (bytes content rfl), parse_eq_unlimited levels]
    cases ended : parse parses .absent hint with
    | error message => rfl
    | ok result =>
      obtain ⟨dialect, parsed⟩ := result
      exact ofParsed_of_whole (root_of_parse ended).2

theorem parsed_of_unlimited {source : Source}
    (read : (unlimited parses hint source).parsed = some parsed) :
    (∃ grammar, parses grammar = some parsed.root) ∧ parsed.index.truncated = false := by
  unfold unlimited at read
  split at read
  · cases read
  · split at read
    · cases read
    · rename_i ended
      unfold ofWhole at read
      dsimp only at read
      split at read
      · cases read
      · cases read
        exact root_of_parse ended

end Reading

theorem Diagnostic.message_truncation (limit : String) :
    (truncation limit).message = "Tree deeper than " ++ limit ++ " levels; truncated" := rfl

theorem Diagnostic.truncation_ne {diagnostic : Diagnostic} (limit : String)
    (apart : diagnostic.message.toList.head? ≠ some 'T') : truncation limit ≠ diagnostic := by
  intro same
  rw [← same, message_truncation] at apart
  simp at apart

namespace Reading

theorem truncation_notMem_failure {dialect : Dialect} {message limit : String}
    {others : List Diagnostic} (apart : message.toList.head? ≠ some 'T')
    (rest : .truncation limit ∉ others) :
    .truncation limit ∉ (failure dialect message others).diagnostics := by
  intro member
  rcases List.mem_cons.1 member with first | later
  · exact Diagnostic.truncation_ne limit apart first
  · exact rest later

/-- A reading without limits does not complain about a tree that is cut. -/
theorem truncation_notMem_unlimited (parses : Parses) (hint : Option Dialect) (source : Source)
    (limit : String) : .truncation limit ∉ (unlimited parses hint source).diagnostics := by
  unfold unlimited
  split
  · exact truncation_notMem_failure (by simp) List.not_mem_nil
  · split
    · exact truncation_notMem_failure (by simp) List.not_mem_nil
    · rename_i dialect parsed ended
      -- Syntax errors have a line, and this complaint has none.
      have others : Diagnostic.truncation limit ∉
          Diagnostic.syntaxErrors Diagnostic.maxSyntaxErrors parsed.root := by
        intro member
        exact absurd (Diagnostic.line_pos_of_mem_syntaxErrors member) (Int.lt_irrefl 0)
      unfold ofWhole
      dsimp only
      split
      · exact truncation_notMem_failure (by simp) others
      · exact others

end Reading

/-! ### Analyses -/

namespace Task

/-- Rules find the same as without limits. -/
theorem detect_eq_unlimited {limits : SearchLimits} {parsed : Parsed}
    (scan : limits.scanDepth.NotBelow parsed.root.height)
    (tree : limits.treeDepth.NotBelow parsed.root.height) (origin : Origin) (isReact : Bool)
    (earlier : List Diagnostic) :
    detect origin isReact earlier (some (Subject.ofParsed limits parsed)) =
      detect origin isReact earlier (some (Subject.ofParsed ⟨.absent, .absent⟩ parsed)) := by
  apply Engine.run_congr
  intro rule listed
  obtain ⟨collection, known, detector, held, rfl⟩ := Detectors.mem_allRules.1 listed
  have boundless := Detectors.boundless_of_mem collection known detector held
  have same : detector.run (Subject.ofParsed limits parsed) =
      detector.run (Subject.ofParsed ⟨.absent, .absent⟩ parsed) :=
    congrArg (Except.map _) (boundless parsed.root _ ⟨scan, tree⟩)
  exact congrArg (Except.map some) same

/-- The limits of a task are not below the length of its source and the heights of its trees. -/
structure HasRoom (task : Task) (limits : Limits) : Prop where
  limited : task.limits = .ok limits
  bytes : ∀ content, task.source = .text content →
    limits.sourceBytes.NotBelow content.utf8ByteSize
  levels : task.parses.Within limits.treeDepth
  scans : task.parses.Within limits.scanDepth

namespace HasRoom

variable {task : Task} {limits : Limits} (room : task.HasRoom limits)

include room

theorem reading_eq_unlimited :
    task.reading limits = Reading.unlimited task.parses task.hint task.source := by
  unfold reading
  rw [Reading.read_eq_unlimited room.bytes room.levels]

theorem detect_eq_unlimited (origin : Origin) (isReact : Bool) (earlier : List Diagnostic) :
    detect origin isReact earlier
        ((task.reading limits).parsed.map (Subject.ofParsed limits.search)) =
      detect origin isReact earlier
        ((task.reading limits).parsed.map (Subject.ofParsed ⟨.absent, .absent⟩)) := by
  cases read : (task.reading limits).parsed with
  | none => rfl
  | some parsed =>
    rw [room.reading_eq_unlimited] at read
    obtain ⟨⟨grammar, yielded⟩, -⟩ := Reading.parsed_of_unlimited read
    exact Task.detect_eq_unlimited (room.scans grammar _ yielded) (room.levels grammar _ yielded) ..

/-- A tree that was read is whole, and no diagnostic says that it was cut. -/
theorem untruncated {analysis : Analysis} (ended : task.analyze = .ok analysis) :
    (∀ parsed, analysis.reading.parsed = some parsed → parsed.index.truncated = false) ∧
      ∀ limit, .truncation limit ∉ analysis.diagnostics := by
  obtain ⟨limits', settings, limited, -, assembled⟩ := assembled_of_analyze ended
  obtain rfl : limits = limits' := Except.ok.inj (room.limited.symm.trans limited)
  have read := assembled.reading_eq.trans room.reading_eq_unlimited
  constructor
  · intro parsed found
    rw [read] at found
    exact (Reading.parsed_of_unlimited found).2
  · -- Reading and the dialect have other complaints, and rules and linter have them elsewhere.
    intro limit member
    obtain ⟨complaints, diagnostics, -, others⟩ := assembled.diagnostics_eq
    rw [diagnostics] at member
    rcases List.mem_append.1 member with early | late
    · rcases List.mem_append.1 early with reading | dialect
      · rw [read] at reading
        exact Reading.truncation_notMem_unlimited _ _ _ limit reading
      · rw [assembled.dialect_eq] at dialect
        split at dialect
        · exact absurd dialect List.not_mem_nil
        · split at dialect
          · exact absurd dialect List.not_mem_nil
          · exact Diagnostic.truncation_ne limit (by simp) (List.mem_singleton.1 dialect)
    · exact others _ late rfl

end HasRoom

/-- The keys of the limits on how far an analysis goes. -/
def reachKeys : List String := ["max_source_bytes", "max_tree_depth", "max_scan_depth"]

/-- The value that an analysis finds under a key of a section. -/
def setting (task : Task) (name key : String) : Except Fault (Option Json) :=
  (sectionValues task.config name (Config.defaults.sectionOf name)).map fun members =>
    Keyed.get? members key

/-- Two tasks that differ at most in the limits on how far an analysis goes. -/
structure SameApartFromReach (first second : Task) : Prop where
  source_eq : first.source = second.source
  parses_eq : first.parses = second.parses
  dialect_eq : first.dialect = second.dialect
  linting_eq : first.linting = second.linting
  execution_eq : first.execution = second.execution
  setting_eq : ∀ name key, (name = "limits" → key ∉ reachKeys) →
    first.setting name key = second.setting name key

/-- Sections with the same values under all keys can both be read, or neither can. -/
theorem members_of_map_eq {values values' : Except Fault (Keyed Json)}
    (same : ∀ key, values.map (fun members => Keyed.get? members key) =
      values'.map fun members => Keyed.get? members key) :
    (∃ fault, values = .error fault ∧ values' = .error fault) ∨
      ∃ members members', values = .ok members ∧ values' = .ok members' ∧
        ∀ key, Keyed.get? members key = Keyed.get? members' key := by
  cases values with
  | error fault =>
    cases values' with
    | error fault' => exact .inl ⟨fault, rfl, (congrArg _ (Except.error.inj (same ""))).symm⟩
    | ok members' => cases same ""
  | ok members =>
    cases values' with
    | error fault' => cases same ""
    | ok members' => exact .inr ⟨members, members', rfl, rfl, fun key => Except.ok.inj (same key)⟩

namespace SameApartFromReach

variable {first second : Task} (same : first.SameApartFromReach second)

include same

theorem topIssues_eq {limits limits' : Limits} (limited : first.limits = .ok limits)
    (limited' : second.limits = .ok limits') : limits.topIssues = limits'.topIssues := by
  obtain ⟨members, read, rfl⟩ := map_eq_ok.1 limited
  obtain ⟨members', read', rfl⟩ := map_eq_ok.1 limited'
  have found : (Except.ok (Keyed.get? members "max_top_issues") : Except Fault (Option Json)) =
      .ok (Keyed.get? members' "max_top_issues") :=
    calc
      _ = first.setting "limits" "max_top_issues" := (map_eq_ok.2 ⟨members, read, rfl⟩).symm
      _ = second.setting "limits" "max_top_issues" := same.setting_eq _ _ fun _ => by decide
      _ = _ := map_eq_ok.2 ⟨members', read', rfl⟩
  exact congrArg (fun json : Option Json => Bound.ofJson (json.getD .null)) (Except.ok.inj found)

theorem linterSettings_eq : first.linterSettings = second.linterSettings := by
  have found : ∀ key,
      (sectionValues first.config "eslint" Config.defaultLinter).map
          (fun members => Keyed.get? members key) =
        (sectionValues second.config "eslint" Config.defaultLinter).map
          fun members => Keyed.get? members key :=
    fun key => same.setting_eq "eslint" key fun limits => absurd limits (by decide)
  unfold linterSettings
  rw [same.linting_eq]
  rcases members_of_map_eq found with ⟨fault, read, read'⟩ | ⟨members, members', read, read', agree⟩
  · rw [read, read']
  · have settings : Linter.Settings.ofMembers members = Linter.Settings.ofMembers members' := by
      simp only [Linter.Settings.ofMembers, agree]
    rw [read, read']
    simp only [Except.map, settings]

end SameApartFromReach

/-! ### Main statement -/

/-- Limits that are not reached have no effect. Two tasks that differ only in the limits on how far
an analysis goes have the same result if for both of them these limits are not below the length of
the source and the heights of its trees; no tree is then cut, and no diagnostic says that one is.
There is a result if the settings of the linter can be read and the number of issues that are
shown first is a whole number. -/
theorem limits_without_effect {first second : Task} {limits limits' : Limits}
    (same : first.SameApartFromReach second) (room : first.HasRoom limits)
    (room' : second.HasRoom limits') :
    first.analyze = second.analyze ∧
      (∀ analysis, first.analyze = .ok analysis →
        (∀ parsed, analysis.reading.parsed = some parsed → parsed.index.truncated = false) ∧
        ∀ limit, .truncation limit ∉ analysis.diagnostics) ∧
      ∀ settings value, first.linterSettings = .ok settings →
        first.setting "limits" "max_top_issues" = .ok (some value) → value.isWhole = true →
          ∃ analysis, first.analyze = .ok analysis := by
  refine ⟨?_, fun analysis ended => room.untruncated ended, ?_⟩
  · have read : first.reading limits = second.reading limits' := by
      rw [room.reading_eq_unlimited, room'.reading_eq_unlimited, hint, hint, same.source_eq,
        same.parses_eq, same.dialect_eq]
    unfold analyze
    rw [room.limited, room'.limited, same.linterSettings_eq]
    cases second.linterSettings with
    | error fault => rfl
    | ok settings =>
      show Analysis.summarize _ _ _ _ = Analysis.summarize _ _ _ _
      -- Without the limits of the detectors both sides depend on the same things.
      simp only [room.detect_eq_unlimited, room'.detect_eq_unlimited]
      rw [read, same.execution_eq, dialectDiagnostics_congr same.dialect_eq,
        same.topIssues_eq room.limited room'.limited]
  · intro settings value set counted whole
    obtain ⟨members, values, rfl⟩ := map_eq_ok.1 room.limited
    obtain ⟨_, values', found⟩ := map_eq_ok.1 counted
    cases values.symm.trans values'
    refine exists_analysis_of_cut room.limited set fun issues => ?_
    show ∃ part, (Bound.ofJson (Option.getD _ _)).cut issues = _
    rw [found]
    exact Bound.exists_cut whole issues

/-- A callback that returns a number at the lowest level of its tree, with limits that are just
enough and with the default ones. -/
theorem limits_without_effect_lowest :
    let tree : Tree := .node { name := "program", stop := 23 }
      [.node { name := "expression_statement", stop := 23 }
        [.node { name := "call_expression", stop := 23 }
          [.node { name := "member_expression", role := some .function, stop := 5 }
            [.node { name := "identifier", role := some .object, stop := 1, text := "a" } [],
             .node { name := "property_identifier", role := some .property, start := 2, stop := 5,
                     text := "map" } []],
           .node { name := "arguments", role := some .arguments, start := 5, stop := 23 }
            [.node { name := "arrow_function", start := 6, stop := 22 }
              [.node { name := "formal_parameters", role := some .parameters, start := 6,
                       stop := 8 } [],
               .node { name := "statement_block", role := some .body, start := 12, stop := 22 }
                [.node { name := "return_statement", start := 13, stop := 21 }
                  [.node { name := "number", start := 20, stop := 21, text := "1" } []]]]]]]]
    let task : Task :=
      { source := .text "a.map(() => \x7breturn 1\x7d)"
        parses := fun _ => some tree
        linting := some false }
    let tight : Task :=
      { task with
        config := [("limits", .object
          [("max_source_bytes", .int 23), ("max_tree_depth", .int 7),
           ("max_scan_depth", .int 7)])] }
    tree.height = 7 ∧ tight.SameApartFromReach task ∧
      (∃ limits, tight.HasRoom limits) ∧ (∃ limits, task.HasRoom limits) ∧
      ∃ analysis, tight.analyze = .ok analysis ∧ task.analyze = .ok analysis ∧
        analysis.topics.contains "array-map" = true ∧
        (∀ parsed, analysis.reading.parsed = some parsed → parsed.index.truncated = false) ∧
        ∀ limit, .truncation limit ∉ analysis.diagnostics := by
  intro tree task tight
  have height : tree.height = 7 := by decide +kernel
  have same : tight.SameApartFromReach task := by
    refine ⟨rfl, rfl, rfl, rfl, rfl, fun name key other => ?_⟩
    by_cases limits : name = "limits"
    · subst limits
      have apart := other rfl
      simp only [reachKeys, List.mem_cons, List.not_mem_nil, or_false, not_or] at apart
      refine congrArg Except.ok ((Keyed.get?_putAll ..).trans ?_)
      simp [Keyed.get?_cons, Ne.symm apart.1, Ne.symm apart.2.1, Ne.symm apart.2.2]
    · simp [setting, sectionValues, tight, task, Keyed.get?_cons, Ne.symm limits]
  have bytes : ∀ length : Int, 23 ≤ length → ∀ content, task.source = .text content →
      (Bound.int length).NotBelow content.utf8ByteSize := by
    intro length enough content written
    cases written
    exact enough
  have within : ∀ levels : Int, 7 ≤ levels → task.parses.Within (.int levels) := by
    intro levels enough grammar _ yielded
    cases yielded
    show ((tree.height : Nat) : Int) ≤ levels
    rw [height]
    exact enough
  have room : tight.HasRoom
      { Limits.default with
        sourceBytes := .int 23, treeDepth := .int 7, scanDepth := .int 7 } :=
    ⟨rfl, bytes 23 (by decide), within 7 (by decide), within 7 (by decide)⟩
  have room' : task.HasRoom Limits.default :=
    ⟨rfl, bytes 262144 (by decide), within 400 (by decide), within 20 (by decide)⟩
  have computed : (tight.analyze.toOption.any fun analysis =>
      analysis.topics.contains "array-map") = true := by
    decide +kernel
  obtain ⟨analysis, ended, found⟩ := exists_ok_of_any computed
  obtain ⟨equal, untruncated, -⟩ := limits_without_effect same room room'
  obtain ⟨whole, silent⟩ := untruncated analysis ended
  exact ⟨height, same, ⟨_, room⟩, ⟨_, room'⟩, analysis, ended, equal.symm.trans ended, found, whole,
    silent⟩

end Task

end SnippetTutor
