import Mathlib.Data.List.Basic
import SnippetTutor.Detectors.Hazards.Misuse
import SnippetTutor.Proofs.Success

/-!
# Variables before their values

A function-scoped variable can be declared again and again, and get a value from several statements.
Of all the lines on which it gets one by its bare name, only that of the last statement is
remembered, and uses on earlier lines are reported against it.

* `get?_initializerLines`: what is remembered is the line of the last statement;
* `earlyUse_eq_some_iff` and `exists_walk_of_mem`: what a report says, and where it is;
* `isRight_iff`: a report is right if no statement gives the variable a value on a line before the
  one that is reported;
* `earlyUses_right_iff` puts this together for all reports.
-/

namespace SnippetTutor.Detectors.Hazards

variable {root : Tree} {statement : Node root} {statements : List (Node root)} {name : String}

/-! ### Statements that give values -/

/-- A statement declares a function-scoped variable and gives it a value, by its bare name or as a
part of a pattern. -/
def Initializes (name : String) (statement : Node root) : Prop :=
  isVarStatement statement = true ∧
    ∃ declarator ∈ statement.declarators,
      name ∈ Node.namesIn declarator.declaratorParts.1 ∧ declarator.declaratorParts.2.isSome = true

/-- The variable that a declarator gives a value by its bare name. -/
def valuedName (declarator : Node root) : Option String :=
  match declarator.declaratorName, declarator.declaratorParts.2 with
  | some name, some _ => some name
  | _, _ => none

/-- The variables that a statement gives values by their bare names. -/
def valuedNames (statement : Node root) : List String :=
  if isVarStatement statement then statement.declarators.filterMap valuedName else []

/-- The line of the last statement that gives a variable a value by its bare name. -/
def lastLine (statements : List (Node root)) (name : String) : Option Int :=
  (statements.filter fun statement => name ∈ valuedNames statement).getLast?.map Node.line

theorem valuedName_eq_some_iff {declarator : Node root} :
    valuedName declarator = some name ↔
      declarator.declaratorName = some name ∧ declarator.declaratorParts.2.isSome = true := by
  unfold valuedName
  split
  · rename_i found value
    simp [found, value]
  · rename_i other
    refine iff_of_false (by simp) ?_
    rintro ⟨found, value⟩
    obtain ⟨value, there⟩ := Option.isSome_iff_exists.1 value
    exact other _ _ found there

theorem mem_valuedNames_iff :
    name ∈ valuedNames statement ↔
      isVarStatement statement = true ∧
        ∃ declarator ∈ statement.declarators, valuedName declarator = some name := by
  unfold valuedNames
  split
  · rename_i declares
    rw [List.mem_filterMap, and_iff_right declares]
  · rename_i other
    exact iff_of_false List.not_mem_nil fun both => other both.1

theorem initializes_of_mem_valuedNames (valued : name ∈ valuedNames statement) :
    Initializes name statement := by
  obtain ⟨declares, declarator, listed, found⟩ := mem_valuedNames_iff.1 valued
  obtain ⟨named, value⟩ := valuedName_eq_some_iff.1 found
  exact ⟨declares, declarator, listed, Node.mem_namesIn_of_declaratorName named, value⟩

theorem exists_of_lastLine {line : Int} (last : lastLine statements name = some line) :
    ∃ statement ∈ statements, Initializes name statement ∧ statement.line = line := by
  obtain ⟨statement, found, rfl⟩ := Option.map_eq_some_iff.1 last
  obtain ⟨listed, valued⟩ := List.mem_filter.1 (List.mem_of_getLast? found)
  exact ⟨statement, listed, initializes_of_mem_valuedNames (of_decide_eq_true valued), rfl⟩

/-! ### The lines that are remembered -/

/-- What is remembered of several names that are put on one line. -/
theorem get?_foldl_put (names : List String) (line : Int) (lines : Keyed Int) (key : String) :
    (names.foldl (fun lines name => lines.put name line) lines).get? key =
      if key ∈ names then some line else lines.get? key := by
  induction names generalizing lines with
  | nil => rfl
  | cons name names ih =>
    rw [List.foldl_cons, ih, Keyed.get?_put]
    by_cases later : key ∈ names
    · simp [later]
    · by_cases same : name = key
      · simp [later, same]
      · simp [later, same, Ne.symm same]

/-- The lines that are remembered after one more statement. -/
def remember (lines : Keyed Int) (statement : Node root) : Keyed Int :=
  (valuedNames statement).foldl (fun lines name => lines.put name statement.line) lines

/-- Statements are remembered one after the other. -/
theorem initializerLines_eq (statements : List (Node root)) :
    initializerLines statements = statements.foldl remember [] := by
  unfold initializerLines
  rw [List.foldl_filter]
  congr
  funext lines statement
  unfold remember valuedNames
  split
  · rw [List.foldl_filterMap]
    congr
    funext lines declarator
    unfold valuedName
    cases declarator.declaratorName with
    | none => rfl
    | some name => cases declarator.declaratorParts.2 <;> rfl
  · rfl

theorem lastLine_cons (statement : Node root) (rest : List (Node root)) (name : String) :
    lastLine (statement :: rest) name =
      (lastLine rest name).or
        (if name ∈ valuedNames statement then some statement.line else none) := by
  unfold lastLine
  by_cases valued : name ∈ valuedNames statement
  · rw [List.filter_cons, if_pos (decide_eq_true valued), List.getLast?_cons, if_pos valued]
    cases (rest.filter fun statement => name ∈ valuedNames statement).getLast? <;> rfl
  · rw [List.filter_cons, if_neg (by simpa using valued), if_neg valued, Option.or_none]

theorem get?_foldl_remember (lines : Keyed Int) :
    (statements.foldl remember lines).get? name =
      (lastLine statements name).or (lines.get? name) := by
  -- What was remembered before counts only for names that no statement gives a value.
  induction statements generalizing lines with
  | nil => rfl
  | cons statement rest ih =>
    rw [List.foldl_cons, ih, remember, get?_foldl_put, lastLine_cons, Option.or_assoc]
    split <;> rfl

/-- What is remembered is the line of the last statement. -/
theorem get?_initializerLines :
    (initializerLines statements).get? name = lastLine statements name := by
  rw [initializerLines_eq, get?_foldl_remember, Keyed.get?_nil, Option.or_none]

/-! ### Reports -/

/-- A report names a variable, the line on which it is used, and the line on which it last gets a
value by its bare name. -/
structure Reports (context : Context root) (hazard : Hazard root) (name : String) (line : Int) :
    Prop where
  use : hazard.site.kind = .identifier ∨ hazard.site.kind = .shorthandPropertyIdentifier
  text : hazard.site.text = name
  details : hazard.details = earlyUseText name hazard.site.line line
  before : hazard.site.line < line
  remembered : lastLine context.statements name = some line
  not_function : name ∉ declaredFunctions context.statements

/-- A report is right if the variable gets no value up to the line on which it is used, and gets its
first value after it on the line that is reported. -/
structure IsRight (statements : List (Node root)) (name : String) (used line : Int) : Prop where
  none_before : ∀ statement ∈ statements, Initializes name statement → used < statement.line
  there : ∃ statement ∈ statements, Initializes name statement ∧ statement.line = line
  first_after : ∀ statement ∈ statements, Initializes name statement → used < statement.line →
    line ≤ statement.line

/-- A report is right if the variable gets no value on a line before the one that is reported. -/
theorem isRight_iff {used line : Int} (before : used < line)
    (remembered : lastLine statements name = some line) :
    IsRight statements name used line ↔
      ∀ statement ∈ statements, Initializes name statement → line ≤ statement.line := by
  constructor
  · intro right statement listed valued
    exact right.first_after statement listed valued (right.none_before statement listed valued)
  · intro first
    exact
      { none_before := fun statement listed valued =>
          Int.lt_of_lt_of_le before (first statement listed valued)
        there := exists_of_lastLine remembered
        first_after := fun statement listed valued _ => first statement listed valued }

theorem earlyUse_eq_some_iff {lines : Keyed Int} {functions : List String} {node : Node root}
    {hazard : Hazard root} :
    earlyUse lines functions node = some (name, hazard) ↔
      (node.kind = .identifier ∨ node.kind = .shorthandPropertyIdentifier) ∧ node.text = name ∧
        ∃ line, lines.get? name = some line ∧ name ∉ functions ∧ node.line < line ∧
          hazard = { site := node, details := earlyUseText name node.line line } := by
  unfold earlyUse
  constructor
  · intro reported
    split at reported
    · rename_i use
      obtain ⟨line, found, reported⟩ := Option.bind_eq_some_iff.1 reported
      split at reported
      · rename_i early
        cases reported
        exact ⟨by simpa using use, rfl, line, found, by simpa using early⟩
      · cases reported
    · cases reported
  · rintro ⟨use, rfl, line, found, unknown, early, rfl⟩
    simp [use, found, unknown, early]

/-- A report is about a place met on the walk from a statement that is no function. -/
theorem exists_walk_of_mem {context : Context root} {hazards : List (Hazard root)}
    (found : earlyUses context = .ok hazards) {hazard : Hazard root}
    (reported : hazard ∈ hazards) :
    ∃ statement ∈ context.statements, statement.isDeferred = false ∧
      ∃ limit, context.scanDepth.depthLimit = .ok limit ∧
        ∃ node ∈ statement.walk Node.isDeferred limit, ∃ name,
          earlyUse (initializerLines context.statements)
            (declaredFunctions context.statements) node = some (name, hazard) := by
  unfold earlyUses at found
  dsimp only at found
  split at found
  · cases found
    cases reported
  · obtain ⟨walks, walked, found⟩ := bind_eq_ok.1 found
    cases found
    obtain ⟨name, listed⟩ := Hazard.exists_name_of_mem_oncePerName reported
    obtain ⟨node, met, use⟩ := List.mem_filterMap.1 listed
    obtain ⟨walk, taken, met⟩ := List.mem_flatten.1 met
    obtain ⟨statement, chosen, scanned⟩ := exists_of_mem_mapM walked taken
    obtain ⟨limit, limited, rfl⟩ := map_eq_ok.1 scanned
    obtain ⟨listed, atOnce⟩ := List.mem_filter.1 chosen
    simp only [Bool.and_eq_true, Bool.not_eq_true'] at atOnce
    exact ⟨statement, listed, atOnce.2, limit, limited, node, met, name, use⟩

theorem exists_reports_of_mem {context : Context root} {hazards : List (Hazard root)}
    (found : earlyUses context = .ok hazards) {hazard : Hazard root}
    (reported : hazard ∈ hazards) : ∃ name line, Reports context hazard name line := by
  obtain ⟨_, -, -, _, -, node, -, name, use⟩ := exists_walk_of_mem found reported
  obtain ⟨kind, text, line, known, other, early, rfl⟩ := earlyUse_eq_some_iff.1 use
  rw [get?_initializerLines] at known
  exact ⟨name, line, ⟨kind, text, rfl, early, known, other⟩⟩

/-- Whenever a variable is reported, the report names the line on which it last gets a value by its
bare name, which is after the use. So the report is right exactly if no statement of the program
gives the variable a value on a line before the one that is reported. -/
theorem earlyUses_right_iff (root : Tree) (context : Context root) (hazards : List (Hazard root))
    (found : earlyUses context = .ok hazards) (hazard : Hazard root) (reported : hazard ∈ hazards) :
    ∃ name line, Reports context hazard name line ∧
      (IsRight context.statements name hazard.site.line line ↔
        ∀ statement ∈ context.statements, Initializes name statement → line ≤ statement.line) := by
  obtain ⟨name, line, reports⟩ := exists_reports_of_mem found reported
  exact ⟨name, line, reports, isRight_iff reports.before reports.remembered⟩

/-- In `x; var x = 1;`, with a line for each statement, the report about the first line is right. -/
theorem earlyUse_before_value :
    let root : Tree :=
      .node { name := "program" }
        [.node { name := "expression_statement" } [.node { name := "identifier", text := "x" } []],
         .node { name := "variable_declaration", row := 1 }
          [.node { name := "variable_declarator" }
            [.node { name := "identifier", role := some .name, text := "x" } [],
             .node { name := "number", role := some .value, text := "1" } []]]]
    let context : Context root :=
      { index := Index.build root (.atMost 100), scanDepth := .int 20, treeDepth := .int 100 }
    ∃ hazards, earlyUses context = .ok hazards ∧ ∃ hazard ∈ hazards, ∃ name line,
      Reports context hazard name line ∧ IsRight context.statements name hazard.site.line line := by
  intro root context
  have computed : (earlyUses context).toOption.any (fun hazards => !hazards.isEmpty) = true := by
    decide +kernel
  have single : ∀ statement ∈ context.statements, isVarStatement statement = true →
      statement.line = 2 := by
    decide +kernel
  obtain ⟨hazards, found, some⟩ := exists_ok_of_any computed
  obtain ⟨hazard, reported⟩ := List.isEmpty_eq_false_iff_exists_mem.1 (by simpa using some)
  obtain ⟨name, line, reports, right_iff⟩ :=
    earlyUses_right_iff _ context hazards found hazard reported
  obtain ⟨last, listed, valued, rfl⟩ := exists_of_lastLine reports.remembered
  refine ⟨hazards, found, hazard, reported, name, _, reports, right_iff.2 ?_⟩
  intro statement member gives
  exact Int.le_of_eq ((single last listed valued.1).trans (single statement member gives.1).symm)

/-- In `var x = 1; x; var x = 1;`, with a line for each statement, the use on the second line is
reported against the third one, although the variable gets a value on the first. -/
theorem earlyUse_between_values :
    let root : Tree :=
      .node { name := "program" }
        [.node { name := "variable_declaration" }
          [.node { name := "variable_declarator" }
            [.node { name := "identifier", role := some .name, text := "x" } [],
             .node { name := "number", role := some .value, text := "1" } []]],
         .node { name := "expression_statement", row := 1 }
          [.node { name := "identifier", text := "x", row := 1 } []],
         .node { name := "variable_declaration", row := 2 }
          [.node { name := "variable_declarator" }
            [.node { name := "identifier", role := some .name, text := "x" } [],
             .node { name := "number", role := some .value, text := "1" } []]]]
    let context : Context root :=
      { index := Index.build root (.atMost 100), scanDepth := .int 20, treeDepth := .int 100 }
    ∃ hazards, earlyUses context = .ok hazards ∧
      (∃ hazard ∈ hazards, hazard.site.line = 2 ∧ hazard.details = earlyUseText "x" 2 3) ∧
      ¬IsRight context.statements "x" 2 3 := by
  intro root context
  have computed : (earlyUses context).toOption.any (fun hazards => hazards.any fun hazard =>
      hazard.site.line = 2 && hazard.details = earlyUseText "x" 2 3) = true := by
    decide +kernel
  have valued : context.statements.any (fun statement =>
      "x" ∈ valuedNames statement && statement.line = 1) = true := by
    decide +kernel
  obtain ⟨hazards, found, reports⟩ := exists_ok_of_any computed
  obtain ⟨hazard, reported, facts⟩ := List.any_eq_true.1 reports
  obtain ⟨statement, listed, early⟩ := List.any_eq_true.1 valued
  simp only [Bool.and_eq_true, decide_eq_true_eq] at facts early
  refine ⟨hazards, found, ⟨hazard, reported, facts⟩, fun right => ?_⟩
  have later := right.none_before statement listed (initializes_of_mem_valuedNames early.1)
  omega

end SnippetTutor.Detectors.Hazards
