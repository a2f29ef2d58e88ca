import Mathlib.Data.List.TakeWhile
import Mathlib.Tactic.Tauto
import SnippetTutor.Detectors.Strings

/-!
# Groups in regular expressions

An opening parenthesis opens a group unless a backslash before it or a character class around it
takes its meaning away. It opens a capturing one if no question mark follows, or a question mark
with a name. The search for groups looks at what follows a parenthesis only, and not at what stands
before it.

* `Stance` is what a reader knows after some characters, and `IsActive` says that the next one has
  its own meaning;
* `HasGroup` and `HasNamedGroup` are about groups, `LooksGrouped` and `LooksNamed` about what is
  taken for them: the difference are parentheses without meaning and one at the very end
  (`not_hasGroup_iff`), and there is none in a pattern without backslashes, classes and such an end
  (`LooksGrouped.hasGroup`, `LooksNamed.hasNamedGroup`);
* `looksGrouped_iff` and `hasNamedGroup_iff` say that the two searches find just what looks so;
* `regexGroups_right_iff` puts this together: which expression is reported, with which text, and
  when it has such a group.
-/

namespace SnippetTutor.Detectors.Strings

variable {root : Tree} {context : Context root} {node : Node root}
variable {pattern before after rest : List Char} {c : Char}

/-! ### Characters with and without meaning -/

/-- What a reader of a pattern knows after some characters. -/
structure Stance where
  /-- The last character is a backslash that is not escaped itself. -/
  escaped : Bool := false
  /-- A character class has been opened and not closed. -/
  inClass : Bool := false

/-- What the reader knows after one more character. -/
def Stance.next (stance : Stance) (c : Char) : Stance where
  escaped := !stance.escaped && c == '\\'
  inClass :=
    if stance.escaped then stance.inClass
    else if stance.inClass then c != ']'
    else c == '['

/-- What a reader knows after the given characters. -/
def stanceAfter (before : List Char) : Stance := before.foldl Stance.next {}

/-- The character behind the given ones is neither escaped nor in a character class. -/
def IsActive (before : List Char) : Prop :=
  (stanceAfter before).escaped = false ∧ (stanceAfter before).inClass = false

/-- Without backslashes and opening brackets all characters have their own meaning. -/
theorem isActive_of_not_mem (noEscape : '\\' ∉ before) (noClass : '[' ∉ before) :
    IsActive before := by
  have neutral : ∀ c ∈ before, c ≠ '\\' ∧ c ≠ '[' := by
    intro c member
    refine ⟨fun escape => noEscape ?_, fun opening => noClass ?_⟩
    · rwa [escape] at member
    · rwa [opening] at member
  have start : stanceAfter before = {} := by
    unfold stanceAfter
    clear noEscape noClass
    induction before with
    | nil => rfl
    | cons c before ih =>
      obtain ⟨⟨noEscape, noClass⟩, others⟩ := List.forall_mem_cons.1 neutral
      have step : Stance.next {} c = {} := by
        simp [Stance.next, noEscape, noClass]
      rw [List.foldl_cons, step]
      exact ih others
  simp [IsActive, start]

/-! ### Groups -/

/-- What follows a parenthesis gives the group a name. -/
def NamesGroup (after : List Char) : Prop :=
  ∃ name rest, after = '?' :: '<' :: (name ++ '>' :: rest) ∧ name ≠ [] ∧
    ∀ c ∈ name, Text.isWord c = true

/-- A group that captures has no question mark behind its parenthesis, or a name. -/
def OpensGroup (after : List Char) : Prop :=
  NamesGroup after ∨ ∃ c rest, after = c :: rest ∧ c ≠ '?'

/-- A pattern has a group that captures. -/
def HasGroup (pattern : List Char) : Prop :=
  ∃ before after, pattern = before ++ '(' :: after ∧ IsActive before ∧ OpensGroup after

/-- A pattern has a group that captures under a name. -/
def HasNamedGroup (pattern : List Char) : Prop :=
  ∃ before after, pattern = before ++ '(' :: after ∧ IsActive before ∧ NamesGroup after

/-- What follows a parenthesis is no question mark, or a name. -/
def LooksOpening (after : List Char) : Prop := NamesGroup after ∨ after.head? ≠ some '?'

/-- A pattern has a parenthesis that is taken for the beginning of a group. -/
def LooksGrouped (pattern : List Char) : Prop :=
  ∃ before after, pattern = before ++ '(' :: after ∧ LooksOpening after

/-- A pattern has a parenthesis that is taken for the beginning of a group with a name. -/
def LooksNamed (pattern : List Char) : Prop :=
  ∃ before after, pattern = before ++ '(' :: after ∧ NamesGroup after

/-- A parenthesis begins a group if it looks so, unless it ends the pattern. -/
theorem opensGroup_iff : OpensGroup after ↔ LooksOpening after ∧ after ≠ [] := by
  unfold OpensGroup LooksOpening
  cases after with
  | nil => simp [NamesGroup]
  | cons c rest => simp

/-- A pattern has no groups if each parenthesis that looks like the beginning of one has no meaning or
ends the pattern. -/
theorem not_hasGroup_iff :
    ¬HasGroup pattern ↔ ∀ before after, pattern = before ++ '(' :: after → LooksOpening after →
      ¬IsActive before ∨ after = [] := by
  unfold HasGroup
  simp only [opensGroup_iff, not_exists, not_and]
  refine forall₂_congr fun before after => forall_congr' fun _ => ?_
  tauto

theorem not_hasNamedGroup_iff :
    ¬HasNamedGroup pattern ↔ ∀ before after, pattern = before ++ '(' :: after →
      NamesGroup after → ¬IsActive before := by
  unfold HasNamedGroup
  simp only [not_exists, not_and]
  refine forall₂_congr fun before after => forall_congr' fun _ => ?_
  tauto

/-- Without backslashes and classes all that looks like a group is one, unless it ends the pattern. -/
theorem LooksGrouped.hasGroup (looks : LooksGrouped pattern) (noEscape : '\\' ∉ pattern)
    (noClass : '[' ∉ pattern) (noEnd : pattern.getLast? ≠ some '(') : HasGroup pattern := by
  obtain ⟨before, after, rfl, opens⟩ := looks
  rw [List.mem_append, not_or] at noEscape noClass
  refine ⟨before, after, rfl, isActive_of_not_mem noEscape.1 noClass.1, opensGroup_iff.2 ⟨opens, ?_⟩⟩
  rintro rfl
  exact noEnd List.getLast?_concat

/-- Without backslashes and classes all that looks like a group with a name is one. -/
theorem LooksNamed.hasNamedGroup (looks : LooksNamed pattern) (noEscape : '\\' ∉ pattern)
    (noClass : '[' ∉ pattern) : HasNamedGroup pattern := by
  obtain ⟨before, after, rfl, names⟩ := looks
  rw [List.mem_append, not_or] at noEscape noClass
  exact ⟨before, after, rfl, isActive_of_not_mem noEscape.1 noClass.1, names⟩

/-! ### The two searches -/

/-- A parenthesis with something behind it comes first, or later on. -/
theorem exists_parenthesis_cons_iff {test : List Char → Prop} :
    (∃ before after, c :: rest = before ++ '(' :: after ∧ test after) ↔
      (c = '(' ∧ test rest) ∨ ∃ before after, rest = before ++ '(' :: after ∧ test after := by
  constructor
  · rintro ⟨before, after, split, passed⟩
    cases before with
    | nil =>
      cases split
      exact .inl ⟨rfl, passed⟩
    | cons first before =>
      cases split
      exact .inr ⟨before, after, rfl, passed⟩
  · rintro (⟨rfl, passed⟩ | ⟨before, after, rfl, passed⟩)
    · exact ⟨[], rest, rfl, passed⟩
    · exact ⟨c :: before, after, rfl, passed⟩

/-- The search for parentheses without a question mark behind them. -/
theorem hasCapture_iff :
    hasCapture pattern = true ↔
      ∃ before after, pattern = before ++ '(' :: after ∧ after.head? ≠ some '?' := by
  fun_induction hasCapture pattern with
  | case1 => simp
  | case2 rest ih =>
    -- A question mark is no parenthesis, so nothing is lost with it.
    rw [ih, exists_parenthesis_cons_iff, exists_parenthesis_cons_iff]
    simp
  | case3 rest other =>
    rw [exists_parenthesis_cons_iff]
    refine iff_of_true rfl (.inl ⟨rfl, ?_⟩)
    cases rest with
    | nil => simp
    | cons c rest =>
      intro question
      cases question
      exact other rest rfl
  | case4 c rest _ other ih =>
    rw [ih, exists_parenthesis_cons_iff, or_iff_right fun here => other here.1]

theorem startsWithName_iff {text : List Char} :
    startsWithName text = true ↔
      ∃ name rest, text = name ++ '>' :: rest ∧ name ≠ [] ∧ ∀ c ∈ name, Text.isWord c = true := by
  have bracket : Text.isWord '>' = false := by decide +kernel
  unfold startsWithName
  rw [Bool.and_eq_true, Bool.not_eq_true', List.isEmpty_eq_false_iff, beq_iff_eq]
  constructor
  · rintro ⟨filled, closed⟩
    obtain ⟨rest, ends⟩ := List.head?_eq_some_iff.1 closed
    refine ⟨text.takeWhile Text.isWord, rest, ?_, filled, fun c => List.mem_takeWhile_imp⟩
    rw [← ends, List.takeWhile_append_dropWhile]
  · rintro ⟨name, rest, rfl, filled, word⟩
    rw [List.takeWhile_append_of_pos word, List.dropWhile_append_of_pos word,
      List.takeWhile_cons_of_neg (by simp [bracket]), List.dropWhile_cons_of_neg (by simp [bracket]),
      List.append_nil]
    exact ⟨filled, rfl⟩

/-- What follows a parenthesis is checked for a question mark and a name. -/
theorem namesGroup_iff {after : List Char} :
    (match after with
      | '?' :: '<' :: name => startsWithName name
      | _ => false) = true ↔ NamesGroup after := by
  unfold NamesGroup
  split
  · rw [startsWithName_iff]
    simp
  · rename_i other
    refine iff_of_false Bool.false_ne_true ?_
    rintro ⟨name, rest, rfl, -⟩
    exact other _ rfl

/-- The search for parentheses with a name behind them. -/
theorem hasNamedGroup_iff : hasNamedGroup pattern = true ↔ LooksNamed pattern := by
  unfold LooksNamed
  fun_induction hasNamedGroup pattern with
  | case1 => simp
  | case2 rest ih =>
    rw [Bool.or_eq_true, exists_parenthesis_cons_iff, eq_self, true_and]
    exact or_congr namesGroup_iff ih
  | case3 c rest other ih =>
    rw [ih, exists_parenthesis_cons_iff, or_iff_right fun here => other here.1]

theorem looksGrouped_iff :
    LooksGrouped pattern ↔ hasNamedGroup pattern = true ∨ hasCapture pattern = true := by
  rw [hasNamedGroup_iff, hasCapture_iff]
  unfold LooksGrouped LooksNamed LooksOpening
  simp only [and_or_left, exists_or]

/-! ### Reports -/

/-- The pattern of a regular expression. -/
def patternOf (node : Node root) : List Char := (partText node .pattern).toList

/-- An expression is reported as one with groups. -/
def ReportsGroups (context : Context root) (node : Node root) : Prop :=
  ∃ finding ∈ regexGroups context, finding.site = some node

/-- An expression is reported as one with groups that have names. -/
def ReportsNamedGroups (context : Context root) (node : Node root) : Prop :=
  ∃ finding ∈ regexGroups context, finding.site = some node ∧
    finding.details = some "Named capture groups used in regex"

/-- The finding about an expression that looks as if it had groups. -/
def groupFinding (node : Node root) : Finding root :=
  .tested .idiomOrGood (hasNamedGroup (patternOf node)) node "Named capture groups used in regex"
    "Capture groups used in regex"

/-- The first expression that looks as if it had groups has the only finding. -/
theorem mem_regexGroups_iff {finding : Finding root} :
    finding ∈ regexGroups context ↔
      ∃ before node after, context.ofKind .regex = before ++ node :: after ∧
        LooksGrouped (patternOf node) ∧ finding = groupFinding node ∧
        ∀ earlier ∈ before, ¬LooksGrouped (patternOf earlier) := by
  have chosen : ∀ node : Node root,
      (hasNamedGroup (patternOf node) || hasCapture (patternOf node)) = true ↔
        LooksGrouped (patternOf node) := by
    intro node
    rw [Bool.or_eq_true, looksGrouped_iff]
  have first : finding ∈ regexGroups context ↔
      ((context.ofKind .regex).findSome? fun node =>
        if hasNamedGroup (patternOf node) || hasCapture (patternOf node) then
          some (groupFinding node)
        else none) = some finding := by
    rw [regexGroups, List.take_one, List.head?_filterMap, Option.mem_toList]
    rfl
  rw [first, List.findSome?_eq_some_iff]
  constructor
  · rintro ⟨before, node, after, split, made, others⟩
    obtain ⟨found, same⟩ := Option.ite_none_right_eq_some.1 made
    refine ⟨before, node, after, split, (chosen node).1 found, (Option.some.inj same).symm, ?_⟩
    intro earlier member looks
    have passed := others earlier member
    rw [if_pos ((chosen earlier).2 looks)] at passed
    cases passed
  · rintro ⟨before, node, after, split, looks, rfl, others⟩
    refine ⟨before, node, after, split, if_pos ((chosen node).2 looks), ?_⟩
    intro earlier member
    exact if_neg fun found => others earlier member ((chosen earlier).1 found)

/-- The first expression that looks as if it had groups is reported, and no other. -/
theorem reportsGroups_iff :
    ReportsGroups context node ↔
      ∃ before after, context.ofKind .regex = before ++ node :: after ∧
        LooksGrouped (patternOf node) ∧ ∀ earlier ∈ before, ¬LooksGrouped (patternOf earlier) := by
  unfold ReportsGroups
  simp only [mem_regexGroups_iff]
  constructor
  · rintro ⟨-, ⟨before, other, after, split, looks, rfl, others⟩, site⟩
    cases site
    exact ⟨before, after, split, looks, others⟩
  · rintro ⟨before, after, split, looks, others⟩
    exact ⟨groupFinding node, ⟨before, node, after, split, looks, rfl, others⟩, rfl⟩

/-- Named groups are reported where a group that is reported looks as if it had a name. -/
theorem reportsNamedGroups_iff :
    ReportsNamedGroups context node ↔ ReportsGroups context node ∧ LooksNamed (patternOf node) := by
  have text : (groupFinding node).details = some "Named capture groups used in regex" ↔
      LooksNamed (patternOf node) := by
    rw [← hasNamedGroup_iff]
    cases named : hasNamedGroup (patternOf node) with
    | false => simp [groupFinding, named, Finding.tested, Finding.of]
    | true => simp [groupFinding, named, Finding.tested, Finding.of]
  rw [← text]
  unfold ReportsNamedGroups ReportsGroups
  constructor
  · rintro ⟨finding, member, site, details⟩
    obtain ⟨-, other, -, -, -, rfl, -⟩ := mem_regexGroups_iff.1 member
    cases site
    exact ⟨⟨_, member, rfl⟩, details⟩
  · rintro ⟨⟨finding, member, site⟩, details⟩
    obtain ⟨-, other, -, -, -, rfl, -⟩ := mem_regexGroups_iff.1 member
    cases site
    exact ⟨_, member, rfl, details⟩

/-- The first expression that looks as if it had groups is reported, as one with named groups if it
looks so. This is wrong exactly if each parenthesis that looks like the beginning of a group is
escaped, is in a character class, or ends the pattern, and wrong about the names exactly if each
parenthesis with a name behind it is escaped or in a character class. It is right about a pattern
without backslashes and classes, also about the names in it. -/
theorem regexGroups_right_iff (root : Tree) (context : Context root) (node : Node root) :
    (ReportsGroups context node ↔
      ∃ before after, context.ofKind .regex = before ++ node :: after ∧
        LooksGrouped (patternOf node) ∧ ∀ earlier ∈ before, ¬LooksGrouped (patternOf earlier)) ∧
    (ReportsNamedGroups context node ↔
      ReportsGroups context node ∧ LooksNamed (patternOf node)) ∧
    (¬HasGroup (patternOf node) ↔
      ∀ before after, patternOf node = before ++ '(' :: after → LooksOpening after →
        ¬IsActive before ∨ after = []) ∧
    (¬HasNamedGroup (patternOf node) ↔
      ∀ before after, patternOf node = before ++ '(' :: after → NamesGroup after →
        ¬IsActive before) ∧
    ('\\' ∉ patternOf node → '[' ∉ patternOf node → (patternOf node).getLast? ≠ some '(' →
      ReportsGroups context node → HasGroup (patternOf node)) ∧
    ('\\' ∉ patternOf node → '[' ∉ patternOf node →
      ReportsNamedGroups context node → HasNamedGroup (patternOf node)) := by
  refine ⟨reportsGroups_iff, reportsNamedGroups_iff, not_hasGroup_iff, not_hasNamedGroup_iff,
    ?_, ?_⟩
  · intro noEscape noClass noEnd reported
    obtain ⟨-, -, -, looks, -⟩ := reportsGroups_iff.1 reported
    exact looks.hasGroup noEscape noClass noEnd
  · intro noEscape noClass reported
    exact (reportsNamedGroups_iff.1 reported).2.hasNamedGroup noEscape noClass

/-- In `/(a)(?<b>c)(?:d)/` there is a group with a name, and the expression is reported so. -/
theorem regexGroups_right_plain :
    let root : Tree := .node { name := "program" }
      [.node { name := "expression_statement" }
        [.node { name := "regex" }
          [.node { name := "regex_pattern", role := some .pattern, text := "(a)(?<b>c)(?:d)" } []]]]
    let context : Context root :=
      { index := Index.build root (.atMost 100), scanDepth := .int 20, treeDepth := .int 100 }
    ∃ node, '\\' ∉ patternOf node ∧ '[' ∉ patternOf node ∧
      (patternOf node).getLast? ≠ some '(' ∧ ReportsGroups context node ∧
      ReportsNamedGroups context node ∧ HasGroup (patternOf node) ∧
      HasNamedGroup (patternOf node) := by
  intro root context
  have computed : ∃ node ∈ context.index.nodes, patternOf node = "(a)(?<b>c)(?:d)".toList ∧
      ∃ finding ∈ regexGroups context, finding.site = some node ∧
        finding.details = some "Named capture groups used in regex" := by
    decide +kernel
  obtain ⟨node, -, pattern, finding, listed, site, details⟩ := computed
  have noEscape : '\\' ∉ patternOf node := by rw [pattern]; decide
  have noClass : '[' ∉ patternOf node := by rw [pattern]; decide
  have noEnd : (patternOf node).getLast? ≠ some '(' := by rw [pattern]; decide
  have grouped : ReportsGroups context node := ⟨finding, listed, site⟩
  have named : ReportsNamedGroups context node := ⟨finding, listed, site, details⟩
  obtain ⟨-, -, -, -, right, rightName⟩ := regexGroups_right_iff root context node
  exact ⟨node, noEscape, noClass, noEnd, grouped, named, right noEscape noClass noEnd grouped,
    rightName noEscape noClass named⟩

/-- In `/\(x\)/` the only opening parenthesis is escaped, and the expression is reported. -/
theorem regexGroups_escaped :
    let root : Tree := .node { name := "program" }
      [.node { name := "expression_statement" }
        [.node { name := "regex" }
          [.node { name := "regex_pattern", role := some .pattern, text := "\\(x\\)" } []]]]
    let context : Context root :=
      { index := Index.build root (.atMost 100), scanDepth := .int 20, treeDepth := .int 100 }
    ∃ node, ReportsGroups context node ∧ ¬HasGroup (patternOf node) := by
  intro root context
  have computed : ∃ node ∈ context.index.nodes, patternOf node = ['\\', '(', 'x', '\\', ')'] ∧
      ∃ finding ∈ regexGroups context, finding.site = some node := by
    decide +kernel
  obtain ⟨node, -, pattern, reported⟩ := computed
  refine ⟨node, reported, ?_⟩
  rw [pattern]
  rintro ⟨before, after, split, active, -⟩
  -- The parenthesis can only be the second character.
  rcases before with _ | ⟨first, _ | ⟨second, before⟩⟩
  · cases split
  · obtain rfl : '\\' = first := (List.cons.inj split).1
    have escaped : (stanceAfter ['\\']).escaped = true := by decide
    rw [active.1] at escaped
    cases escaped
  · have further : ['x', '\\', ')'] = before ++ '(' :: after :=
      (List.cons.inj (List.cons.inj split).2).2
    have member : '(' ∈ ['x', '\\', ')'] := by
      rw [further]
      exact List.mem_append_right _ List.mem_cons_self
    exact absurd member (by decide)

end SnippetTutor.Detectors.Strings
