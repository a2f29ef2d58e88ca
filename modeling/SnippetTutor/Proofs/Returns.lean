import Mathlib.Data.List.Basic
import SnippetTutor.Detectors.Hazards.Misuse

/-!
# Returns on every path

A callback whose result is used should return on every path. A list of statements is left without a
return if every statement of it can fall through: a return cannot, a condition can if one of its
branches can, and everything else can.

* `HoldsReturn` and `FallsThrough` say of a statement that a return occurs in it, and that it can be
  passed without one; both go down the branches of conditions and no further;
* `mayReturn_iff`: the first is what `mayReturn` finds;
* `mustReturn_iff`: a statement is taken for one that always returns if it cannot fall through, but
  also if it is a condition that can, as long as a return occurs in both branches (`IsHalfway`);
* `lostResult_eq_none_iff` and `site_ne_of_lostResults_iff`: a callback is passed over in silence if
  a statement of its body is taken for one that always returns;
* `returnPaths_right_iff` puts this together for lists of statements and for callbacks.
-/

namespace SnippetTutor.Detectors.Hazards

variable {root : Tree} {statement : Node root} {statements : List (Node root)}

/-- A return occurs in a statement: it is one, or a condition with one in a branch. -/
inductive HoldsReturn : Node root → Prop
  | here {statement : Node root} (kind : statement.kind = .returnStatement) :
      HoldsReturn statement
  | consequence {statement inner : Node root} (kind : statement.kind = .ifStatement)
      (listed : inner ∈ branchStatements statement.ifParts.consequence)
      (held : HoldsReturn inner) : HoldsReturn statement
  | alternative {statement inner : Node root} (kind : statement.kind = .ifStatement)
      (listed : inner ∈ branchStatements statement.ifParts.alternative)
      (held : HoldsReturn inner) : HoldsReturn statement

/-- A statement can be passed without a return. -/
inductive FallsThrough : Node root → Prop
  | other {statement : Node root} (notReturn : statement.kind ≠ .returnStatement)
      (notIf : statement.kind ≠ .ifStatement) : FallsThrough statement
  | consequence {statement : Node root} (kind : statement.kind = .ifStatement)
      (all : ∀ inner ∈ branchStatements statement.ifParts.consequence, FallsThrough inner) :
      FallsThrough statement
  | absent {statement : Node root} (kind : statement.kind = .ifStatement)
      (none : statement.ifParts.alternative = none) : FallsThrough statement
  | alternative {statement : Node root} (kind : statement.kind = .ifStatement)
      (all : ∀ inner ∈ branchStatements statement.ifParts.alternative, FallsThrough inner) :
      FallsThrough statement

/-- A list of statements can be left without a return. -/
def Passable (statements : List (Node root)) : Prop :=
  ∀ statement ∈ statements, FallsThrough statement

/-- A condition that can be passed without a return although one occurs in each of its branches. -/
def IsHalfway (statement : Node root) : Prop :=
  statement.kind = .ifStatement ∧ FallsThrough statement ∧
    (∃ inner ∈ branchStatements statement.ifParts.consequence, HoldsReturn inner) ∧
    ∃ inner ∈ branchStatements statement.ifParts.alternative, HoldsReturn inner

/-! ### Statements -/

/-- What holds of a statement if it holds of the statements in its branches holds of all. -/
@[elab_as_elim]
theorem branchInduction {motive : Node root → Prop} (statement : Node root)
    (step : ∀ statement : Node root,
      (∀ inner ∈ branchStatements statement.ifParts.consequence, motive inner) →
      (∀ inner ∈ branchStatements statement.ifParts.alternative, motive inner) →
        motive statement) : motive statement :=
  step statement (fun inner _ => branchInduction inner step)
    (fun inner _ => branchInduction inner step)
termination_by statement.tree.height
decreasing_by
  · exact height_branchStatements ‹_› fun _ => height_consequence
  · exact height_branchStatements ‹_› fun _ => height_alternative

theorem mayReturn_eq_true_iff :
    mayReturn statement = true ↔
      statement.kind = .returnStatement ∨
        statement.kind = .ifStatement ∧
          ((∃ inner ∈ branchStatements statement.ifParts.consequence, mayReturn inner = true) ∨
            ∃ inner ∈ branchStatements statement.ifParts.alternative, mayReturn inner = true) := by
  rw [mayReturn]
  simp

/-- A return is found where one occurs. -/
theorem mayReturn_iff : mayReturn statement = true ↔ HoldsReturn statement := by
  induction statement using branchInduction with
  | step statement consequence alternative =>
    rw [mayReturn_eq_true_iff]
    constructor
    · rintro (kind | ⟨kind, ⟨inner, listed, found⟩ | ⟨inner, listed, found⟩⟩)
      · exact .here kind
      · exact .consequence kind listed ((consequence inner listed).1 found)
      · exact .alternative kind listed ((alternative inner listed).1 found)
    · intro held
      cases held with
      | here kind => exact .inl kind
      | consequence kind listed held =>
        exact .inr ⟨kind, .inl ⟨_, listed, (consequence _ listed).2 held⟩⟩
      | alternative kind listed held =>
        exact .inr ⟨kind, .inr ⟨_, listed, (alternative _ listed).2 held⟩⟩

/-- A statement that cannot be passed without a return is one, or a condition with such a statement
in each branch. -/
theorem not_fallsThrough_iff :
    ¬FallsThrough statement ↔
      statement.kind = .returnStatement ∨
        statement.kind = .ifStatement ∧
          (∃ inner ∈ branchStatements statement.ifParts.consequence, ¬FallsThrough inner) ∧
            ∃ inner ∈ branchStatements statement.ifParts.alternative, ¬FallsThrough inner := by
  constructor
  · intro stuck
    by_cases returns : statement.kind = .returnStatement
    · exact .inl returns
    by_cases kind : statement.kind = .ifStatement
    · have consequence := mt (FallsThrough.consequence kind) stuck
      have alternative := mt (FallsThrough.alternative kind) stuck
      refine .inr ⟨kind, ?_, ?_⟩
      · simpa using consequence
      · simpa using alternative
    · exact absurd (.other returns kind) stuck
  · rintro (returns | ⟨kind, ⟨first, inConsequence, stuck⟩, second, inAlternative, stuck'⟩) passed
    · cases passed with
      | other notReturn => exact notReturn returns
      | consequence kind => rw [returns] at kind; cases kind
      | absent kind => rw [returns] at kind; cases kind
      | alternative kind => rw [returns] at kind; cases kind
    · cases passed with
      | other _ notIf => exact notIf kind
      | consequence _ all => exact stuck (all first inConsequence)
      | absent _ none => rw [none] at inAlternative; cases inAlternative
      | alternative _ all => exact stuck' (all second inAlternative)

/-- A statement that cannot be passed without a return has one. -/
theorem holdsReturn_of_not_fallsThrough (stuck : ¬FallsThrough statement) :
    HoldsReturn statement := by
  induction statement using branchInduction with
  | step statement consequence =>
    rcases not_fallsThrough_iff.1 stuck with returns | ⟨kind, ⟨inner, listed, stuck⟩, -⟩
    · exact .here returns
    · exact .consequence kind listed (consequence inner listed stuck)

theorem mustReturn_eq_true_iff :
    mustReturn statement = true ↔
      statement.kind = .returnStatement ∨
        statement.kind = .ifStatement ∧
          (∃ inner ∈ branchStatements statement.ifParts.consequence, HoldsReturn inner) ∧
            ∃ inner ∈ branchStatements statement.ifParts.alternative, HoldsReturn inner := by
  simp [mustReturn, mayReturn_iff, and_assoc]

/-- A statement is taken for one that always returns if it cannot be passed without a return, or is
a condition that can although a return occurs in each of its branches. -/
theorem mustReturn_iff :
    mustReturn statement = true ↔ ¬FallsThrough statement ∨ IsHalfway statement := by
  rw [mustReturn_eq_true_iff]
  constructor
  · rintro (returns | ⟨kind, consequence, alternative⟩)
    · exact .inl (not_fallsThrough_iff.2 (.inl returns))
    · by_cases passed : FallsThrough statement
      · exact .inr ⟨kind, passed, consequence, alternative⟩
      · exact .inl passed
  · rintro (stuck | ⟨kind, -, consequence, alternative⟩)
    · -- Where a branch always returns, a return occurs in it, which is all that is asked for.
      rcases not_fallsThrough_iff.1 stuck with
        returns | ⟨kind, ⟨first, here, one⟩, second, there, two⟩
      · exact .inl returns
      · exact .inr ⟨kind, ⟨first, here, holdsReturn_of_not_fallsThrough one⟩, second, there,
          holdsReturn_of_not_fallsThrough two⟩
    · exact .inr ⟨kind, consequence, alternative⟩

theorem mayReturn_of_mustReturn (must : mustReturn statement = true) :
    mayReturn statement = true := by
  rw [mayReturn_iff]
  rcases mustReturn_eq_true_iff.1 must with returns | ⟨kind, ⟨inner, listed, held⟩, -⟩
  · exact .here returns
  · exact .consequence kind listed held

/-! ### Lists of statements -/

theorem occurs_returnPaths_iff :
    (returnPaths statements).occurs = true ↔ ∃ statement ∈ statements, HoldsReturn statement := by
  simp [returnPaths, mayReturn_iff]

/-- A list of statements is taken for one that always returns if it cannot be left without a return,
or has a condition that is only taken for one that always returns. -/
theorem unconditional_returnPaths_iff :
    (returnPaths statements).unconditional = true ↔
      ¬Passable statements ∨ ∃ statement ∈ statements, IsHalfway statement := by
  simp only [returnPaths, List.any_eq_true, mustReturn_iff, Passable, not_forall, exists_prop,
    and_or_left, exists_or]

theorem occurs_of_unconditional (always : (returnPaths statements).unconditional = true) :
    (returnPaths statements).occurs = true := by
  obtain ⟨statement, listed, must⟩ := List.any_eq_true.1 always
  exact List.any_eq_true.2 ⟨statement, listed, mayReturn_of_mustReturn must⟩

/-- A return that is in no branch of a condition stands by itself. -/
theorem unconditional_of_not_conditional (occurs : (returnPaths statements).occurs = true)
    (never : (returnPaths statements).conditional = false) :
    (returnPaths statements).unconditional = true := by
  obtain ⟨statement, listed, may⟩ := List.any_eq_true.1 occurs
  have notIf : ¬statement.kind = .ifStatement := by
    intro kind
    have there := List.any_eq_false.1 never statement listed
    exact there (by simp [kind, may])
  refine List.any_eq_true.2 ⟨statement, listed, mustReturn_eq_true_iff.2 (.inl ?_)⟩
  rcases mayReturn_eq_true_iff.1 may with returns | ⟨kind, -⟩
  · exact returns
  · exact absurd kind notIf

/-! ### Callbacks -/

/-- Nothing is wrong with a body that is taken for one that always returns. -/
theorem lostResult_eq_none_iff :
    lostResult statements = none ↔ (returnPaths statements).unconditional = true := by
  unfold lostResult
  dsimp only
  constructor
  · intro silent
    split at silent
    · cases silent
    split at silent
    · cases silent
    · -- The last test is passed by returns that stand in no branch, and these are never halfway.
      rename_i occurs
      by_contra halfway
      have never : (returnPaths statements).conditional = false := by
        simpa [halfway] using silent
      exact halfway (unconditional_of_not_conditional (by simpa using occurs) never)
  · intro always
    have some : statements.isEmpty = false := by
      obtain ⟨statement, listed, -⟩ := List.any_eq_true.1 always
      exact List.isEmpty_eq_false_iff.2 (List.ne_nil_of_mem listed)
    simp [some, always, occurs_of_unconditional always]

/-- A call of a method that uses the result of its callback, and the body of the callback. -/
structure CallsBack (context : Context root) (call : Node root) (method : String)
    (body : List (Node root)) : Prop where
  listed : (call, method) ∈ context.methodCalls returningMethods
  callback : ∃ callback, call.arguments.head? = some callback ∧
    callback.isFunctionLiteral = true ∧ callback.blockStatements = some body

variable {context : Context root} {call : Node root} {method : String} {body : List (Node root)}

theorem CallsBack.body_eq {other : String} {first second : List (Node root)}
    (one : CallsBack context call method first) (two : CallsBack context call other second) :
    first = second := by
  obtain ⟨callback, head, -, block⟩ := one.callback
  obtain ⟨callback', head', -, block'⟩ := two.callback
  cases head.symm.trans head'
  exact Option.some.inj (block.symm.trans block')

/-- What is reported is a callback with something wrong with its body. -/
theorem mem_lostResults_iff {hazard : Hazard root} :
    hazard ∈ lostResults context ↔
      ∃ call method body text minor, CallsBack context call method body ∧
        lostResult body = some (text, minor) ∧
          hazard =
            { site := call, details := method ++ "() callback " ++ text, minor := minor } := by
  simp only [lostResults, List.mem_filterMap, Option.bind_eq_some_iff, Prod.exists]
  constructor
  · rintro ⟨call, method, listed, callback, head, reported⟩
    split at reported
    · rename_i literal
      obtain ⟨⟨text, minor⟩, wrong, rfl⟩ := Option.map_eq_some_iff.1 reported
      obtain ⟨body, block, wrong⟩ := Option.bind_eq_some_iff.1 wrong
      exact ⟨call, method, body, text, minor, ⟨listed, callback, head, literal, block⟩, wrong, rfl⟩
    · cases reported
  · rintro ⟨call, method, body, text, minor, ⟨listed, callback, head, literal, block⟩, wrong, rfl⟩
    refine ⟨call, method, listed, callback, head, ?_⟩
    rw [if_pos literal, block, Option.bind_some, wrong]
    rfl

/-- A callback is passed over in silence if nothing is wrong with its body. -/
theorem site_ne_of_lostResults_iff (calls : CallsBack context call method body) :
    (∀ hazard ∈ lostResults context, hazard.site ≠ call) ↔ lostResult body = none := by
  constructor
  · intro silent
    by_contra wrong
    obtain ⟨⟨text, minor⟩, wrong⟩ := Option.ne_none_iff_exists'.1 wrong
    exact silent _ (mem_lostResults_iff.2 ⟨call, method, body, text, minor, calls, wrong, rfl⟩) rfl
  · rintro silent hazard reported rfl
    obtain ⟨call, method', body', text, minor, calls', wrong, rfl⟩ := mem_lostResults_iff.1 reported
    rw [← calls.body_eq calls', silent] at wrong
    cases wrong

/-- A list of statements is found to have a return if one occurs in it. It is taken for one that
always returns if it cannot be left without a return, and also if it has a condition that can be
passed although a return occurs in each of its branches: such a condition in a list that can be left
is all that makes the answer wrong. A callback is passed over in silence on the same terms. -/
theorem returnPaths_right_iff (root : Tree) (statements : List (Node root)) :
    ((returnPaths statements).occurs = true ↔
      ∃ statement ∈ statements, HoldsReturn statement) ∧
    ((returnPaths statements).unconditional = true ↔
      ¬Passable statements ∨ ∃ statement ∈ statements, IsHalfway statement) ∧
    ∀ (context : Context root) (call : Node root) (method : String),
      CallsBack context call method statements →
      ((∀ hazard ∈ lostResults context, hazard.site ≠ call) ↔
        ¬Passable statements ∨ ∃ statement ∈ statements, IsHalfway statement) := by
  refine ⟨occurs_returnPaths_iff, unconditional_returnPaths_iff, ?_⟩
  intro context call method calls
  rw [site_ne_of_lostResults_iff calls, lostResult_eq_none_iff, unconditional_returnPaths_iff]

/-- The callback of `xs.map(x => { return 1; })` cannot be left without a return, and is passed over
in silence. -/
theorem silent_about_return :
    let root : Tree := .node { name := "program" }
      [.node { name := "call_expression" }
        [.node { name := "member_expression", role := some .function }
          [.node { name := "identifier", role := some .object, text := "xs" } [],
           .node { name := "property_identifier", role := some .property, text := "map" } []],
         .node { name := "arguments", role := some .arguments }
          [.node { name := "arrow_function" }
            [.node { name := "identifier", role := some .parameter, text := "x" } [],
             .node { name := "statement_block", role := some .body }
              [.node { name := "return_statement" } []]]]]]
    let context : Context root :=
      { index := Index.build root (.atMost 100), scanDepth := .int 20, treeDepth := .int 100 }
    ∃ call body, CallsBack context call "map" body ∧ ¬Passable body ∧
      ∀ hazard ∈ lostResults context, hazard.site ≠ call := by
  intro root context
  have called : (context.methodCalls returningMethods).any (fun entry =>
      entry.2 = "map" && entry.1.arguments.head?.any fun callback =>
        callback.isFunctionLiteral && callback.blockStatements.any fun body =>
          body.any fun statement => statement.kind = .returnStatement) = true := by
    decide +kernel
  simp only [List.any_eq_true, Option.any_eq_true, Bool.and_eq_true, decide_eq_true_eq] at called
  obtain ⟨⟨call, _⟩, listed, rfl, callback, head, literal, body, block, statement, member, kind⟩ :=
    called
  have calls : CallsBack context call "map" body := ⟨listed, callback, head, literal, block⟩
  have stuck : ¬Passable body :=
    fun passed => not_fallsThrough_iff.2 (.inl kind) (passed statement member)
  exact ⟨call, body, calls, stuck, ((returnPaths_right_iff _ body).2.2 context call "map" calls).2 (.inl stuck)⟩

/-- The callback of `xs.map(x => { if (a) { if (b) { return 1; } } else { return 2; } })` can be
left without a return, is taken for one that always returns, and is passed over in silence. -/
theorem silent_about_halfway :
    let root : Tree := .node { name := "program" }
      [.node { name := "call_expression" }
        [.node { name := "member_expression", role := some .function }
          [.node { name := "identifier", role := some .object, text := "xs" } [],
           .node { name := "property_identifier", role := some .property, text := "map" } []],
         .node { name := "arguments", role := some .arguments }
          [.node { name := "arrow_function" }
            [.node { name := "identifier", role := some .parameter, text := "x" } [],
             .node { name := "statement_block", role := some .body }
              [.node { name := "if_statement" }
                [.node { name := "statement_block", role := some .consequence }
                  [.node { name := "if_statement" }
                    [.node { name := "statement_block", role := some .consequence }
                      [.node { name := "return_statement" } []]]],
                 .node { name := "else_clause", role := some .alternative }
                  [.node { name := "statement_block" }
                    [.node { name := "return_statement" } []]]]]]]]]
    let context : Context root :=
      { index := Index.build root (.atMost 100), scanDepth := .int 20, treeDepth := .int 100 }
    ∃ call body, CallsBack context call "map" body ∧ Passable body ∧
      (returnPaths body).unconditional = true ∧ lostResults context = [] := by
  intro root context
  have silent : (lostResults context).isEmpty = true := by decide +kernel
  have called : (context.methodCalls returningMethods).any (fun entry =>
      entry.2 = "map" && entry.1.arguments.head?.any fun callback =>
        callback.isFunctionLiteral && callback.blockStatements.any fun body =>
          (returnPaths body).unconditional && body.all fun outer =>
            outer.kind = .ifStatement &&
              (branchStatements outer.ifParts.consequence).all fun inner =>
                inner.kind = .ifStatement && inner.ifParts.alternative = none) = true := by
    decide +kernel
  simp only [List.any_eq_true, Option.any_eq_true, Bool.and_eq_true, decide_eq_true_eq,
    List.all_eq_true] at called
  obtain ⟨⟨call, _⟩, listed, rfl, callback, head, literal, body, block, always, passed⟩ := called
  refine ⟨call, body, ⟨listed, callback, head, literal, block⟩, ?_, always,
    List.isEmpty_iff.1 silent⟩
  intro outer member
  obtain ⟨kind, inside⟩ := passed outer member
  exact .consequence kind fun inner member =>
    .absent (inside inner member).1 (inside inner member).2

end SnippetTutor.Detectors.Hazards
