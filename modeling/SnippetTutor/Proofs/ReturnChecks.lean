import SnippetTutor.Detectors.Arrays
import SnippetTutor.Proofs.Returns
import SnippetTutor.Proofs.Success

/-!
# Two checks for returns

The callbacks of `map` and `filter` are checked for returns twice. One check praises a callback with
a return anywhere in its body, nested functions included; the other one blames a callback with no
return among its statements and the branches of its conditions. What the second one passes over, a
loop, a guarded block or a nested function, the first one looks into.

* `isPraised_iff`: when a callback with a block as its body is praised;
* `isBlamed_iff`: when it is said to have no return;
* `praised_and_blamed_iff` puts this together.
-/

namespace SnippetTutor

variable {root : Tree} {context : Context root} {call : Node root} {method : String}

/-- The statements of a function are those of its body, if that is a block. -/
theorem Node.blockStatements_eq_some_iff {function : Node root} {statements : List (Node root)} :
    function.blockStatements = some statements ↔
      ∃ body, function.functionBody = some body ∧ body.kind = .statementBlock ∧
        body.children = statements := by
  unfold blockStatements
  constructor
  · intro block
    split at block
    · rename_i body found
      split at block
      · rename_i kind
        exact ⟨body, found, eq_of_beq kind, Option.some.inj block⟩
      · cases block
    · cases block
  · rintro ⟨body, found, kind, rfl⟩
    simp [found, kind]

theorem Context.mem_methodCalls_iff {names : List String} :
    (call, method) ∈ context.methodCalls names ↔
      call ∈ context.ofKind .callExpression ∧ call.methodName = some method ∧ method ∈ names := by
  simp only [methodCalls, named, List.mem_filterMap, Option.bind_eq_some_iff]
  constructor
  · rintro ⟨node, listed, found, called, chosen⟩
    split at chosen
    · rename_i member
      cases chosen
      exact ⟨listed, called, List.contains_iff_mem.1 member⟩
    · cases chosen
  · rintro ⟨listed, called, member⟩
    exact ⟨call, listed, method, called, if_pos (List.contains_iff_mem.2 member)⟩

namespace Detectors

/-- The callback of a call is written as a function with a block as its body. -/
structure TakesBlock (call body : Node root) : Prop where
  callback : ∃ callback, call.arguments.head? = some callback ∧
    callback.isFunctionLiteral = true ∧ callback.functionBody = some body
  block : body.kind = .statementBlock

variable {body : Node root}

theorem TakesBlock.unique {other : Node root} (one : TakesBlock call body)
    (two : TakesBlock call other) : body = other := by
  obtain ⟨callback, head, -, found⟩ := one.callback
  obtain ⟨callback', head', -, found'⟩ := two.callback
  cases head.symm.trans head'
  exact Option.some.inj (found.symm.trans found')

/-! ### Praise -/

/-- A call is among those with a finding in favour of the code. -/
def Praises (findings : List (Finding root)) (call : Node root) : Prop :=
  ∃ finding ∈ findings, finding.site = some call ∧ finding.verdict.positive = true

/-- A call of `map` or `filter` is praised. -/
def IsPraised (context : Context root) (call : Node root) : Prop :=
  ∃ findings, (Arrays.map context = .ok findings ∨ Arrays.filter context = .ok findings) ∧
    Praises findings call

namespace Arrays

/-- The search for a return goes through the body of the callback, as deep as searches go. -/
theorem hasReturn_eq (block : body.kind = .statementBlock) :
    hasReturn context body =
      context.scanDepth.depthLimit.map fun limit =>
        (body.walk Node.whole limit).any fun node => node.kind == .returnStatement := by
  have other : (body.kind == .returnStatement) = false := by
    rw [block]
    rfl
  rw [hasReturn, Context.scanContains, other, Context.scan]
  cases context.scanDepth.depthLimit <;> rfl

/-- What a callback with a block as its body is taken for. -/
theorem callback_eq (context : Context root) (method missingReturn : String)
    (takes : TakesBlock call body) :
    callback context method missingReturn call =
      (hasReturn context body).map fun returns =>
        { given := true
          literal := true
          returns := returns
          details := some (if returns then method ++ "() with callback" else missingReturn) } := by
  obtain ⟨argument, head, literal, found⟩ := takes.callback
  obtain ⟨rest, arguments⟩ := List.head?_eq_some_iff.1 head
  rw [callback, arguments]
  simp [literal, found, takes.block]

/-- Under a limit that makes sense every callback can be judged. -/
theorem exists_callback_eq_ok {limit : DepthLimit}
    (limited : context.scanDepth.depthLimit = .ok limit) (method missingReturn : String)
    (call : Node root) : ∃ found, callback context method missingReturn call = .ok found := by
  unfold callback
  split
  · exact ⟨_, rfl⟩
  · split
    · exact ⟨_, rfl⟩
    · split
      · split
        · rename_i block
          rw [hasReturn_eq (eq_of_beq block), limited]
          exact ⟨_, rfl⟩
        · exact ⟨_, rfl⟩
      · exact ⟨_, rfl⟩

/-- The finding about a call whose callback was judged. -/
def judged (call : Node root) (found : Callback) : Finding root :=
  { verdict := found.verdict, site := some call, details := found.details }

/-- Under a limit that makes sense there is a finding about every call. -/
theorem exists_callbackFindings_eq_ok {limit : DepthLimit}
    (limited : context.scanDepth.depthLimit = .ok limit) (method missingReturn : String) :
    ∃ findings, callbackFindings context method missingReturn = .ok findings ∧
      ∀ entry ∈ context.methodCalls [method], ∀ found,
        callback context method missingReturn entry.1 = .ok found →
          judged entry.1 found ∈ findings := by
  have each : ∀ entry ∈ context.methodCalls [method], ∃ finding,
      (callback context method missingReturn entry.1).map (judged entry.1) = .ok finding := by
    intro entry _
    obtain ⟨found, ended⟩ := exists_callback_eq_ok limited method missingReturn entry.1
    exact ⟨_, map_eq_ok.2 ⟨found, ended, rfl⟩⟩
  obtain ⟨findings, ended, all⟩ := exists_mapM_eq_ok each
  exact ⟨findings, ended, fun entry listed found callback =>
    all entry listed _ (map_eq_ok.2 ⟨found, callback, rfl⟩)⟩

/-- A callback with a block as its body is praised if a return is found anywhere in the block. -/
theorem praises_callbackFindings_iff (takes : TakesBlock call body) {missingReturn : String} :
    (∃ findings, callbackFindings context method missingReturn = .ok findings ∧
      Praises findings call) ↔
      (call, method) ∈ context.methodCalls [method] ∧
        ∃ limit, context.scanDepth.depthLimit = .ok limit ∧
          ∃ node ∈ body.walk Node.whole limit, node.kind = .returnStatement := by
  constructor
  · rintro ⟨findings, ended, finding, member, site, positive⟩
    obtain ⟨⟨other, name⟩, listed, judged⟩ := exists_of_mem_mapM ended member
    obtain ⟨found, callback, rfl⟩ := map_eq_ok.1 judged
    obtain rfl : other = call := Option.some.inj site
    obtain ⟨-, -, named⟩ := Context.mem_methodCalls_iff.1 listed
    obtain rfl := List.mem_singleton.1 named
    rw [callback_eq _ _ _ takes, hasReturn_eq takes.block] at callback
    obtain ⟨returns, searched, rfl⟩ := map_eq_ok.1 callback
    obtain ⟨limit, limited, rfl⟩ := map_eq_ok.1 searched
    have anywhere : (body.walk Node.whole limit).any _ = true := positive
    obtain ⟨node, met, kind⟩ := List.any_eq_true.1 anywhere
    exact ⟨listed, limit, limited, node, met, eq_of_beq kind⟩
  · rintro ⟨listed, limit, limited, node, met, kind⟩
    have returns : hasReturn context body = .ok true := by
      rw [hasReturn_eq takes.block, limited]
      exact congrArg Except.ok (List.any_eq_true.2 ⟨node, met, beq_iff_eq.2 kind⟩)
    have callback := callback_eq context method missingReturn takes
    rw [returns] at callback
    obtain ⟨findings, ended, all⟩ := exists_callbackFindings_eq_ok limited method missingReturn
    exact ⟨findings, ended, _, all _ listed _ callback, rfl, rfl⟩

end Arrays

/-- A call with a block as the body of its callback is praised if it is one of `map` or `filter` and
a return is found anywhere in the block. -/
theorem isPraised_iff (takes : TakesBlock call body) :
    IsPraised context call ↔
      call ∈ context.ofKind .callExpression ∧
        (call.methodName = some "map" ∨ call.methodName = some "filter") ∧
          ∃ limit, context.scanDepth.depthLimit = .ok limit ∧
            ∃ node ∈ body.walk Node.whole limit, node.kind = .returnStatement := by
  have either : IsPraised context call ↔
      (∃ findings, Arrays.map context = .ok findings ∧ Praises findings call) ∨
        ∃ findings, Arrays.filter context = .ok findings ∧ Praises findings call := by
    simp only [IsPraised, or_and_right, exists_or]
  rw [either, Arrays.map, Arrays.filter, Arrays.praises_callbackFindings_iff takes,
    Arrays.praises_callbackFindings_iff takes, Context.mem_methodCalls_iff,
    Context.mem_methodCalls_iff]
  simp only [List.mem_singleton, and_true]
  rw [← or_and_right, ← and_or_left, and_assoc]

/-! ### Blame -/

/-- What is said of a callback without a return. -/
def noReturnTexts : List String :=
  ["has empty body — will always return undefined.",
   "has no return statement — will produce undefined values."]

/-- A call is reported for a callback with an empty body or no return statement. -/
def IsBlamed (context : Context root) (call : Node root) : Prop :=
  ∃ hazard ∈ Hazards.lostResults context, hazard.site = call ∧
    ∃ method text, call.methodName = some method ∧ text ∈ noReturnTexts ∧
      hazard.details = method ++ "() callback " ++ text

theorem exists_lostResult_of_not_occurs {statements : List (Node root)}
    (absent : (Hazards.returnPaths statements).occurs = false) :
    ∃ text ∈ noReturnTexts, Hazards.lostResult statements = some (text, false) := by
  unfold Hazards.lostResult
  dsimp only
  split
  · exact ⟨_, List.mem_cons_self, rfl⟩
  · refine ⟨_, List.mem_cons_of_mem _ List.mem_cons_self, ?_⟩
    rw [absent]
    rfl

theorem not_mem_noReturnTexts_of_occurs {statements : List (Node root)} {text : String}
    {minor : Bool} (occurs : (Hazards.returnPaths statements).occurs = true)
    (wrong : Hazards.lostResult statements = some (text, minor)) : text ∉ noReturnTexts := by
  have filled : statements.isEmpty = false := by
    obtain ⟨statement, listed, -⟩ := List.any_eq_true.1 occurs
    exact List.isEmpty_eq_false_iff.2 (List.ne_nil_of_mem listed)
  simp only [Hazards.lostResult, filled, occurs, Bool.false_eq_true, Bool.not_true,
    ↓reduceIte] at wrong
  split at wrong
  · cases wrong
    decide
  · cases wrong

theorem callsBack_iff {statements : List (Node root)} :
    Hazards.CallsBack context call method statements ↔
      (call, method) ∈ context.methodCalls Hazards.returningMethods ∧
        ∃ body, TakesBlock call body ∧ body.children = statements := by
  constructor
  · rintro ⟨listed, callback, head, literal, block⟩
    obtain ⟨body, found, kind, rfl⟩ := Node.blockStatements_eq_some_iff.1 block
    exact ⟨listed, body, ⟨⟨callback, head, literal, found⟩, kind⟩, rfl⟩
  · rintro ⟨listed, body, ⟨⟨callback, head, literal, found⟩, kind⟩, rfl⟩
    exact ⟨listed, callback, head, literal,
      Node.blockStatements_eq_some_iff.2 ⟨body, found, kind, rfl⟩⟩

/-- A call is reported for a callback without a return if no statement of the body has one, neither
by itself nor in the branches of a condition. -/
theorem isBlamed_iff (takes : TakesBlock call body) :
    IsBlamed context call ↔
      (∃ method, (call, method) ∈ context.methodCalls Hazards.returningMethods) ∧
        ∀ statement ∈ body.children, ¬Hazards.HoldsReturn statement := by
  have occurs : (Hazards.returnPaths body.children).occurs = false ↔
      ∀ statement ∈ body.children, ¬Hazards.HoldsReturn statement := by
    rw [← Bool.not_eq_true, Hazards.occurs_returnPaths_iff]
    simp only [not_exists, not_and]
  rw [← occurs]
  constructor
  · rintro ⟨hazard, reported, rfl, method, text, named, listed, details⟩
    obtain ⟨call, method', statements, text', minor, calls, wrong, rfl⟩ :=
      Hazards.mem_lostResults_iff.1 reported
    obtain ⟨known, body', takes', rfl⟩ := callsBack_iff.1 calls
    obtain rfl := takes.unique takes'
    obtain ⟨-, named', -⟩ := Context.mem_methodCalls_iff.1 known
    obtain rfl : method' = method := Option.some.inj (named'.symm.trans named)
    obtain rfl : text' = text := by simpa using details
    refine ⟨⟨method', known⟩, Bool.eq_false_iff.2 fun present => ?_⟩
    exact not_mem_noReturnTexts_of_occurs present wrong listed
  · rintro ⟨⟨method, known⟩, absent⟩
    obtain ⟨text, listed, wrong⟩ := exists_lostResult_of_not_occurs absent
    have calls := callsBack_iff.2 ⟨known, body, takes, rfl⟩
    obtain ⟨-, named, -⟩ := Context.mem_methodCalls_iff.1 known
    exact ⟨_, Hazards.mem_lostResults_iff.2 ⟨call, method, _, text, false, calls, wrong, rfl⟩, rfl,
      method, text, named, listed, rfl⟩

/-! ### Both at once -/

/-- A block without a return among its statements and the branches of its conditions, but with one
somewhere inside. -/
structure HidesReturn (context : Context root) (body : Node root) : Prop where
  statements : ∀ statement ∈ body.children, ¬Hazards.HoldsReturn statement
  inside : ∃ limit, context.scanDepth.depthLimit = .ok limit ∧
    ∃ node ∈ body.walk Node.whole limit, node.kind = .returnStatement

/-- What is said to have no return is a callback with a block as its body. -/
theorem IsBlamed.takesBlock (blamed : IsBlamed context call) : ∃ body, TakesBlock call body := by
  obtain ⟨hazard, reported, rfl, -⟩ := blamed
  obtain ⟨call, method, statements, text, minor, calls, -, rfl⟩ :=
    Hazards.mem_lostResults_iff.1 reported
  obtain ⟨-, body, takes, -⟩ := callsBack_iff.1 calls
  exact ⟨body, takes⟩

/-- A call is praised for the returns of its callback and also reported for a callback without a
return, exactly if it is a call of `map` or `filter` and the body of the callback is a block that
has a return somewhere inside but none among its statements and the branches of its conditions. -/
theorem praised_and_blamed_iff (root : Tree) (context : Context root) (call : Node root) :
    IsPraised context call ∧ IsBlamed context call ↔
      call ∈ context.ofKind .callExpression ∧
        (call.methodName = some "map" ∨ call.methodName = some "filter") ∧
          ∃ body, TakesBlock call body ∧ HidesReturn context body := by
  constructor
  · rintro ⟨praised, blamed⟩
    obtain ⟨body, takes⟩ := blamed.takesBlock
    obtain ⟨listed, named, inside⟩ := (isPraised_iff takes).1 praised
    obtain ⟨-, statements⟩ := (isBlamed_iff takes).1 blamed
    exact ⟨listed, named, body, takes, statements, inside⟩
  · rintro ⟨listed, named, body, takes, hides⟩
    refine ⟨(isPraised_iff takes).2 ⟨listed, named, hides.inside⟩,
      (isBlamed_iff takes).2 ⟨?_, hides.statements⟩⟩
    rcases named with named | named
    · exact ⟨_, Context.mem_methodCalls_iff.2 ⟨listed, named, by decide⟩⟩
    · exact ⟨_, Context.mem_methodCalls_iff.2 ⟨listed, named, by decide⟩⟩

/-- In `xs.map(x => { try { return x; } finally { } })` the call is praised, and is also reported
for a callback without a return. -/
theorem praised_and_blamed_guarded_return :
    let root : Tree := .node { name := "program" }
      [.node { name := "expression_statement" }
        [.node { name := "call_expression" }
          [.node { name := "member_expression", role := some .function }
            [.node { name := "identifier", role := some .object, text := "xs" } [],
             .node { name := "property_identifier", role := some .property, text := "map" } []],
           .node { name := "arguments", role := some .arguments }
            [.node { name := "arrow_function" }
              [.node { name := "identifier", role := some .parameter, text := "x" } [],
               .node { name := "statement_block", role := some .body }
                [.node { name := "try_statement" }
                  [.node { name := "statement_block", role := some .body }
                    [.node { name := "return_statement" }
                      [.node { name := "identifier", text := "x" } []]],
                   .node { name := "finally_clause", role := some .finalizer }
                    [.node { name := "statement_block", role := some .body } []]]]]]]]]
    let context : Context root :=
      { index := Index.build root (.atMost 100), scanDepth := .int 20, treeDepth := .int 100 }
    ∃ call, IsPraised context call ∧ IsBlamed context call := by
  intro root context
  have computed : (Arrays.map context).toOption.any (fun findings =>
      decide (∃ finding ∈ findings, finding.verdict.positive = true ∧
        ∃ hazard ∈ Hazards.lostResults context, finding.site = some hazard.site ∧
          hazard.site.methodName = some "map" ∧
            ∃ text ∈ noReturnTexts, hazard.details = "map" ++ "() callback " ++ text)) = true := by
    decide +kernel
  obtain ⟨findings, ended, both⟩ := exists_ok_of_any computed
  obtain ⟨finding, listed, positive, hazard, reported, site, named, text, told, details⟩ :=
    of_decide_eq_true both
  exact ⟨hazard.site, ⟨findings, .inl ended, finding, listed, site, positive⟩,
    hazard, reported, rfl, "map", text, named, told, details⟩

end Detectors

end SnippetTutor
