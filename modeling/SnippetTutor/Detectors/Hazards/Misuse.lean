import SnippetTutor.Detectors.Hazards.Sharing
import SnippetTutor.Number.Reader

/-!
# Values used for what they are not

Callbacks that lose their result, variables read too early, arrays used as dictionaries, loops
that run one step too far and arithmetic on strings.
-/

namespace SnippetTutor.Detectors.Hazards

variable {root : Tree}

/-! ### Return paths -/

/-- The statements of a branch: those of a block, or the single statement in its place. -/
def branchStatements : Option (Node root) → List (Node root)
  | some branch => if branch.kind == .statementBlock then branch.children else [branch]
  | none => []

theorem height_branchStatements {branch? : Option (Node root)} {statement : Node root} {bound : Nat}
    (member : statement ∈ branchStatements branch?)
    (below : ∀ branch, branch? = some branch → branch.tree.height < bound) :
    statement.tree.height < bound := by
  cases branch? with
  | none => exact absurd member List.not_mem_nil
  | some branch =>
    simp only [branchStatements] at member
    split at member
    · exact Nat.lt_trans (Node.height_lt_of_mem_children member) (below branch rfl)
    · rw [List.mem_singleton.1 member]
      exact below branch rfl

theorem height_consequence {node branch : Node root}
    (found : node.ifParts.consequence = some branch) : branch.tree.height < node.tree.height :=
  Node.height_lt_of_field found

theorem height_alternative {node branch : Node root}
    (found : node.ifParts.alternative = some branch) : branch.tree.height < node.tree.height := by
  obtain ⟨clause, field, chosen⟩ := Option.bind_eq_some_iff.1 found
  have clauseBelow := Node.height_lt_of_field field
  split at chosen
  · exact Nat.lt_trans (Node.height_lt_of_mem_children (List.mem_of_head? chosen)) clauseBelow
  · cases chosen
    exact clauseBelow

/-- Whether a statement is a return, or a condition with a return in a branch. -/
def mayReturn (statement : Node root) : Bool :=
  statement.kind == .returnStatement ||
    (statement.kind == .ifStatement &&
      (((branchStatements statement.ifParts.consequence).attach.any fun ⟨inner, _⟩ =>
          mayReturn inner) ||
        (branchStatements statement.ifParts.alternative).attach.any fun ⟨inner, _⟩ =>
          mayReturn inner))
termination_by statement.tree.height
decreasing_by
  · exact height_branchStatements ‹_› fun _ => height_consequence
  · exact height_branchStatements ‹_› fun _ => height_alternative

/-- Whether a statement is a return, or a condition with a return in both branches. -/
def mustReturn (statement : Node root) : Bool :=
  statement.kind == .returnStatement ||
    (statement.kind == .ifStatement &&
      (branchStatements statement.ifParts.consequence).any mayReturn &&
      (branchStatements statement.ifParts.alternative).any mayReturn)

/-- Methods that use the result of their callback. -/
def returningMethods : List String :=
  ["map", "filter", "find", "findIndex", "some", "every", "flatMap", "reduce"]

/-- What a list of statements tells of its returns. -/
structure ReturnPaths where
  /-- A return occurs. -/
  occurs : Bool
  /-- A return occurs in a branch of a condition. -/
  conditional : Bool
  /-- A return stands by itself, or a condition has one in both branches. -/
  unconditional : Bool
  deriving DecidableEq, Repr

/-- The returns of a list of statements and of the branches of its conditions. -/
def returnPaths (statements : List (Node root)) : ReturnPaths :=
  { occurs := statements.any mayReturn
    conditional := statements.any fun statement =>
      statement.kind == .ifStatement && mayReturn statement
    unconditional := statements.any mustReturn }

/-- What is wrong with the body of a callback whose result is used, and whether it is minor. -/
def lostResult (body : List (Node root)) : Option (String × Bool) :=
  let paths := returnPaths body
  if body.isEmpty then some ("has empty body — will always return undefined.", false)
  else if !paths.occurs then
    some ("has no return statement — will produce undefined values.", false)
  else if paths.conditional && !paths.unconditional then
    some ("only returns in some branches — some elements will be undefined.", true)
  else none

/-- Callbacks that lose their result. -/
def lostResults (context : Context root) : List (Hazard root) :=
  (context.methodCalls returningMethods).filterMap fun (call, method) =>
    call.arguments.head?.bind fun callback =>
      if callback.isFunctionLiteral then
        (callback.blockStatements.bind lostResult).map fun (text, minor) =>
          { site := call, details := method ++ "() callback " ++ text, minor := minor }
      else none

/-! ### Variables read too early -/

/-- Whether a statement declares function-scoped variables. -/
def isVarStatement (statement : Node root) : Bool := statement.declarationWord == some "var"

/-- The line on which each function-scoped variable of the program gets its value. -/
def initializerLines (statements : List (Node root)) : Keyed Int :=
  (statements.filter isVarStatement).foldl
    (fun lines statement =>
      statement.declarators.foldl
        (fun lines declarator =>
          match declarator.declaratorName, declarator.declaratorParts.2 with
          | some name, some _ => lines.put name statement.line
          | _, _ => lines)
        lines)
    []

/-- The functions that the program declares. -/
def declaredFunctions (statements : List (Node root)) : List String :=
  ((statements.filter fun statement =>
    !isVarStatement statement && statement.kind == .functionDeclaration).filterMap
      Node.functionName).filter fun name => name != ""

/-- How a message tells of a variable that is used on one line and gets its value on another. -/
def earlyUseText (name : String) (used line : Int) : String :=
  "Variable '" ++ name ++ "' is used on line " ++ toString used ++
    " but not initialized until line " ++ toString line ++
    " — it will be undefined due to var hoisting."

/-- A use of a variable on a line before the one on which it gets its value. -/
def earlyUse (lines : Keyed Int) (functions : List String) (node : Node root) :
    Option (String × Hazard root) :=
  if node.kind == .identifier || node.kind == .shorthandPropertyIdentifier then
    let name := node.text
    (lines.get? name).bind fun line =>
      if !functions.contains name && node.line < line then
        some (name,
          { site := node
            details := earlyUseText name node.line line })
      else none
  else none

/-- Variables read before they get their value, once per variable. -/
def earlyUses (context : Context root) : Except Fault (List (Hazard root)) :=
  let statements := context.statements
  let lines := initializerLines statements
  let functions := declaredFunctions statements
  if lines.isEmpty then .ok []
  else do
    let walks ← (statements.filter fun statement =>
      !isVarStatement statement && !statement.isDeferred).mapM (context.scan Node.isDeferred)
    return Hazard.oncePerName (walks.flatten.filterMap (earlyUse lines functions))

/-! ### Arrays as dictionaries -/

/-- A quoted text. -/
def quoted (text : String) : String := "\"" ++ text ++ "\""

/-- How a message shows a key that is not a position in an array. -/
def dictionaryKey (context : Context root) (key? value? : Option (Node root)) : Option String :=
  key?.bind fun key =>
    match key.stringValue with
    | some text => some (quoted text)
    | none =>
      key.identifierName.filter fun name =>
        match context.typeOf name with
        | .string => true
        | .number => false
        | _ => Node.kindOf (value?.map Node.unwrap) == .object

/-- Arrays that are used as dictionaries, once per array. -/
def arrayDictionaries (context : Context root) : List (Hazard root) :=
  Hazard.oncePerName
    ((context.ofKinds assignmentKinds).filterMap fun node =>
      (node.fieldInside .left).bind fun left =>
        if left.kind == .subscriptExpression then
          ((left.memberObject.bind Node.identifierName).filter fun name =>
            context.typeOf name == .array).bind fun name =>
              (dictionaryKey context left.subscriptIndex (node.field .right)).map fun key =>
                (name,
                  { site := node
                    details := "Array '" ++ name ++ "' is used with string key " ++ key ++
                      " — this creates object properties that .length, indexing, and iteration " ++
                      "will miss. Use an object \x7b\x7d or Map instead." })
        else none)

/-! ### Loop bounds -/

/-- The counter of a loop that starts at zero. -/
def counterFromZero (loop : Node root) : Option String :=
  loop.forInitializer.bind fun start =>
    if start.declarationWord.isSome then
      match start.declarators with
      | [declarator] =>
        match declarator.declaratorName, declarator.declaratorParts.2 with
        | some name, some value =>
          if value.kind == .number &&
              (Number.real? value.text.toList).any fun number => number == 0 then
            some name
          else none
        | _, _ => none
      | _ => none
    else none

/-- The array up to whose length, inclusive, a loop counts. -/
def inclusiveArray (context : Context root) (counter : String) (loop : Node root) :
    Option String :=
  loop.forCondition.bind fun test =>
    if test.kind == .binaryExpression && test.hasOperator "<=" &&
        (test.field .left).bind Node.identifierName == some counter then
      (test.fieldInside .right).bind fun bound =>
        if bound.memberProperty == some "length" then
          (bound.memberObject.bind Node.identifierName).filter fun name =>
            context.typeOf name == .array
        else none
    else none

/-- Whether a loop counts up by one. -/
def countsUp (counter : String) (loop : Node root) : Bool :=
  loop.forIncrement.any fun step =>
    step.kind == .updateExpression && step.hasOperator "++" &&
      (step.field .argument).bind Node.identifierName == some counter

/-- Loops that run one step too far. -/
def overruns (context : Context root) : List (Hazard root) :=
  (context.ofKind .forStatement).filterMap fun loop =>
    (counterFromZero loop).bind fun counter =>
      (inclusiveArray context counter loop).bind fun array =>
        if countsUp counter loop then
          some
            { site := loop
              details := "Loop uses 'i <= " ++ array ++
                ".length' — this iterates one time too many. When i === " ++ array ++ ".length, " ++
                array ++ "[i] is undefined (out of bounds). Use 'i < " ++ array ++
                ".length' instead." }
        else none

/-! ### Arithmetic on strings -/

/-- Operators that only work on numbers. -/
def arithmeticOperators : List String := ["*", "-", "/", "%", "**"]

/-- How a message shows an operand that is a string. -/
def stringOperand (context : Context root) (operand : Node root) : Option String :=
  match operand.stringValue with
  | some text => some (quoted text)
  | none => operand.identifierName.filter fun name => context.typeOf name == .string

/-- The operand of an expression that is a string, the left one first. -/
def anyStringOperand (context : Context root) (node : Node root) : Option String :=
  match (node.field .left).bind (stringOperand context) with
  | none | some "" => (node.field .right).bind (stringOperand context)
  | some operand => some operand

/-- The first arithmetic on a string. -/
def stringArithmetic (context : Context root) : List (Hazard root) :=
  ((Context.named (context.ofKind .binaryExpression) Node.operator
    arithmeticOperators).filterMap fun (node, token) =>
      (anyStringOperand context node).map fun operand =>
        { site := node
          details := "Arithmetic operator '" ++ token ++ "' used with string " ++ operand ++
            " — JavaScript silently coerces strings to numbers, producing NaN for non-numeric " ++
            "strings. Use Number() or parseInt() for explicit conversion." : Hazard root }).take 1

end SnippetTutor.Detectors.Hazards
