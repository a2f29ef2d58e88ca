import SnippetTutor.Fault
import SnippetTutor.Number.Reader
import SnippetTutor.Shape.Expression

/-!
# Number literals

The value of a number literal as a double. Digit separators and the mark of a big integer are
dropped; a literal with a base prefix is a whole number and must fit a double, while a decimal
literal beyond the range is infinite.
-/

namespace SnippetTutor.Node

variable {root : Tree}

/-- A literal without separators and big-integer marks. -/
def bareNumeral (text : String) : List Char :=
  ((text.toList.filter (· != '_')).reverse.dropWhile (· == 'n')).reverse

/-- Whether a literal in lower case starts with a base prefix. -/
def hasBasePrefix : List Char → Bool
  | '0' :: base :: _ => base == 'x' || base == 'o' || base == 'b'
  | _ => false

/-- The value of the text of a number literal; nothing when it is malformed. -/
def numeralValue (text : String) : Except Fault (Option Float) :=
  let bare := bareNumeral text
  let lowered := bare.map Char.toLower
  if hasBasePrefix lowered then
    match Number.prefixed? lowered with
    | none => .ok none
    | some n =>
      match Number.nearest? n 1 with
      | some x => .ok (some x)
      | none => .error .tooLarge
  else .ok (Number.real? bare)

/-- The value of a number literal, negated under a unary minus. -/
def numberValue (node : Node root) : Except Fault (Option Float) :=
  let inner := node.unwrap
  let negated := inner.kind == .unaryExpression && inner.hasOperator "-"
  let literal? := if negated then inner.fieldInside .argument else some inner
  match literal? with
  | some literal =>
    if literal.kind == .number then
      (numeralValue literal.text).map fun value? =>
        value?.map fun value => if negated then -1.0 * value else 1.0 * value
    else .ok none
  | none => .ok none

end SnippetTutor.Node
