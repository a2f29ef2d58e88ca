import SnippetTutor.Keyed
import SnippetTutor.Shape.Call
import SnippetTutor.Shape.Binding
import SnippetTutor.Tree.Index

/-!
# Types of declared names

A coarse type for every name that is declared with an initial value. Only the initial value
counts: assignments, branches and results of functions are not followed. All scopes share one
map, and a later declaration with a known type replaces an earlier one.
-/

namespace SnippetTutor

/-- Coarse types of values. -/
inductive ValueType where
  | array
  | object
  | string
  | number
  | boolean
  | function
  | regexp
  | null
  | undefined
  | map
  | set
  | date
  | promise
  | unknown
  deriving DecidableEq, Repr

/-- The name of a type. -/
def ValueType.spelling : ValueType → String
  | array => "array"
  | object => "object"
  | string => "string"
  | number => "number"
  | boolean => "boolean"
  | function => "function"
  | regexp => "regexp"
  | null => "null"
  | undefined => "undefined"
  | map => "map"
  | set => "set"
  | date => "date"
  | promise => "promise"
  | unknown => "unknown"

/-- Whether values of a type are containers that can be changed in place. -/
def ValueType.isContainer (type : ValueType) : Bool := type == object || type == array

namespace Node

variable {root : Tree}

/-- The type of a literal. -/
def literalType? : Kind → Option ValueType
  | .array => some .array
  | .object => some .object
  | .string | .templateString => some .string
  | .number => some .number
  | .trueLiteral | .falseLiteral => some .boolean
  | .nullLiteral => some .null
  | .undefinedLiteral => some .undefined
  | .regex => some .regexp
  | .arrowFunction | .functionExpression => some .function
  | _ => none

/-- The types of values built by known constructors. -/
def constructorTypes : Keyed ValueType :=
  [("Map", .map), ("Set", .set), ("Date", .date), ("Promise", .promise), ("Array", .array),
   ("RegExp", .regexp)]

/-- The types of values returned by known functions. -/
def callTypes : Keyed ValueType :=
  [("Array", .array), ("String", .string), ("Number", .number), ("parseInt", .number),
   ("parseFloat", .number), ("Boolean", .boolean)]

/-- The types of values returned by known static methods. -/
def staticCallTypes : List ((String × String) × ValueType) :=
  [(("Array", "from"), .array), (("Object", "keys"), .array), (("Object", "values"), .array),
   (("Object", "entries"), .array), (("Object", "assign"), .object),
   (("Object", "create"), .object), (("Object", "fromEntries"), .object),
   (("JSON", "stringify"), .string)]

/-- The type of a static call. -/
def staticCallType (call : Node root) : ValueType :=
  match call.staticCall with
  | (some owner, some method) => (staticCallTypes.lookup (owner, method)).getD .unknown
  | _ => .unknown

/-- The type of an initial value. -/
def inferType (node : Node root) : ValueType :=
  let inner := node.unwrap
  match literalType? inner.kind with
  | some type => type
  | none =>
    if inner.kind == .newExpression then
      (inner.callName.bind constructorTypes.get?).getD .object
    else if inner.kind == .callExpression then
      match inner.callName.bind callTypes.get? with
      | some type => type
      | none => inner.staticCallType
    else .unknown

end Node

/-- Types of declared names. -/
abbrev TypeMap := Keyed ValueType

namespace TypeMap

/-- The type recorded for a name. -/
def typeOf (types : TypeMap) (name : String) : ValueType := (types.get? name).getD .unknown

/-- What one declarator adds to the types. -/
def declare {root : Tree} (types : TypeMap) (declarator : Node root) : TypeMap :=
  match declarator.declaratorParts with
  | (some target, some value) =>
    if target.kind == .identifier && value.inferType != .unknown then
      types.put target.text value.inferType
    else types
  | _ => types

/-- The types of all names declared in an indexed tree. -/
def build {root : Tree} (index : Index root) : TypeMap :=
  (index.ofKind .variableDeclarator).foldl declare []

end TypeMap

end SnippetTutor
