import SnippetTutor.Keyed

/-!
# JSON values

Whole numbers and doubles are different kinds of value, and an object remembers the order in
which its keys first occurred.
-/

namespace SnippetTutor

/-- A JSON value. -/
inductive Json where
  | null
  | bool (value : Bool)
  | int (value : Int)
  | real (value : Float)
  | text (value : String)
  | list (items : List Json)
  | object (members : List (String × Json))
  deriving Repr

namespace Json

/-- The members of an object. -/
def asObject? : Json → Option (Keyed Json)
  | object members => some members
  | _ => none

/-- The items of a list. -/
def asList? : Json → Option (List Json)
  | list items => some items
  | _ => none

/-- The characters of a text. -/
def asText? : Json → Option String
  | text value => some value
  | _ => none

/-- The value under a key of an object. -/
def get? (json : Json) (key : String) : Option Json :=
  json.asObject?.bind fun members => members.get? key

/-- Whether a value counts as set: anything but null, false, zero and the empty ones. -/
def isSet : Json → Bool
  | null => false
  | bool value => value
  | int value => value != 0
  | real value => value != 0.0
  | text value => value != ""
  | list items => !items.isEmpty
  | object members => !members.isEmpty

/-- Whether a value is neither a list nor an object. -/
def isPlain : Json → Bool
  | list _ | object _ => false
  | _ => true

/-- The name of the type of a value in messages. -/
def typeName : Json → String
  | null => "NoneType"
  | bool _ => "bool"
  | int _ => "int"
  | real _ => "float"
  | text _ => "str"
  | list _ => "list"
  | object _ => "dict"

/-- What a loop over a value runs over: the items of a list, the characters of a text or the keys
of an object. -/
def items? : Json → Option (List Json)
  | list items => some items
  | text value => some (value.toList.map fun c => text (String.singleton c))
  | object members => some ((Keyed.keys members).map text)
  | _ => none

end Json

end SnippetTutor
