import SnippetTutor.Shape.Expression

/-!
# Calls and member accesses

* `callee`, `callName`, `methodCall` and `staticCall` describe what is called;
* `memberProperty` is the name after the dot, `memberChain` resolves `root.a.b[c]` into its root
  and the keys along the way.
-/

namespace SnippetTutor.Node

variable {root : Tree}

/-- What a call calls, or a `new` expression constructs. -/
def callee (call : Node root) : Option (Node root) :=
  if call.kind == .newExpression then call.fieldInside .constructor else call.fieldInside .function

/-- The name of a bare callee. -/
def callName (call : Node root) : Option String := call.callee.bind identifierName

/-- Whether a call has the given bare callee. -/
def calls (call : Node root) (name : String) : Bool := call.callName == some name

/-- The arguments of a call. -/
def arguments (call : Node root) : List (Node root) :=
  match call.field .arguments with
  | some list => if list.kind == .arguments then list.children else []
  | none => []

/-- The object of a member access. -/
def memberObject (node : Node root) : Option (Node root) := node.fieldInside .object

/-- The property name of a member access with a dot. -/
def memberProperty (node : Node root) : Option String :=
  let inner := node.unwrap
  if inner.kind == .memberExpression then (inner.field .property).map text else none

/-- Whether the property accessed is a private one. -/
def isPrivateMember (node : Node root) : Bool :=
  kindOf (node.field .property) == .privatePropertyIdentifier

/-- The key of an access with brackets. -/
def subscriptIndex (node : Node root) : Option (Node root) := node.fieldInside .index

/-- Whether an access stops at a missing object. -/
def isOptionalChain (node : Node root) : Bool :=
  node.offspring.any fun below => below.name == "optional_chain" || below.name == "?."

/-- Object and method of a call `object.method(...)`; nothing for other calls. -/
def methodCall (call : Node root) : Option (Node root) × Option String :=
  match call.callee with
  | some target =>
    if target.kind == .memberExpression then (target.memberObject, target.memberProperty)
    else (none, none)
  | none => (none, none)

/-- The method of a call `object.method(...)`. -/
def methodName (call : Node root) : Option String := call.methodCall.2

/-- The name that a call goes by, bare or as a method. -/
def calledName (call : Node root) : Option String :=
  match call.callName with
  | some "" | none => call.methodName
  | some name => some name

/-- The object of a call `object.method(...)`. -/
def receiver (call : Node root) : Option (Node root) := call.methodCall.1

/-- The name of the object and the method of a call `Name.method(...)`. -/
def staticCall (call : Node root) : Option String × Option String :=
  (call.receiver.bind identifierName, call.methodName)

/-- Whether a call is `owner.method(...)`. -/
def callsStatic (call : Node root) (owner method : String) : Bool :=
  call.staticCall == (some owner, some method)

/-- Whether a call loads a module while the program runs. -/
def isDynamicImport (call : Node root) : Bool := kindOf (call.field .function) == .importKeyword

/-- The key by which one step of a member chain goes on; `?` when it cannot be told. -/
def chainKey (access : Node root) : String :=
  if access.kind == .memberExpression then
    match access.memberProperty with
    | some "" => "?"
    | some key => key
    | none => "?"
  else
    match access.subscriptIndex with
    | some index =>
      match index.stringValue with
      | some key => key
      | none => if index.kind == .identifier || index.kind == .number then index.text else "?"
    | none => "?"

theorem height_unwrap_le (node : Node root) : node.unwrap.tree.height ≤ node.tree.height := by
  fun_induction unwrap node with
  | case1 node _ inner found ih =>
    exact Nat.le_of_lt
      (Nat.lt_of_le_of_lt ih (height_lt_of_mem_children (List.mem_of_head? found)))
  | case2 => exact Nat.le_refl _
  | case3 => exact Nat.le_refl _

theorem height_lt_of_fieldInside {node below : Node root} {role : Role}
    (found : node.fieldInside role = some below) : below.tree.height < node.tree.height := by
  obtain ⟨held, field, rfl⟩ := Option.map_eq_some_iff.1 found
  exact Nat.lt_of_le_of_lt (height_unwrap_le held) (height_lt_of_field field)

/-- The root name and the keys of `root.a.b[c]`. -/
def memberChain (node : Node root) : Option (String × List String) :=
  let inner := node.unwrap
  if inner.kind == .memberExpression || inner.kind == .subscriptExpression then
    match _found : inner.memberObject with
    | some object =>
      object.memberChain.map fun (start, keys) => (start, keys ++ [inner.chainKey])
    | none => none
  else if inner.kind == .identifier then some (inner.text, [])
  else none
termination_by node.tree.height
decreasing_by
  exact Nat.lt_of_lt_of_le (height_lt_of_fieldInside ‹_›) (height_unwrap_le node)

/-- A path `a.b` or `a.b.c` of dots from an identifier. -/
def simpleMemberPath (node : Node root) : Option String :=
  let inner := node.unwrap
  match inner.memberProperty with
  | none => none
  | some key =>
    match inner.memberObject with
    | none => none
    | some object =>
      match object.identifierName with
      | some start => some (start ++ "." ++ key)
      | none =>
        if object.kind == .memberExpression then
          match object.memberObject.bind identifierName, object.memberProperty with
          | some start, some first => some (start ++ "." ++ first ++ "." ++ key)
          | _, _ => none
        else none

end SnippetTutor.Node
