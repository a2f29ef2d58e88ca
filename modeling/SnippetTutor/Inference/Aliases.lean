import SnippetTutor.Inference.ValueType
import SnippetTutor.Shape.Composite
import SnippetTutor.Text.Split

/-!
# Aliases and mutations

An object or array bound to one name may also be bound to another name or be stored in a property
of an object literal. `AliasMap` keeps, for each source value, the names and paths bound to it and
the places where it is changed through one of them.

* `AliasMap.addAlias` resolves the source once, when the alias is recorded;
* `AliasMap.groupFor` finds the shared group that a written path belongs to, trying the first two
  steps of the path before the first;
* `AliasMap.build` reads the declarations first, then the assignments and mutating calls.

The places of mutations are of any type: nodes of a tree for analysed code.
-/

namespace SnippetTutor

/-- A change made through a path. -/
structure Mutation (σ : Type) where
  path : String
  site : σ

/-- A source value and every name or path bound to it. -/
structure AliasGroup (σ : Type) where
  source : String
  aliases : List String
  mutations : List (Mutation σ) := []

namespace AliasGroup

variable {σ : Type}

/-- Whether two names or more are bound to the value. -/
def shared (group : AliasGroup σ) : Bool := 1 < group.aliases.length

/-- The aliases apart from the source itself. -/
def others (group : AliasGroup σ) : List String :=
  group.aliases.filter fun name => name != group.source

end AliasGroup

/-- The aliases recorded so far. -/
structure AliasMap (σ : Type) where
  /-- The source that an alias was resolved to. -/
  aliasOf : Keyed String := []
  groups : Keyed (AliasGroup σ) := []
  /-- Sources of changed groups, in order of their first change. -/
  mutatedSources : List String := []

namespace AliasMap

variable {σ : Type}

/-- The source that a name stands for. -/
def canonical (map : AliasMap σ) (name : String) : String := (map.aliasOf.get? name).getD name

/-- The group of a source, a new one if there is none. -/
def groupOf (map : AliasMap σ) (source : String) : AliasGroup σ :=
  (map.groups.get? source).getD { source := source, aliases := [source] }

/-- Makes sure that a source has a group. -/
def ensureSource (map : AliasMap σ) (source : String) : AliasMap σ :=
  { map with groups := map.groups.put source (map.groupOf source) }

/-- Records that a name or path is bound to what `source` stands for. -/
def addAlias (map : AliasMap σ) (name source : String) : AliasMap σ :=
  let target := map.canonical source
  let group := map.groupOf target
  let aliases := if group.aliases.contains name then group.aliases else group.aliases ++ [name]
  { map with
    aliasOf := map.aliasOf.put name target
    groups := map.groups.put target { group with aliases := aliases } }

/-- Whether a name is an alias or a source. -/
def knows (map : AliasMap σ) (name : String) : Bool :=
  map.aliasOf.hasKey name || map.groups.hasKey name

/-- The starts of a path that may be bound to a group, the longer one first. -/
def candidates (path : String) : List String :=
  match Text.split '.' path with
  | first :: second :: _ :: _ => [first ++ "." ++ second, first]
  | first :: _ => [first]
  | [] => []

/-- The shared group that a written path belongs to. -/
def groupFor (map : AliasMap σ) (path : String) : Option (AliasGroup σ) :=
  (candidates path).findSome? fun name =>
    if map.knows name then (map.groups.get? (map.canonical name)).filter AliasGroup.shared
    else none

/-- Records a change made through a path, if the path belongs to a shared group. -/
def recordMutation (map : AliasMap σ) (path : String) (site : σ) : AliasMap σ :=
  match map.groupFor path with
  | none => map
  | some group =>
    { map with
      groups := map.groups.put group.source
        { group with mutations := group.mutations ++ [⟨path, site⟩] }
      mutatedSources :=
        if group.mutations.isEmpty then map.mutatedSources ++ [group.source]
        else map.mutatedSources }

/-- The changed groups, in order of their first change. -/
def mutated (map : AliasMap σ) : List (AliasGroup σ) :=
  map.mutatedSources.filterMap map.groups.get?

/-! ### Aliases of a tree -/

/-- Whether a name stands for something that can be shared: a container, or a member of a group. -/
def shareable (map : AliasMap σ) (types : TypeMap) (name : String) : Bool :=
  map.knows name || (types.typeOf name).isContainer

variable {root : Tree}

/-- Records a name as an alias of a variable that can be shared. -/
def bind (types : TypeMap) (map : AliasMap σ) (name : String) (value? : Option (Node root)) :
    AliasMap σ :=
  match value?.bind Node.identifierName with
  | some source => if map.shareable types source then map.addAlias name source else map
  | none => map

/-- The path of a property of an object literal bound to `name`. -/
def propertyPath (name : String) (pair : Node root) : String :=
  match pair.pairKeyName with
  | some "" => name ++ ".?"
  | some key => name ++ "." ++ key
  | none => name ++ ".?"

/-- The aliases made by one declarator: the name itself, or properties of an object literal. -/
def declare (types : TypeMap) (map : AliasMap σ) (declarator : Node root) : AliasMap σ :=
  match declarator.declaratorParts with
  | (some target, some value) =>
    match target.identifierName with
    | none => map
    | some name =>
      let map := bind types map name (some value)
      if value.kind == .object then
        value.objectPairs.foldl
          (fun map pair => bind types map (propertyPath name pair) (pair.field .value)) map
      else map
  | _ => map

/-- The aliases made by the declarations of an indexed tree. -/
def ofDeclarations (index : Index root) (types : TypeMap) : AliasMap σ :=
  (index.ofKind .variableDeclarator).foldl (declare types) {}

/-- Methods that change an array in place. -/
def mutatingMethods : List String :=
  ["push", "pop", "shift", "unshift", "splice", "sort", "reverse", "fill"]

/-- The path written by an assignment. -/
def assignedPath (assignment : Node root) : Option String :=
  (assignment.field .left).bind Node.simpleMemberPath

/-- The path changed by a call of a mutating method. -/
def calledPath (call : Node root) : Option String :=
  match call.methodCall with
  | (some object, some method) =>
    if mutatingMethods.contains method then
      let path? :=
        match object.identifierName with
        | some "" => object.simpleMemberPath
        | some name => some name
        | none => object.simpleMemberPath
      path?.map fun path => path ++ "." ++ method
    else none
  | _ => none

/-- Records a change at a construct, if it writes a path. -/
def recordAt (path? : Node root → Option String) (map : AliasMap (Node root)) (node : Node root) :
    AliasMap (Node root) :=
  match path? node with
  | some path => map.recordMutation path node
  | none => map

/-- The aliases and mutations of an indexed tree. -/
def build (index : Index root) (types : TypeMap) : AliasMap (Node root) :=
  let assignments := index.ofKinds [.assignmentExpression, .augmentedAssignmentExpression]
  let calls := index.ofKind .callExpression
  let map := assignments.foldl (recordAt assignedPath) (ofDeclarations index types)
  calls.foldl (recordAt calledPath) map

end AliasMap

end SnippetTutor
