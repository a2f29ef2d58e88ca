import SnippetTutor.Tree.Walk

/-!
# The index of a tree

The constructs of a tree down to a depth limit, listed once so that every detector can select
those of the kinds it looks for.

* `Index.ofKinds` selects by kind. One kind is selected in walk order; several are gathered kind
  by kind and then arranged by where they begin, longer ones first, ties as gathered;
* `Index.truncated` tells whether the depth limit met a construct that has something below it.
-/

namespace SnippetTutor

/-- The constructs of a tree in walk order. -/
structure Index (root : Tree) where
  nodes : List (Node root) := []
  truncated : Bool := false

namespace Index

variable {root : Tree}

/-- The index of the whole tree down to a depth limit. -/
def build (root : Tree) (limit : DepthLimit) : Index root :=
  let visits := (Node.top root).visits Node.whole limit
  { nodes := visits.map Visit.node
    truncated := visits.any fun visit =>
      limit.stops visit.depth && !visit.node.namedOffspring.isEmpty }

/-- The constructs of one kind. -/
def ofKind (index : Index root) (kind : Kind) : List (Node root) :=
  index.nodes.filter fun node => node.kind == kind

/-- Whether `first` may stand before `second`: it begins earlier, or at the same place and ends
no earlier. -/
def precedes (first second : Node root) : Bool :=
  first.label.start < second.label.start ||
    (first.label.start == second.label.start && second.label.stop ≤ first.label.stop)

/-- The constructs of the given kinds in source order. -/
def ofKinds (index : Index root) : List Kind → List (Node root)
  | [kind] => index.ofKind kind
  | kinds => (kinds.flatMap index.ofKind).mergeSort precedes

/-- Whether a construct of one of the given kinds occurs. -/
def has (index : Index root) (kinds : List Kind) : Bool :=
  kinds.any fun kind => !(index.ofKind kind).isEmpty

/-- How often each kind occurs, by spelling in ascending order. -/
def census (index : Index root) : List (String × Nat) :=
  let counts := Kind.all.map fun kind => (kind.spelling, (index.ofKind kind).length)
  (counts.filter fun entry => 0 < entry.2).mergeSort fun first second => first.1 ≤ second.1

end Index

end SnippetTutor
