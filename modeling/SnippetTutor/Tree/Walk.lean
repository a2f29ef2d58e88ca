import SnippetTutor.Tree.Node

/-!
# Walks

A walk lists the constructs at and below a place in source order, parents before children, with
their depth below the start. Two things hold it back: a depth limit, and a test for constructs
whose inside is of no interest (the construct itself is still listed, and the start is never cut).

The walk keeps an agenda of visits instead of recursing: the first visit is listed and replaced
by the visits of its children. The agenda shrinks in the number of tree nodes it stands for.
-/

namespace SnippetTutor

/-- How many levels below its start a walk may go. -/
inductive DepthLimit where
  | unlimited
  | atMost (levels : Int)
  deriving DecidableEq, Repr

/-- Whether a walk must not go below the given depth. -/
def DepthLimit.stops : DepthLimit → Nat → Bool
  | unlimited, _ => false
  | atMost levels, depth => levels ≤ depth

/-- A construct met on a walk, with its depth below the start. -/
structure Visit (root : Tree) where
  node : Node root
  depth : Nat

namespace Visit

variable {root : Tree}

/-- The visits that a visit leads to. -/
def next (prune : Node root → Bool) (limit : DepthLimit) (visit : Visit root) :
    List (Visit root) :=
  if (0 < visit.depth && prune visit.node) || limit.stops visit.depth then []
  else visit.node.children.map fun below => ⟨below, visit.depth + 1⟩

theorem load_next_lt (prune : Node root → Bool) (limit : DepthLimit) (visit : Visit root) :
    Node.load ((visit.next prune limit).map node) < visit.node.tree.size := by
  rw [next]
  split
  · rw [List.map_nil]
    exact Node.load_lt_size (List.nil_sublist _)
  · rw [List.map_map]
    have same : (node ∘ fun below => (⟨below, visit.depth + 1⟩ : Visit root)) = id := rfl
    rw [same, List.map_id]
    exact Node.load_lt_size List.filter_sublist

/-- Works off an agenda of visits. -/
def drain (prune : Node root → Bool) (limit : DepthLimit) : List (Visit root) → List (Visit root)
  | [] => []
  | visit :: agenda => visit :: drain prune limit (visit.next prune limit ++ agenda)
termination_by agenda => Node.load (agenda.map node)
decreasing_by
  rw [List.map_append, Node.load_append, List.map_cons, Node.load_cons]
  exact Nat.add_lt_add_right (load_next_lt prune limit visit) _

end Visit

namespace Node

variable {root : Tree}

/-- The visits of a walk from `node`. -/
def visits (prune : Node root → Bool) (limit : DepthLimit) (node : Node root) :
    List (Visit root) :=
  Visit.drain prune limit [⟨node, 0⟩]

/-- The constructs of a walk from `node`. -/
def walk (prune : Node root → Bool) (limit : DepthLimit) (node : Node root) :
    List (Node root) :=
  (node.visits prune limit).map Visit.node

/-- No construct is cut off. -/
def whole : Node root → Bool := fun _ => false

/-- Every construct at or below `node`. -/
def descendants (node : Node root) : List (Node root) := node.walk whole .unlimited

/-- Every construct at or below `node` outside the inside of the pruned ones. -/
def descendantsOutside (prune : Node root → Bool) (node : Node root) : List (Node root) :=
  node.walk prune .unlimited

/-- Whether some construct at or below `node` passes the test. -/
def contains (node : Node root) (test : Node root → Bool) : Bool := node.descendants.any test

/-- Whether some construct at or below `node`, outside the inside of the pruned ones, passes the
test. -/
def containsOutside (prune : Node root → Bool) (node : Node root) (test : Node root → Bool) :
    Bool :=
  (node.descendantsOutside prune).any test

/-- The first construct of a walk that passes the test; the start may be left out of account. -/
def first? (prune : Node root → Bool) (limit : DepthLimit) (startCounts : Bool)
    (node : Node root) (test : Node root → Bool) : Option (Node root) :=
  (node.walk prune limit).find? fun met => (startCounts || met ≠ node) && test met

end Node

end SnippetTutor
