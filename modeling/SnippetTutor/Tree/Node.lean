import SnippetTutor.Tree.Basic

/-!
# Places in a tree

A `Node root` is a place in the tree `root`: the subtree that stands there, the trees above it
from the nearest to the root, and the way down by child positions. The proof field says that the
three belong together, so a node can only be made by starting at the top and going down, and
every function that yields nodes yields places of the same tree.

* `Node.offspring` are the nodes directly below, `Node.parent?` and `Node.ancestors` those above;
* `Node.children` are the named constructs directly below, comments excluded;
* `Node.field` finds a child by the part it plays;
* `Node.eq_of_path_eq`: a place is determined by its path, which is how nodes are told apart.
-/

namespace SnippetTutor

/-- A position in a source: lines count from one, columns count bytes from zero. -/
structure Location where
  line : Int
  column : Int
  deriving DecidableEq, Repr

/-- The subtree found by going down from `root`, with the trees passed on the way and the
positions chosen, both from the last step to the first. -/
inductive Reaches (root : Tree) : Tree → List Tree → List Nat → Prop where
  | top : Reaches root root [] []
  | down {tree above path} (reached : Reaches root tree above path)
      (i : Nat) (bound : i < tree.subtrees.length) :
      Reaches root tree.subtrees[i] (tree :: above) (i :: path)

/-- A place in the tree `root`. -/
structure Node (root : Tree) where
  tree : Tree
  above : List Tree
  path : List Nat
  reached : Reaches root tree above path

namespace Node

variable {root : Tree}

/-- The topmost place. -/
def top (root : Tree) : Node root := ⟨root, [], [], .top⟩

/-- The place one step down. -/
def child (node : Node root) (i : Fin node.tree.subtrees.length) : Node root :=
  ⟨node.tree.subtrees[i.val], node.tree :: node.above, i.val :: node.path, node.reached.down i i.isLt⟩

/-- All places one step down, tokens and comments included. -/
def offspring (node : Node root) : List (Node root) := List.ofFn node.child

/-- The place one step up. -/
def parent? : Node root → Option (Node root)
  | ⟨_, [], _, _⟩ => none
  | ⟨_, parent :: above, path, reached⟩ =>
    some ⟨parent, above, path.tail, by cases reached; assumption⟩

theorem height_lt_of_mem_offspring {node below : Node root} (member : below ∈ node.offspring) :
    below.tree.height < node.tree.height := by
  obtain ⟨i, rfl⟩ := List.mem_ofFn.1 member
  exact Tree.height_lt_of_mem (List.getElem_mem _)

theorem map_tree_offspring (node : Node root) : node.offspring.map tree = node.tree.subtrees := by
  rw [offspring, List.map_ofFn]
  exact List.ofFn_getElem

theorem above_lt_of_parent? {node parent : Node root} (found : node.parent? = some parent) :
    parent.above.length < node.above.length := by
  obtain ⟨tree, above, path, reached⟩ := node
  cases above with
  | nil => simp [parent?] at found
  | cons first above =>
    simp only [parent?, Option.some.injEq] at found
    subst found
    simp

theorem reaches_unique {tree tree' : Tree} {above above' : List Tree} {path : List Nat}
    (reached : Reaches root tree above path) (reached' : Reaches root tree' above' path) :
    tree = tree' ∧ above = above' := by
  induction reached generalizing tree' above' with
  | top => cases reached'; exact ⟨rfl, rfl⟩
  | down _ i _ ih =>
    cases reached' with
    | down reached'' =>
      obtain ⟨rfl, rfl⟩ := ih reached''
      exact ⟨rfl, rfl⟩

/-- A place is determined by its path. -/
theorem eq_of_path_eq {first second : Node root} (same : first.path = second.path) :
    first = second := by
  obtain ⟨tree, above, path, reached⟩ := first
  obtain ⟨tree', above', path', reached'⟩ := second
  obtain rfl : path = path' := same
  obtain ⟨rfl, rfl⟩ := reaches_unique reached reached'
  rfl

instance : DecidableEq (Node root) := fun first second =>
  if same : first.path = second.path then .isTrue (eq_of_path_eq same)
  else .isFalse fun equal => same (congrArg path equal)

/-! ### Labels -/

/-- The label at a place. -/
def label (node : Node root) : Label := node.tree.label

/-- The construct at a place. -/
def kind (node : Node root) : Kind := node.label.kind

/-- The grammar's name of the construct. -/
def name (node : Node root) : String := node.label.name

/-- The source text of the construct. -/
def text (node : Node root) : String := node.label.text

/-- Whether the construct is a named one. -/
def named (node : Node root) : Bool := node.label.named

/-- The line of a construct, counted from one. -/
def line (node : Node root) : Int := node.label.row + 1

/-- Where a construct begins. -/
def location (node : Node root) : Location := ⟨node.line, node.label.column⟩

/-- Whether one construct's bytes lie inside another's. -/
def within (node container : Node root) : Bool :=
  container.label.start ≤ node.label.start && node.label.stop ≤ container.label.stop

/-- Whether a construct begins no later than another one. -/
def beginsBefore (first second : Node root) : Bool :=
  first.label.row < second.label.row ||
    (first.label.row == second.label.row && first.label.column ≤ second.label.column)

/-! ### Neighbours -/

/-- Named constructs directly below, comments included. -/
def namedOffspring (node : Node root) : List (Node root) := node.offspring.filter named

/-- Named constructs directly below in source order, comments excluded. -/
def children (node : Node root) : List (Node root) :=
  node.offspring.filter fun below => below.named && below.name != "comment"

/-- Names of the tokens directly below. -/
def tokens (node : Node root) : List String :=
  (node.offspring.filter fun below => !below.named).map name

/-- The first child that plays the given part. -/
def field (node : Node root) (role : Role) : Option (Node root) :=
  node.offspring.find? fun below => below.label.role == some role

theorem mem_offspring_of_mem_children {node below : Node root} (member : below ∈ node.children) :
    below ∈ node.offspring := (List.mem_filter.1 member).1

theorem height_lt_of_mem_children {node below : Node root} (member : below ∈ node.children) :
    below.tree.height < node.tree.height :=
  height_lt_of_mem_offspring (mem_offspring_of_mem_children member)

theorem mem_offspring_of_field {node below : Node root} {role : Role}
    (found : node.field role = some below) : below ∈ node.offspring :=
  List.mem_of_find?_eq_some found

theorem height_lt_of_field {node below : Node root} {role : Role}
    (found : node.field role = some below) : below.tree.height < node.tree.height :=
  height_lt_of_mem_offspring (mem_offspring_of_field found)

/-- The number of tree nodes at or below the given places. -/
def load (nodes : List (Node root)) : Nat := Tree.forestSize (nodes.map tree)

theorem load_append (first second : List (Node root)) :
    load (first ++ second) = load first + load second := by
  rw [load, List.map_append, Tree.forestSize_append, load, load]

theorem load_cons (node : Node root) (rest : List (Node root)) :
    load (node :: rest) = node.tree.size + load rest := by
  rw [load, List.map_cons, Tree.forestSize, load]

/-- Any selection of the places directly below weighs less than the place itself. -/
theorem load_lt_size {node : Node root} {below : List (Node root)}
    (selected : below.Sublist node.offspring) : load below < node.tree.size := by
  have bound := Tree.forestSize_le_of_sublist (selected.map tree)
  rw [map_tree_offspring] at bound
  rw [Tree.size_eq, load]
  omega

/-- The places above, from the nearest to the top. -/
def ancestors (node : Node root) : List (Node root) :=
  match _found : node.parent? with
  | none => []
  | some parent => parent :: parent.ancestors
termination_by node.above.length
decreasing_by exact above_lt_of_parent? ‹_›

/-- The construct at a place that may be absent; an absent one is of no particular kind. -/
def kindOf : Option (Node root) → Kind
  | some node => node.kind
  | none => .other

/-- The children of a place that may be absent. -/
def childrenOf : Option (Node root) → List (Node root)
  | some node => node.children
  | none => []

/-- The field of a place that may be absent. -/
def fieldOf (node? : Option (Node root)) (role : Role) : Option (Node root) :=
  node?.bind fun node => node.field role

end Node

end SnippetTutor
