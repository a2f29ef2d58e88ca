import SnippetTutor.Tree.Kind
import SnippetTutor.Tree.Role

/-!
# Syntax trees

A syntax tree is a label with an ordered list of subtrees. The label records what the grammar
calls the construct, the part it plays under its parent, whether it is a named construct, a
token that the parser had to invent, or the site of a syntax error, and where in the source it
stands.

* `Label` carries the kind of its name together with the proof that it is that kind;
* `Tree.height` is the length of the longest way down, and every subtree is lower
  (`Tree.height_lt_of_mem`), which is what recursion on trees rests on;
* `Tree.size` counts nodes, `Tree.forestSize` those of a list of trees; an agenda of trees that
  trades a tree for trees below it shrinks in this measure.
-/

namespace SnippetTutor

/-- What is known about one node apart from its children. -/
structure Label where
  /-- The name that the grammar gives to the construct. -/
  name : String
  /-- The construct, kept beside its name. -/
  kind : Kind := Kind.ofName name
  kind_eq : kind = Kind.ofName name := by rfl
  /-- The part that the node plays under its parent. -/
  role : Option Role := none
  /-- A named construct rather than a bare token. -/
  named : Bool := true
  /-- A token that is not in the source and was supplied by the parser. -/
  missing : Bool := false
  /-- A syntax error lies at or below the node. -/
  hasError : Bool := false
  /-- Byte offsets of the node's text in the source. -/
  start : Nat := 0
  stop : Nat := 0
  /-- The position of the first byte: line breaks before it, and bytes since the last of them. -/
  row : Nat := 0
  column : Nat := 0
  text : String := ""

/-- A syntax tree. -/
inductive Tree where
  | node (label : Label) (subtrees : List Tree)

namespace Tree

/-- The label of the topmost node. -/
def label : Tree → Label
  | node label _ => label

/-- The trees directly below the topmost node. -/
def subtrees : Tree → List Tree
  | node _ subtrees => subtrees

mutual

/-- The number of levels below the topmost node. -/
def height : Tree → Nat
  | node _ subtrees => forestHeight subtrees

/-- The number of levels in a forest. -/
def forestHeight : List Tree → Nat
  | [] => 0
  | tree :: rest => max (height tree + 1) (forestHeight rest)

end

mutual

/-- The number of nodes of a tree. -/
def size : Tree → Nat
  | node _ subtrees => forestSize subtrees + 1

/-- The number of nodes of a forest. -/
def forestSize : List Tree → Nat
  | [] => 0
  | tree :: rest => size tree + forestSize rest

end

theorem size_eq (tree : Tree) : tree.size = forestSize tree.subtrees + 1 := by
  cases tree
  rw [size, subtrees]

theorem forestSize_append (first second : List Tree) :
    forestSize (first ++ second) = forestSize first + forestSize second := by
  induction first with
  | nil => simp [forestSize]
  | cons tree rest ih => simp only [List.cons_append, forestSize, ih]; omega

theorem forestSize_le_of_sublist {part whole : List Tree} (sub : part.Sublist whole) :
    forestSize part ≤ forestSize whole := by
  induction sub with
  | slnil => exact Nat.le_refl _
  | cons tree _ ih => rw [forestSize]; omega
  | cons_cons tree _ ih => rw [forestSize, forestSize]; omega

theorem height_lt_forestHeight {tree : Tree} :
    ∀ {forest : List Tree}, tree ∈ forest → tree.height < forestHeight forest
  | first :: rest, member => by
    rw [forestHeight]
    rcases List.mem_cons.1 member with rfl | member
    · omega
    · have := height_lt_forestHeight member
      omega

/-- A subtree is lower than the tree it stands in. -/
theorem height_lt_of_mem {tree subtree : Tree} (member : subtree ∈ tree.subtrees) :
    subtree.height < tree.height := by
  cases tree with
  | node label subtrees => exact height_lt_forestHeight member

end Tree

end SnippetTutor
