import SnippetTutor.Proofs.SourceOrder
import SnippetTutor.Snippet.Diagnostic
import SnippetTutor.Snippet.Outline

/-!
# Syntax errors in source order

The syntax errors of a tree are collected from an agenda of suspect places until there are enough of
them. What is collected is the beginning of a list that recursion on the tree gives: the problem that
a construct stands for, and then those of the suspect trees below it, one after the other.

* `Tree.problems` is the recursion; `Diagnostic.collect_eq_take` is the invariant of the agenda, which
  lists the recursion from each of its places;
* `Outline.position_mono`: of two offsets in a source the later one has the later position, or the
  same row and a column that is not smaller;
* `Tree.IsOrdered`: constructs are ranges of the source, inside one another or one after the other.
  In such a tree every problem stands in the range of the tree it is listed for
  (`Tree.exists_offset_of_mem_problems`), so the list is in source order (`Tree.pairwise_problems`);
* `Diagnostic.syntaxErrors_listed` puts this together.
-/

namespace SnippetTutor

/-! ### Problems by recursion -/

namespace Diagnostic

/-- The diagnostic of a token that the parser had to supply. -/
def ofMissing (label : Label) : Diagnostic :=
  { message := "Missing '" ++ label.name ++ "'", line := label.row + 1, column := label.column }

/-- The diagnostic of a construct that makes no sense. -/
def ofError (label : Label) : Diagnostic :=
  { message := unexpected label.text, line := label.row + 1, column := label.column }

/-- A diagnostic stands on an earlier line than another one, or on the same line and not behind it. -/
def NotAfter (first second : Diagnostic) : Prop :=
  first.line < second.line ∨ first.line = second.line ∧ first.column ≤ second.column

end Diagnostic

namespace Tree

/-- A tree has an error in it, or is a missing token. -/
def isSuspect (tree : Tree) : Bool := tree.label.hasError || tree.label.missing

mutual

/-- The problems of a tree: that of a missing token, and nothing below it, or else that of an error,
and those of the suspect trees below. -/
def problems : Tree → List Diagnostic
  | node label subtrees =>
    if label.missing then [.ofMissing label]
    else (if label.name = "ERROR" then [.ofError label] else []) ++ forestProblems subtrees

/-- The problems of the suspect trees of a forest. -/
def forestProblems : List Tree → List Diagnostic
  | [] => []
  | tree :: rest => (if isSuspect tree then problems tree else []) ++ forestProblems rest

end

theorem forestProblems_eq (forest : List Tree) :
    forestProblems forest = (forest.filter isSuspect).flatMap problems := by
  induction forest with
  | nil => rfl
  | cons tree rest ih =>
    rw [forestProblems, ih]
    cases suspect : tree.isSuspect with
    | false => simp [suspect]
    | true => simp [suspect]

theorem problems_of_missing {tree : Tree} (missing : tree.label.missing = true) :
    tree.problems = [.ofMissing tree.label] := by
  cases tree
  rw [problems]
  exact if_pos missing

theorem problems_of_not_missing {tree : Tree} (present : tree.label.missing = false) :
    tree.problems = (if tree.label.name = "ERROR" then [.ofError tree.label] else []) ++
      (tree.subtrees.filter isSuspect).flatMap problems := by
  cases tree
  rw [problems, forestProblems_eq]
  exact if_neg (Bool.eq_false_iff.1 present)

end Tree

/-! ### The agenda -/

namespace Diagnostic

variable {root : Tree}

theorem length_own_le (node : Node root) : (own node).length ≤ 1 := by
  unfold own
  split
  · exact Nat.le_refl 1
  · split
    · exact Nat.le_refl 1
    · exact Nat.zero_le 1

/-- A place adds its own problem, and those of the suspect places below it. -/
theorem problems_tree (node : Node root) :
    node.tree.problems = own node ++ (suspects node).flatMap fun below => below.tree.problems := by
  cases missing : node.label.missing with
  | true =>
    rw [Tree.problems_of_missing missing, own, suspects, if_pos missing, if_pos missing]
    rfl
  | false =>
    have mine : own node =
        if node.label.name = "ERROR" then [ofError node.label] else [] := by
      simp [own, missing, ofError, locatedAt, Node.name, Node.text, Node.location, Node.line]
    have below : (suspects node).map Node.tree = node.tree.subtrees.filter Tree.isSuspect := by
      rw [suspects, missing, ← Node.map_tree_offspring, List.filter_map]
      rfl
    rw [Tree.problems_of_not_missing missing, mine, ← below, List.flatMap_map]
    rfl

/-- What is collected is the beginning of what the recursion lists from the places on the agenda. -/
theorem collect_eq_take (limit : Nat) (agenda : List (Node root)) :
    collect limit agenda = (agenda.flatMap fun node => node.tree.problems).take limit := by
  fun_induction collect limit agenda with
  | case1 => rw [List.flatMap_nil, List.take_nil]
  | case2 => rw [List.take_zero]
  | case3 limit node agenda room ih =>
    have fits : (own node).take limit = own node := by
      have short := length_own_le node
      exact List.take_of_length_le (by omega)
    rw [ih, List.flatMap_cons, problems_tree node, List.append_assoc, List.take_append, fits,
      List.flatMap_append]

theorem syntaxErrors_eq (limit : Nat) (root : Tree) :
    syntaxErrors limit root = if root.label.hasError then root.problems.take limit else [] := by
  rw [syntaxErrors, collect_eq_take, List.flatMap_singleton]
  rfl

end Diagnostic

/-! ### Positions -/

namespace Outline

/-- Of two offsets the later one has the later row, or the same row and no smaller column. -/
theorem position_mono (feeds : List Nat) {first second : Nat} (le : first ≤ second) :
    (position feeds first).1 < (position feeds second).1 ∨
      (position feeds first).1 = (position feeds second).1 ∧
        (position feeds first).2 ≤ (position feeds second).2 := by
  have fewer : (feeds.filter (· < first)).Sublist (feeds.filter (· < second)) := by
    refine List.monotone_filter_right feeds fun feed before => ?_
    rw [decide_eq_true_eq] at before ⊢
    omega
  rcases Nat.lt_or_eq_of_le fewer.length_le with less | equal
  · exact .inl less
  · -- The same line feeds come before both offsets.
    have same := fewer.eq_of_length equal
    refine .inr ⟨equal, ?_⟩
    unfold position
    rw [same]
    exact Nat.sub_le_sub_right le _

/-- The positions in a tree are those of its offsets in a source. -/
def Places (feeds : List Nat) (tree : Tree) : Prop :=
  ∀ part ∈ tree.parts, (part.label.row, part.label.column) = position feeds part.label.start

mutual

theorem places_resolve (bytes : ByteArray) (feeds : List Nat) :
    ∀ outline : Outline, Places feeds (resolve bytes feeds outline)
  | node _ _ _ _ _ _ _ below => by
    intro part member
    rw [resolve, Tree.parts, List.mem_cons] at member
    rcases member with rfl | lower
    · rfl
    · exact places_resolveAll bytes feeds below part lower

theorem places_resolveAll (bytes : ByteArray) (feeds : List Nat) :
    ∀ outlines : List Outline, ∀ part ∈ Tree.forestParts (resolveAll bytes feeds outlines),
      (part.label.row, part.label.column) = position feeds part.label.start
  | [] => by
    intro part member
    rw [resolveAll, Tree.forestParts] at member
    cases member
  | outline :: rest => by
    intro part member
    rw [resolveAll, Tree.forestParts, List.mem_append] at member
    rcases member with here | later
    · exact places_resolve bytes feeds outline part here
    · exact places_resolveAll bytes feeds rest part later

end

end Outline

/-! ### Source order -/

namespace Tree

/-- The constructs of a tree are ranges of the source; those below a construct lie inside it, one
after the other. -/
structure IsOrdered (tree : Tree) : Prop where
  nested : tree.IsNested
  ranged : ∀ part ∈ tree.parts, part.label.start ≤ part.label.stop

instance (tree : Tree) : Decidable tree.IsOrdered :=
  decidable_of_iff (tree.IsNested ∧ ∀ part ∈ tree.parts, part.label.start ≤ part.label.stop)
    ⟨fun ⟨nested, ranged⟩ => ⟨nested, ranged⟩, fun ⟨nested, ranged⟩ => ⟨nested, ranged⟩⟩

variable {tree below : Tree} {feeds : List Nat}

theorem parts_of_mem_subtrees (member : below ∈ tree.subtrees) {part : Tree}
    (inside : part ∈ below.parts) : part ∈ tree.parts :=
  mem_parts.2 (.inr ⟨below, member, inside⟩)

theorem IsOrdered.of_mem_subtrees (ordered : tree.IsOrdered) (member : below ∈ tree.subtrees) :
    below.IsOrdered where
  nested part inside := ordered.nested part (parts_of_mem_subtrees member inside)
  ranged part inside := ordered.ranged part (parts_of_mem_subtrees member inside)

/-- What holds of a tree if it holds of the trees directly below it holds of all trees. -/
@[elab_as_elim]
theorem subtreeInduction {motive : Tree → Prop} (tree : Tree)
    (step : ∀ tree, (∀ below ∈ tree.subtrees, motive below) → motive tree) : motive tree :=
  step tree fun below _ => subtreeInduction below step
termination_by tree.height
decreasing_by exact height_lt_of_mem ‹_›

end Tree

namespace Diagnostic

/-- A diagnostic stands at the position of an offset. -/
def StandsAt (feeds : List Nat) (offset : Nat) (diagnostic : Diagnostic) : Prop :=
  diagnostic.line = (Outline.position feeds offset).1 + 1 ∧
    diagnostic.column = (Outline.position feeds offset).2

theorem StandsAt.notAfter {feeds : List Nat} {offset offset' : Nat} {first second : Diagnostic}
    (here : first.StandsAt feeds offset) (there : second.StandsAt feeds offset')
    (le : offset ≤ offset') : first.NotAfter second := by
  obtain ⟨line, column⟩ := here
  obtain ⟨line', column'⟩ := there
  have moved := Outline.position_mono feeds le
  unfold NotAfter
  omega

end Diagnostic

namespace Tree

variable {tree below : Tree} {feeds : List Nat} {diagnostic : Diagnostic}

theorem standsAt_start (placed : Outline.Places feeds tree) :
    (Diagnostic.ofMissing tree.label).StandsAt feeds tree.label.start ∧
      (Diagnostic.ofError tree.label).StandsAt feeds tree.label.start := by
  have position := placed tree tree.self_mem_parts
  have row : tree.label.row = (Outline.position feeds tree.label.start).1 :=
    congrArg Prod.fst position
  have column : tree.label.column = (Outline.position feeds tree.label.start).2 :=
    congrArg Prod.snd position
  simp [Diagnostic.StandsAt, Diagnostic.ofMissing, Diagnostic.ofError, row, column]

/-- The problem that a tree stands for itself is where the tree begins. -/
theorem standsAt_of_mem_own (placed : Outline.Places feeds tree)
    (member : diagnostic ∈ if tree.label.name = "ERROR" then [.ofError tree.label] else []) :
    diagnostic.StandsAt feeds tree.label.start := by
  split at member
  · rw [List.mem_singleton.1 member]
    exact (standsAt_start placed).2
  · cases member

/-- Every problem listed for a tree stands in the range of the tree. -/
theorem exists_offset_of_mem_problems (ordered : tree.IsOrdered)
    (placed : Outline.Places feeds tree) (member : diagnostic ∈ tree.problems) :
    ∃ offset, tree.label.start ≤ offset ∧ offset ≤ tree.label.stop ∧
      diagnostic.StandsAt feeds offset := by
  have range := ordered.ranged tree tree.self_mem_parts
  induction tree using subtreeInduction with
  | step tree ih =>
    cases missing : tree.label.missing with
    | true =>
      rw [problems_of_missing missing, List.mem_singleton] at member
      rw [member]
      exact ⟨_, Nat.le_refl _, range, (standsAt_start placed).1⟩
    | false =>
      rw [problems_of_not_missing missing, List.mem_append] at member
      rcases member with own | lower
      · exact ⟨_, Nat.le_refl _, range, standsAt_of_mem_own placed own⟩
      · obtain ⟨below, suspect, member⟩ := List.mem_flatMap.1 lower
        have child := (List.mem_filter.1 suspect).1
        have inner := ordered.of_mem_subtrees child
        obtain ⟨offset, after, before, stands⟩ := ih below child inner
          (fun part inside => placed part (parts_of_mem_subtrees child inside)) member
          (inner.ranged below below.self_mem_parts)
        have inside := (ordered.nested tree tree.self_mem_parts).inside below child
        exact ⟨offset, by omega, by omega, stands⟩

/-- In an ordered tree the problems are listed in source order. -/
theorem pairwise_problems (ordered : tree.IsOrdered) (placed : Outline.Places feeds tree) :
    tree.problems.Pairwise Diagnostic.NotAfter := by
  induction tree using subtreeInduction with
  | step tree ih =>
    cases missing : tree.label.missing with
    | true =>
      rw [problems_of_missing missing]
      exact List.pairwise_singleton _ _
    | false =>
      have placed' : ∀ below ∈ tree.subtrees, Outline.Places feeds below :=
        fun below child part inside => placed part (parts_of_mem_subtrees child inside)
      have encloses := ordered.nested tree tree.self_mem_parts
      rw [problems_of_not_missing missing, List.pairwise_append, List.pairwise_flatMap]
      refine ⟨?_, ⟨fun below suspect => ?_, ?_⟩, fun own mine lower member => ?_⟩
      · split
        · exact List.pairwise_singleton _ _
        · exact .nil
      · have child := (List.mem_filter.1 suspect).1
        exact ih below child (ordered.of_mem_subtrees child) (placed' below child)
      · -- What is listed for one tree ends with it, before the next tree begins.
        refine (encloses.inOrder.sublist List.filter_sublist).imp_of_mem ?_
        intro first second suspect suspect' apart one member two member'
        have child := (List.mem_filter.1 suspect).1
        have child' := (List.mem_filter.1 suspect').1
        obtain ⟨offset, -, ends, stands⟩ := exists_offset_of_mem_problems
          (ordered.of_mem_subtrees child) (placed' first child) member
        obtain ⟨offset', begins, -, stands'⟩ := exists_offset_of_mem_problems
          (ordered.of_mem_subtrees child') (placed' second child') member'
        exact stands.notAfter stands' (by omega)
      · obtain ⟨below, suspect, member⟩ := List.mem_flatMap.1 member
        have child := (List.mem_filter.1 suspect).1
        obtain ⟨offset, begins, -, stands⟩ := exists_offset_of_mem_problems
          (ordered.of_mem_subtrees child) (placed' below child) member
        have inside := encloses.inside below child
        exact (standsAt_of_mem_own placed mine).notAfter stands (by omega)

end Tree

namespace Diagnostic

/-- The syntax errors of a tree are the first of the problems that recursion lists, as many as the
limit allows, if the tree says that it has an error, and none otherwise. In a tree that was read
over a source and is ordered, they are in source order. -/
theorem syntaxErrors_listed (limit : Nat) :
    (∀ root : Tree, syntaxErrors limit root =
      if root.label.hasError then root.problems.take limit else []) ∧
    ∀ (source : String) (outline : Outline), (outline.toTree source).IsOrdered →
      (syntaxErrors limit (outline.toTree source)).Pairwise NotAfter := by
  refine ⟨syntaxErrors_eq limit, fun source outline ordered => ?_⟩
  have listed : (outline.toTree source).problems.Pairwise NotAfter :=
    Tree.pairwise_problems ordered (Outline.places_resolve _ _ outline)
  rw [syntaxErrors_eq]
  split
  · exact listed.sublist (List.take_sublist _ _)
  · exact .nil

/-- In `f(1 2;` and, on the next line, `= x` a comma is missing, and then there is an error. -/
theorem syntaxErrors_listed_broken_call :
    let outline : Outline :=
      .node "program" "" true false true 0 10
        [.node "expression_statement" "" true false true 0 6
          [.node "call_expression" "" true false true 0 5
            [.node "identifier" "function" true false false 0 1 [],
             .node "arguments" "arguments" true false true 1 5
              [.node "number" "" true false false 2 3 [],
               .node "," "" false true false 3 3 [],
               .node "number" "" true false false 4 5 []]]],
         .node "ERROR" "" true false true 7 8
          [.node "=" "" false false false 7 8 []],
         .node "identifier" "" true false false 9 10 []]
    let root := outline.toTree "f(1 2;\n= x"
    root.IsOrdered ∧ (syntaxErrors 50 root).Pairwise NotAfter ∧
      (syntaxErrors 50 root).map (fun diagnostic => (diagnostic.line, diagnostic.column)) =
        [(1, 3), (2, 0)] := by
  intro outline root
  have ordered : root.IsOrdered := by decide +kernel
  exact ⟨ordered, (syntaxErrors_listed 50).2 _ outline ordered, by decide +kernel⟩

end Diagnostic

end SnippetTutor
