import SnippetTutor.Proofs.Preorder
import SnippetTutor.Proofs.Sites
import SnippetTutor.Proofs.StableOrder
import SnippetTutor.Tree.Index

/-!
# The index in source order

A tree of constructs is nested if every construct lies inside the one above it and constructs side
by side follow one another. In a nested tree a walk meets constructs in source order: of two of them
the one that is met first contains the other or ends before it.

* `Tree.IsNested` is the condition, `Node.pairwise_preorder` what follows for a walk;
* `Index.precedes` is an order in which constructs of the same extent are tied
  (`Index.tied_precedes_iff`);
* `Index.flatMap_filter_kind`: tied constructs are gathered in walk order, since all of them are of
  one kind (`Index.TellsApart`);
* `Index.mem_ofKinds_iff` and `Index.nodup_ofKinds`: in any tree a selection by kinds has all the
  constructs of these kinds, once each;
* `Index.ofKinds_in_source_order`: a selection by kinds is a part of the walk, however the kinds are
  listed.
-/

namespace SnippetTutor

/-! ### Nested trees -/

namespace Tree

/-- The trees directly below lie inside the tree, one after the other. -/
structure Encloses (tree : Tree) : Prop where
  inside : ∀ below ∈ tree.subtrees,
    tree.label.start ≤ below.label.start ∧ below.label.stop ≤ tree.label.stop
  inOrder : tree.subtrees.Pairwise fun first second => first.label.stop ≤ second.label.start

instance (tree : Tree) : Decidable tree.Encloses :=
  decidable_of_iff
    ((∀ below ∈ tree.subtrees,
      tree.label.start ≤ below.label.start ∧ below.label.stop ≤ tree.label.stop) ∧
      tree.subtrees.Pairwise fun first second => first.label.stop ≤ second.label.start)
    ⟨fun ⟨inside, inOrder⟩ => ⟨inside, inOrder⟩, fun ⟨inside, inOrder⟩ => ⟨inside, inOrder⟩⟩

/-- Each part of the tree encloses what is directly below it. -/
def IsNested (root : Tree) : Prop := ∀ part ∈ root.parts, part.Encloses

instance (root : Tree) : Decidable root.IsNested :=
  inferInstanceAs (Decidable (∀ part ∈ root.parts, part.Encloses))

end Tree

namespace Node

variable {root : Tree} {first second third : Node root}

theorem within_iff :
    first.within second = true ↔
      second.label.start ≤ first.label.start ∧ first.label.stop ≤ second.label.stop := by
  simp [within]

theorem within_refl (node : Node root) : node.within node = true :=
  within_iff.2 ⟨Nat.le_refl _, Nat.le_refl _⟩

theorem within_trans (inner : first.within second = true) (outer : second.within third = true) :
    first.within third = true := by
  rw [within_iff] at inner outer ⊢
  omega

theorem within_of_mem_children (nested : root.IsNested) {node below : Node root}
    (member : below ∈ node.children) : below.within node = true := by
  obtain ⟨i, rfl⟩ := exists_child_of_mem_children member
  exact within_iff.2 ((nested _ node.tree_mem_parts).inside _ (List.getElem_mem i.isLt))

/-- Children follow one another. -/
theorem pairwise_children (nested : root.IsNested) (node : Node root) :
    node.children.Pairwise fun first second => first.label.stop ≤ second.label.start := by
  have inOrder := (nested _ node.tree_mem_parts).inOrder
  rw [← map_tree_offspring, List.pairwise_map] at inOrder
  exact inOrder.sublist List.filter_sublist

/-- What is met on a walk lies inside its start. -/
theorem within_of_mem_preorder (nested : root.IsNested) {prune : Node root → Bool}
    {limit : DepthLimit} {depth : Nat} {node : Node root} {visit : Visit root}
    (member : visit ∈ node.preorder prune limit depth) : visit.node.within node = true := by
  have leads := mem_preorder_iff.1 member
  clear member
  induction leads with
  | refl => exact node.within_refl
  | tail _ step ih =>
    obtain ⟨-, child, -⟩ := Visit.mem_next_iff.1 step
    exact within_trans (within_of_mem_children nested child) ih

/-- One construct contains another, or ends before it begins. -/
def StandsBefore (first second : Node root) : Prop :=
  second.within first = true ∨ first.label.stop ≤ second.label.start

/-- In a nested tree a walk meets constructs in source order. -/
theorem pairwise_preorder (nested : root.IsNested) (prune : Node root → Bool)
    (limit : DepthLimit) (depth : Nat) (node : Node root) :
    (node.preorder prune limit depth).Pairwise fun first second =>
      first.node.StandsBefore second.node := by
  induction node using childInduction generalizing depth with
  | step node ih =>
    have inside : ∀ visit ∈ node.preorder prune limit depth, visit.node.within node = true :=
      fun _ member => within_of_mem_preorder nested member
    rw [preorder_eq] at inside ⊢
    refine List.pairwise_cons.2
      ⟨fun visit member => .inl (inside visit (List.mem_cons_of_mem _ member)), ?_⟩
    split
    · exact .nil
    · rw [List.pairwise_flatMap]
      refine ⟨fun below child => ih below child (depth + 1), ?_⟩
      -- What is below one child ends with it, before anything below the next child begins.
      refine (pairwise_children nested node).imp fun {first second} apart => ?_
      intro visit member visit' member'
      have inner := within_iff.1 (within_of_mem_preorder nested member)
      have inner' := within_iff.1 (within_of_mem_preorder nested member')
      exact .inr (by omega)

end Node

/-! ### The order of the index -/

namespace Index

variable {root : Tree}

theorem nodes_build (root : Tree) (limit : DepthLimit) :
    (build root limit).nodes = ((Node.top root).preorder Node.whole limit 0).map Visit.node := by
  rw [build, Node.visits_eq_preorder]

/-- No construct is in the index twice. -/
theorem nodup_nodes_build (root : Tree) (limit : DepthLimit) : (build root limit).nodes.Nodup := by
  rw [nodes_build]
  exact Node.nodup_preorder Node.whole limit 0 (Node.top root)

theorem precedes_iff {first second : Node root} :
    precedes first second = true ↔
      first.label.start < second.label.start ∨
        first.label.start = second.label.start ∧ second.label.stop ≤ first.label.stop := by
  simp [precedes]

theorem precedes_trans (first second third : Node root) (before : precedes first second = true)
    (after : precedes second third = true) : precedes first third = true := by
  rw [precedes_iff] at before after ⊢
  omega

theorem precedes_total (first second : Node root) :
    (precedes first second || precedes second first) = true := by
  rw [Bool.or_eq_true, precedes_iff, precedes_iff]
  omega

/-- Constructs of the same extent are tied. -/
theorem tied_precedes_iff {first second : Node root} :
    tied precedes first second = true ↔
      first.label.start = second.label.start ∧ first.label.stop = second.label.stop := by
  rw [tied_iff, precedes_iff, precedes_iff]
  omega

/-- A construct that is not empty precedes what it stands before. -/
theorem precedes_of_standsBefore {first second : Node root}
    (filled : first.label.start < first.label.stop) (before : first.StandsBefore second) :
    precedes first second = true := by
  rw [precedes_iff]
  rcases before with inside | apart
  · rw [Node.within_iff] at inside
    omega
  · omega

/-- In a nested tree constructs that are not empty are listed in order. -/
theorem pairwise_precedes (nested : root.IsNested) (limit : DepthLimit) {test : Node root → Bool}
    (filled : ∀ node ∈ (build root limit).nodes, test node = true →
      node.label.start < node.label.stop) :
    ((build root limit).nodes.filter test).Pairwise fun first second =>
      precedes first second = true := by
  have inOrder : (build root limit).nodes.Pairwise Node.StandsBefore := by
    rw [nodes_build, List.pairwise_map]
    exact Node.pairwise_preorder nested Node.whole limit 0 (Node.top root)
  refine (inOrder.sublist List.filter_sublist).imp_of_mem fun {first second} member _ before => ?_
  obtain ⟨listed, selected⟩ := List.mem_filter.1 member
  exact precedes_of_standsBefore (filled first listed selected) before

/-- Constructs that are gathered kind by kind are in walk order if all of them are of one kind. -/
theorem flatMap_filter_kind {nodes : List (Node root)} {kinds : List Kind} (distinct : kinds.Nodup)
    (same : ∀ first ∈ nodes, ∀ second ∈ nodes, first.kind ∈ kinds → second.kind ∈ kinds →
      first.kind = second.kind) :
    (kinds.flatMap fun kind => nodes.filter fun node => node.kind == kind) =
      nodes.filter fun node => node.kind ∈ kinds := by
  induction kinds with
  | nil => simp
  | cons kind kinds ih =>
    obtain ⟨absent, distinct⟩ := List.nodup_cons.1 distinct
    rw [List.flatMap_cons, ih distinct fun first member second member' listed listed' =>
      same first member second member' (List.mem_cons_of_mem _ listed)
        (List.mem_cons_of_mem _ listed')]
    by_cases met : ∃ node ∈ nodes, node.kind = kind
    · -- All of them are of the first kind, and none is of a later one.
      obtain ⟨node, member, rfl⟩ := met
      have only : ∀ other ∈ nodes, other.kind ∈ node.kind :: kinds → other.kind = node.kind :=
        fun other member' listed => same other member' node member listed List.mem_cons_self
      have others : (nodes.filter fun other => other.kind ∈ kinds) = [] := by
        refine List.filter_eq_nil_iff.2 fun other member' listed => absent ?_
        have later := of_decide_eq_true listed
        rwa [only other member' (List.mem_cons_of_mem _ later)] at later
      rw [others, List.append_nil]
      refine List.filter_congr fun other member' => Bool.eq_iff_iff.2 ?_
      rw [beq_iff_eq, decide_eq_true_eq]
      exact ⟨fun equal => equal ▸ List.mem_cons_self, only other member'⟩
    · -- None of them is of the first kind.
      have none : (nodes.filter fun other => other.kind == kind) = [] :=
        List.filter_eq_nil_iff.2 fun other member equal => met ⟨other, member, eq_of_beq equal⟩
      rw [none, List.nil_append]
      refine List.filter_congr fun other member => decide_eq_decide.2 ?_
      rw [List.mem_cons, or_iff_right fun equal => met ⟨other, member, equal⟩]

/-! ### Selections -/

/-- A selection by kinds is a rearrangement of the selections by each of them. -/
theorem perm_ofKinds (index : Index root) (kinds : List Kind) :
    (index.ofKinds kinds).Perm (kinds.flatMap index.ofKind) := by
  unfold ofKinds
  split
  · rw [List.flatMap_singleton]
  · exact List.mergeSort_perm _ _

theorem mem_ofKinds_iff {index : Index root} {kinds : List Kind} {node : Node root} :
    node ∈ index.ofKinds kinds ↔ node ∈ index.nodes ∧ node.kind ∈ kinds := by
  rw [(index.perm_ofKinds kinds).mem_iff]
  simp only [List.mem_flatMap, ofKind, List.mem_filter, beq_iff_eq]
  constructor
  · rintro ⟨kind, listed, member, rfl⟩
    exact ⟨member, listed⟩
  · rintro ⟨member, listed⟩
    exact ⟨node.kind, listed, member, rfl⟩

/-- No construct is selected twice. -/
theorem nodup_ofKinds {index : Index root} {kinds : List Kind} (distinct : index.nodes.Nodup)
    (apart : kinds.Nodup) : (index.ofKinds kinds).Nodup := by
  rw [(index.perm_ofKinds kinds).nodup_iff, List.nodup_flatMap]
  refine ⟨fun kind _ => distinct.filter _, apart.imp fun {one two} differ node member member' => ?_⟩
  have first := eq_of_beq (List.mem_filter.1 member).2
  have second := eq_of_beq (List.mem_filter.1 member').2
  exact differ (first.symm.trans second)

/-- The kinds are listed once each, their constructs are not empty, and those of different kinds
have different extents. -/
structure TellsApart (index : Index root) (kinds : List Kind) : Prop where
  distinct : kinds.Nodup
  filled : ∀ node ∈ index.nodes, node.kind ∈ kinds → node.label.start < node.label.stop
  apart : ∀ first ∈ index.nodes, ∀ second ∈ index.nodes,
    first.kind ∈ kinds → second.kind ∈ kinds → first.kind ≠ second.kind →
      ¬(first.label.start = second.label.start ∧ first.label.stop = second.label.stop)

theorem TellsApart.perm {index : Index root} {kinds others : List Kind}
    (told : index.TellsApart kinds) (same : others.Perm kinds) : index.TellsApart others where
  distinct := same.nodup_iff.2 told.distinct
  filled node member listed := told.filled node member (same.mem_iff.1 listed)
  apart first member second member' listed listed' :=
    told.apart first member second member' (same.mem_iff.1 listed) (same.mem_iff.1 listed')

/-- In a nested tree constructs gathered kind by kind and then arranged are in walk order. -/
theorem mergeSort_flatMap_ofKind (nested : root.IsNested) {limit : DepthLimit} {kinds : List Kind}
    (told : (build root limit).TellsApart kinds) :
    (kinds.flatMap (build root limit).ofKind).mergeSort precedes =
      (build root limit).nodes.filter fun node => node.kind ∈ kinds := by
  refine mergeSort_eq_of_stable precedes_trans precedes_total
    (pairwise_precedes nested limit fun node member listed =>
      told.filled node member (of_decide_eq_true listed)) fun item => ?_
  have gathered : ((kinds.flatMap (build root limit).ofKind).filter (tied precedes item)) =
      kinds.flatMap fun kind => ((build root limit).nodes.filter (tied precedes item)).filter
        fun node => node.kind == kind := by
    rw [List.filter_flatMap]
    exact congrArg (kinds.flatMap ·) (funext fun kind => List.filter_comm _ _ _)
  rw [gathered, flatMap_filter_kind told.distinct, List.filter_comm]
  -- What is tied with one item has one extent, hence one kind.
  intro first member second member' listed listed'
  obtain ⟨member, tie⟩ := List.mem_filter.1 member
  obtain ⟨member', tie'⟩ := List.mem_filter.1 member'
  rw [tied_precedes_iff] at tie tie'
  by_contra differ
  exact told.apart first member second member' listed listed' differ
    ⟨tie.1.symm.trans tie'.1, tie.2.symm.trans tie'.2⟩

theorem ofKinds_eq_filter (nested : root.IsNested) {limit : DepthLimit} {kinds : List Kind}
    (told : (build root limit).TellsApart kinds) :
    (build root limit).ofKinds kinds =
      (build root limit).nodes.filter fun node => node.kind ∈ kinds := by
  unfold ofKinds
  split
  · exact List.filter_congr fun node _ => Bool.eq_iff_iff.2 (by simp)
  · exact mergeSort_flatMap_ofKind nested told

/-- In a nested tree a selection by kinds is the part of the walk with these kinds, whether there is
one kind or several and however they are listed. -/
theorem ofKinds_in_source_order (root : Tree) (nested : root.IsNested) (limit : DepthLimit)
    (kinds : List Kind) (told : (build root limit).TellsApart kinds) :
    let index := build root limit
    index.nodes = ((Node.top root).preorder Node.whole limit 0).map Visit.node ∧
    index.ofKinds kinds = index.nodes.filter (fun node => node.kind ∈ kinds) ∧
    index.ofKinds kinds = (kinds.flatMap index.ofKind).mergeSort precedes ∧
    ∀ others, others.Perm kinds → index.ofKinds others = index.ofKinds kinds := by
  intro index
  have selected := ofKinds_eq_filter nested told
  refine ⟨nodes_build root limit, selected, ?_, fun others same => ?_⟩
  · rw [selected, mergeSort_flatMap_ofKind nested told]
  · rw [selected, ofKinds_eq_filter nested (told.perm same)]
    exact List.filter_congr fun node _ => decide_eq_decide.2 same.mem_iff

/-- Declarations with `var` and with `let` in turn, one of them inside another, are selected in
source order although the kinds are listed the other way round. -/
theorem ofKinds_in_source_order_declarations :
    let root : Tree :=
      .node { name := "program", stop := 40 }
        [.node { name := "variable_declaration", start := 0, stop := 20 }
          [.node { name := "identifier", start := 4, stop := 5 } [],
           .node { name := "arrow_function", start := 8, stop := 20 }
            [.node { name := "lexical_declaration", start := 9, stop := 19 } []]],
         .node { name := "comment", start := 21, stop := 25 } [],
         .node { name := "lexical_declaration", start := 26, stop := 32 } [],
         .node { name := "variable_declaration", start := 33, stop := 40 } []]
    let index := build root .unlimited
    root.IsNested ∧ index.TellsApart [.lexicalDeclaration, .variableDeclaration] ∧
    index.ofKinds [.lexicalDeclaration, .variableDeclaration] =
      index.nodes.filter (fun node =>
        node.kind ∈ [Kind.lexicalDeclaration, .variableDeclaration]) ∧
    (index.ofKinds [.variableDeclaration, .lexicalDeclaration]).map (fun node => node.label.start) =
      [0, 9, 26, 33] := by
  intro root index
  have nested : root.IsNested := by decide +kernel
  have told : index.TellsApart [.lexicalDeclaration, .variableDeclaration] :=
    ⟨by decide +kernel, by decide +kernel, by decide +kernel⟩
  obtain ⟨-, selected, -, independent⟩ := ofKinds_in_source_order root nested .unlimited _ told
  refine ⟨nested, told, selected, ?_⟩
  rw [independent _ (List.Perm.swap _ _ _), selected]
  decide +kernel

end Index

end SnippetTutor
