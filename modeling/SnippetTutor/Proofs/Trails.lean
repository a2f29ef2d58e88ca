import SnippetTutor.Proofs.SourceOrder

/-!
# Trails

The trail of a place leads from it up to the statement of the program that it stands in. A walk from
the top comes to the places whose trails hold neither a comment nor a token, as far down as its
limit lets it go.

* `Node.downInduction`: what goes one step down from wherever it holds, and holds at the top;
* `Node.trail_child` and `Node.depth_child` say what one step down adds;
* `Index.child_mem_nodes_iff` is the step of a walk, and `Index.mem_nodes_build_iff` follows from it
  for the whole walk; under a limit in numbers it is a matter of depth
  (`Index.mem_nodes_atMost_iff`).
-/

namespace SnippetTutor

theorem DepthLimit.stops_atMost_eq_false_iff {levels : Int} {depth : Nat} :
    (atMost levels).stops depth = false ↔ depth < levels := by
  rw [stops, decide_eq_false_iff_not, Int.not_le]

namespace Node

variable {root : Tree} {node parent : Node root}

/-- What holds at the top and is handed down at every step holds at all places. -/
@[elab_as_elim]
theorem downInduction {motive : Node root → Prop} (node : Node root) (top : motive (.top root))
    (child : ∀ (parent : Node root) (i : Fin parent.tree.subtrees.length),
      motive parent → motive (parent.child i)) : motive node := by
  obtain ⟨tree, above, path, reached⟩ := node
  induction reached with
  | top => exact top
  | down reached i bound ih => exact child ⟨_, _, _, reached⟩ ⟨i, bound⟩ ih

/-- The number of places above a place. -/
def depth (node : Node root) : Nat := node.path.length

/-- A place and the places above it, the top excepted. -/
def trail (node : Node root) : List (Node root) := (node :: node.ancestors).dropLast

/-- Whether a place is one that walks look at: a named construct that is no comment. -/
def isConstruct (node : Node root) : Bool := node.named && node.name != "comment"

/-- Neither a comment nor a token stands at a place or between it and the top. -/
def IsOpen (node : Node root) : Prop := ∀ place ∈ node.trail, place.isConstruct = true

@[simp] theorem depth_top : (top root).depth = 0 := rfl

@[simp] theorem depth_child (parent : Node root) (i : Fin parent.tree.subtrees.length) :
    (parent.child i).depth = parent.depth + 1 := rfl

theorem ancestors_top : (top root).ancestors = [] := by
  rw [ancestors.eq_def]
  rfl

theorem trail_top : (top root).trail = [] := by
  rw [trail, ancestors_top]
  rfl

/-- One step down adds the place that it leads to. -/
theorem trail_child (parent : Node root) (i : Fin parent.tree.subtrees.length) :
    (parent.child i).trail = parent.child i :: parent.trail := by
  rw [trail, ancestors_child, trail, List.dropLast_cons_of_ne_nil (List.cons_ne_nil _ _)]

theorem isOpen_top : (top root).IsOpen := by
  intro place member
  rw [trail_top] at member
  cases member

theorem isOpen_child_iff {i : Fin parent.tree.subtrees.length} :
    (parent.child i).IsOpen ↔ (parent.child i).isConstruct = true ∧ parent.IsOpen := by
  unfold IsOpen
  rw [trail_child, List.forall_mem_cons]

theorem eq_top_of_depth_eq_zero (flat : node.depth = 0) : node = top root :=
  eq_of_path_eq (List.eq_nil_of_length_eq_zero flat)

theorem child_mem_children_iff {i : Fin parent.tree.subtrees.length} :
    parent.child i ∈ parent.children ↔ (parent.child i).isConstruct = true := by
  have below : parent.child i ∈ parent.offspring := List.mem_ofFn.2 ⟨i, rfl⟩
  exact List.mem_filter.trans (and_iff_right below)

/-- A place is a child of no other place than the one it was reached from. -/
theorem eq_of_child_mem_children {i : Fin parent.tree.subtrees.length}
    (member : parent.child i ∈ node.children) : node = parent := by
  obtain ⟨j, same⟩ := exists_child_of_mem_children member
  have up : some parent = some node := congrArg parent? same
  exact (Option.some.inj up).symm

/-- The trail of a place in the open ends at a statement of the program. -/
theorem exists_statement_of_isOpen (inOpen : node.IsOpen) (lower : node.depth ≠ 0) :
    ∃ statement ∈ (top root).children, node.trail.getLast? = some statement := by
  induction node using downInduction with
  | top => exact absurd depth_top lower
  | child parent i ih =>
    obtain ⟨construct, above⟩ := isOpen_child_iff.1 inOpen
    by_cases flat : parent.depth = 0
    · obtain rfl := eq_top_of_depth_eq_zero flat
      refine ⟨_, child_mem_children_iff.2 construct, ?_⟩
      rw [trail_child, trail_top, List.getLast?_singleton]
    · obtain ⟨statement, listed, last⟩ := ih above flat
      refine ⟨statement, listed, ?_⟩
      rw [trail_child, List.getLast?_cons, last, Option.getD_some]

end Node

/-! ### The step of a walk -/

/-- A way down is as long as the places that it leads to are deeper. -/
theorem Visit.LeadsTo.depth_eq {root : Tree} {prune : Node root → Bool} {limit : DepthLimit}
    {first visit : Visit root} (leads : LeadsTo prune limit first visit) :
    visit.node.depth + first.depth = first.node.depth + visit.depth := by
  induction leads with
  | refl => rfl
  | tail _ step ih =>
    obtain ⟨-, child, deeper⟩ := mem_next_iff.1 step
    obtain ⟨i, made⟩ := Node.exists_child_of_mem_children child
    rw [made, Node.depth_child, deeper]
    omega

namespace Index

variable {root : Tree} {limit : DepthLimit} {node parent : Node root}

/-- The visits behind an index are those of the constructs in it, each at its depth. -/
theorem mem_visits_top_iff {visit : Visit root} :
    visit ∈ (Node.top root).visits Node.whole limit ↔
      visit.depth = visit.node.depth ∧ visit.node ∈ (build root limit).nodes := by
  have depth_eq : ∀ visit ∈ (Node.top root).visits Node.whole limit,
      visit.depth = visit.node.depth := by
    intro visit listed
    rw [Node.visits_eq_preorder] at listed
    have deeper : visit.node.depth + 0 = 0 + visit.depth :=
      (Node.mem_preorder_iff.1 listed).depth_eq
    omega
  constructor
  · intro listed
    exact ⟨depth_eq visit listed, List.mem_map_of_mem listed⟩
  · rintro ⟨deep, member⟩
    obtain ⟨other, listed, same⟩ := List.mem_map.1 member
    obtain rfl : other = visit := by
      obtain ⟨node, depth⟩ := visit
      obtain ⟨node', depth'⟩ := other
      have deep' := depth_eq _ listed
      simp only at deep deep' same
      subst same
      rw [deep, deep']
    exact listed

theorem mem_nodes_iff_leadsTo :
    node ∈ (build root limit).nodes ↔
      Visit.LeadsTo Node.whole limit ⟨.top root, 0⟩ ⟨node, node.depth⟩ := by
  rw [← Node.mem_preorder_iff, ← Node.visits_eq_preorder, mem_visits_top_iff]
  exact (and_iff_right rfl).symm

theorem top_mem_nodes (root : Tree) (limit : DepthLimit) :
    Node.top root ∈ (build root limit).nodes :=
  mem_nodes_iff_leadsTo.2 .refl

/-- A walk goes from a construct to its children, unless the construct is as deep as it may go. -/
theorem child_mem_nodes_iff {i : Fin parent.tree.subtrees.length} :
    parent.child i ∈ (build root limit).nodes ↔
      parent ∈ (build root limit).nodes ∧ limit.stops parent.depth = false ∧
        (parent.child i).isConstruct = true := by
  constructor
  · intro member
    rcases Relation.ReflTransGen.cases_tail (mem_nodes_iff_leadsTo.1 member) with
      same | ⟨before, leads, step⟩
    · have flat := congrArg Visit.depth same
      exact absurd flat (Nat.succ_ne_zero _)
    · obtain ⟨⟨goes, -⟩, child, deeper⟩ := Visit.mem_next_iff.1 step
      obtain ⟨above, depth⟩ := before
      obtain rfl : depth = parent.depth := (Nat.succ.inj deeper).symm
      obtain rfl : above = parent := Node.eq_of_child_mem_children child
      exact ⟨mem_nodes_iff_leadsTo.2 leads, goes, Node.child_mem_children_iff.1 child⟩
  · rintro ⟨member, goes, construct⟩
    have step : (⟨parent.child i, parent.depth + 1⟩ : Visit root) ∈
        Visit.next Node.whole limit ⟨parent, parent.depth⟩ :=
      Visit.mem_next_iff.2
        ⟨⟨goes, .inr rfl⟩, Node.child_mem_children_iff.2 construct, rfl⟩
    exact mem_nodes_iff_leadsTo.2 ((mem_nodes_iff_leadsTo.1 member).tail step)

/-- The index holds what is in the open and not below a place where the limit stops the walk. -/
theorem mem_nodes_build_iff :
    node ∈ (build root limit).nodes ↔
      node.IsOpen ∧ ∀ above ∈ node.ancestors, limit.stops above.depth = false := by
  induction node using Node.downInduction with
  | top =>
    refine iff_of_true (top_mem_nodes root limit) ⟨Node.isOpen_top, fun above member => ?_⟩
    rw [Node.ancestors_top] at member
    cases member
  | child parent i ih =>
    rw [child_mem_nodes_iff, ih, Node.isOpen_child_iff, Node.ancestors_child,
      List.forall_mem_cons]
    tauto

/-- A limit in numbers stops no walk above a place that is not deeper. -/
theorem not_stops_above_iff {levels : Int} :
    (∀ above ∈ node.ancestors, (DepthLimit.atMost levels).stops above.depth = false) ↔
      node.depth ≤ levels.toNat := by
  induction node using Node.downInduction with
  | top =>
    rw [Node.ancestors_top]
    exact iff_of_true (fun _ member => absurd member List.not_mem_nil) (Nat.zero_le _)
  | child parent i ih =>
    rw [Node.ancestors_child, List.forall_mem_cons, ih, DepthLimit.stops_atMost_eq_false_iff,
      Node.depth_child]
    omega

/-- Under a limit in numbers the index holds what is in the open and not deeper. -/
theorem mem_nodes_atMost_iff {levels : Int} :
    node ∈ (build root (.atMost levels)).nodes ↔ node.IsOpen ∧ node.depth ≤ levels.toNat := by
  rw [mem_nodes_build_iff, not_stops_above_iff]

/-- Behind the top, which comes first, an index lists what is below it. -/
theorem mem_tail_nodes_iff :
    node ∈ (build root limit).nodes.tail ↔ node ∈ (build root limit).nodes ∧ node.depth ≠ 0 := by
  have distinct := nodup_nodes_build root limit
  have first : (build root limit).nodes = Node.top root :: (build root limit).nodes.tail := by
    rw [nodes_build, Node.preorder_eq, List.map_cons, List.tail_cons]
  rw [first, List.nodup_cons] at distinct
  rw [first, List.tail_cons, List.mem_cons]
  constructor
  · intro member
    refine ⟨.inr member, fun flat => distinct.1 ?_⟩
    rwa [← Node.eq_top_of_depth_eq_zero flat]
  · rintro ⟨rfl | member, lower⟩
    · exact absurd Node.depth_top lower
    · exact member

end Index

end SnippetTutor
