import Mathlib.Data.List.FinRange
import Mathlib.Data.List.Flatten
import Mathlib.Data.List.Nodup
import Mathlib.Logic.Relation
import SnippetTutor.Tree.Walk

/-!
# Walks in preorder

A walk works off an agenda of visits. What it lists is what recursion on the tree lists: a
construct, and then, one after the other, what is at and below its children.

* `Node.preorder` is the recursion; `Visit.drain_eq_flatMap` is the invariant of the agenda, which
  lists the recursion from each of its visits, and `Node.visits_eq_preorder` the walk from one;
* `Visit.LeadsTo` is a way down by visits that lead to one another, and `Node.mem_preorder_iff` says
  that exactly the visits at the end of such a way are listed;
* `Node.nodup_preorder`: no construct is listed twice, since a way down is told by its path;
* `Visit.LeadsTo.prune_eq_false`: no way leads through a pruned construct below the start;
* `Node.preorder_sublist`: a higher limit only adds visits.
-/

namespace SnippetTutor

/-! ### Steps down a tree -/

namespace Node

variable {root : Tree} {node below inner : Node root}

theorem exists_child_of_mem_children (member : below ∈ node.children) :
    ∃ i, below = node.child i := by
  obtain ⟨i, made⟩ := List.mem_ofFn.1 (mem_offspring_of_mem_children member)
  exact ⟨i, made.symm⟩

theorem path_child (node : Node root) (i : Fin node.tree.subtrees.length) :
    (node.child i).path = i.val :: node.path := rfl

theorem ancestors_child (node : Node root) (i : Fin node.tree.subtrees.length) :
    (node.child i).ancestors = node :: node.ancestors := by
  have up : (node.child i).parent? = some node := rfl
  rw [ancestors.eq_def]
  split
  · rename_i absent
    rw [up] at absent
    cases absent
  · rename_i parent present
    rw [up] at present
    cases present
    rfl

/-- What holds of a construct if it holds of its children holds of all constructs. -/
@[elab_as_elim]
theorem childInduction {motive : Node root → Prop} (node : Node root)
    (step : ∀ node, (∀ below ∈ node.children, motive below) → motive node) : motive node :=
  step node fun below _ => childInduction below step
termination_by node.tree.height
decreasing_by exact height_lt_of_mem_children ‹_›

/-- No construct is listed twice among the children of one. -/
theorem nodup_children (node : Node root) : node.children.Nodup := by
  have injective : Function.Injective node.child := by
    intro i j same
    have paths : i.val :: node.path = j.val :: node.path := congrArg path same
    exact Fin.ext (List.cons.inj paths).1
  exact (List.nodup_ofFn.2 injective).filter _

theorem above_lt_of_mem_ancestors (member : inner ∈ node.ancestors) :
    inner.above.length < node.above.length := by
  fun_induction ancestors node with
  | case1 node _ => cases member
  | case2 node parent up ih =>
    have lower := above_lt_of_parent? up
    rcases List.mem_cons.1 member with rfl | higher
    · exact lower
    · exact Nat.lt_trans (ih higher) lower

end Node

/-! ### Ways down -/

namespace Visit

variable {root : Tree} {prune : Node root → Bool} {limit : DepthLimit}
  {first visit later : Visit root}

theorem mem_next_iff :
    later ∈ visit.next prune limit ↔
      (limit.stops visit.depth = false ∧ (visit.depth = 0 ∨ prune visit.node = false)) ∧
        later.node ∈ visit.node.children ∧ later.depth = visit.depth + 1 := by
  have held : ((0 < visit.depth && prune visit.node) || limit.stops visit.depth) = true ↔
      ¬(limit.stops visit.depth = false ∧ (visit.depth = 0 ∨ prune visit.node = false)) := by
    cases limit.stops visit.depth <;> cases prune visit.node <;> simp [Nat.pos_iff_ne_zero]
  unfold next
  split
  · rename_i stays
    exact iff_of_false List.not_mem_nil fun goes => held.1 stays goes.1
  · rename_i goes
    rw [held, not_not] at goes
    obtain ⟨node, depth⟩ := later
    simp only [List.mem_map, Visit.mk.injEq, goes, true_and]
    constructor
    · rintro ⟨below, child, rfl, rfl⟩
      exact ⟨child, rfl⟩
    · rintro ⟨child, rfl⟩
      exact ⟨node, child, rfl, rfl⟩

/-- A way down from one visit to another, each visit leading to the next one. -/
def LeadsTo (prune : Node root → Bool) (limit : DepthLimit) : Visit root → Visit root → Prop :=
  Relation.ReflTransGen fun visit later => later ∈ visit.next prune limit

namespace LeadsTo

/-- The way down to a construct is told by its path. -/
theorem suffix (leads : LeadsTo prune limit first visit) :
    first.node.path <:+ visit.node.path := by
  induction leads with
  | refl => exact List.suffix_refl _
  | tail _ step ih =>
    obtain ⟨-, child, -⟩ := mem_next_iff.1 step
    obtain ⟨i, made⟩ := Node.exists_child_of_mem_children child
    rw [made, Node.path_child]
    exact ih.trans (List.suffix_cons _ _)

/-- Between the start and a construct that is met there is no pruned one. -/
theorem prune_eq_false {start inner : Node root} (leads : LeadsTo prune limit ⟨start, 0⟩ visit)
    (above : inner ∈ visit.node.ancestors) (below : start ∈ inner.ancestors) :
    prune inner = false := by
  -- Only the start is met at depth zero, so the construct above the one met last is the start, is
  -- above the start, or has been checked.
  suffices (visit.depth = 0 → visit.node = start) ∧
      ∀ inner ∈ visit.node.ancestors, start ∈ inner.ancestors → prune inner = false from
    this.2 inner above below
  clear above below
  induction leads with
  | refl =>
    refine ⟨fun _ => rfl, fun inner above below => ?_⟩
    have higher := Node.above_lt_of_mem_ancestors above
    have lower := Node.above_lt_of_mem_ancestors below
    simp only at higher
    omega
  | tail _ step ih =>
    obtain ⟨only, unpruned⟩ := ih
    obtain ⟨⟨-, goes⟩, child, deeper⟩ := mem_next_iff.1 step
    refine ⟨fun flat => by omega, ?_⟩
    obtain ⟨i, made⟩ := Node.exists_child_of_mem_children child
    rw [made, Node.ancestors_child]
    intro inner above below
    rcases List.mem_cons.1 above with rfl | higher
    · rcases goes with flat | free
      · rw [only flat] at below
        exact absurd (Node.above_lt_of_mem_ancestors below) (Nat.lt_irrefl _)
      · exact free
    · exact unpruned inner higher below

end LeadsTo

end Visit

/-! ### The recursion -/

namespace Node

variable {root : Tree} {prune : Node root → Bool} {limit : DepthLimit} {depth : Nat}
  {node : Node root}

/-- The visits at and below a construct by recursion: the construct, then the visits at and below
its children. A walk that has gone deep enough, or met a pruned construct below its start, goes no
further down. -/
def preorder (prune : Node root → Bool) (limit : DepthLimit) (depth : Nat) (node : Node root) :
    List (Visit root) :=
  ⟨node, depth⟩ ::
    if limit.stops depth || (0 < depth && prune node) then []
    else node.children.attach.flatMap fun below => below.1.preorder prune limit (depth + 1)
termination_by node.tree.height
decreasing_by exact height_lt_of_mem_children below.2

theorem preorder_eq (prune : Node root → Bool) (limit : DepthLimit) (depth : Nat)
    (node : Node root) :
    node.preorder prune limit depth =
      ⟨node, depth⟩ ::
        if limit.stops depth || (0 < depth && prune node) then []
        else node.children.flatMap fun below => below.preorder prune limit (depth + 1) := by
  rw [preorder, List.flatMap_subtype fun _ _ => rfl, List.unattach_attach]

/-- The recursion goes from a visit to those that it leads to. -/
theorem preorder_eq_next (prune : Node root → Bool) (limit : DepthLimit) (depth : Nat)
    (node : Node root) :
    node.preorder prune limit depth =
      ⟨node, depth⟩ :: (Visit.next prune limit ⟨node, depth⟩).flatMap fun visit =>
        visit.node.preorder prune limit visit.depth := by
  rw [preorder_eq, Visit.next, Bool.or_comm]
  split
  · rfl
  · rw [List.flatMap_map]

/-- Exactly the visits to which a way leads are listed. -/
theorem mem_preorder_iff {visit : Visit root} :
    visit ∈ node.preorder prune limit depth ↔ Visit.LeadsTo prune limit ⟨node, depth⟩ visit := by
  induction node using childInduction generalizing depth with
  | step node ih =>
    rw [preorder_eq_next, List.mem_cons, List.mem_flatMap, Visit.LeadsTo,
      Relation.ReflTransGen.cases_head_iff, eq_comm]
    refine or_congr_right (exists_congr fun later => and_congr_right fun step => ?_)
    obtain ⟨-, child, -⟩ := Visit.mem_next_iff.1 step
    exact ih later.node child

/-- No construct is listed twice. -/
theorem nodup_preorder (prune : Node root → Bool) (limit : DepthLimit) (depth : Nat)
    (node : Node root) : ((node.preorder prune limit depth).map Visit.node).Nodup := by
  induction node using childInduction generalizing depth with
  | step node ih =>
    -- What is met below a child continues the path of the child.
    have continues : ∀ below ∈ node.children, ∀ met : Node root,
        met ∈ (below.preorder prune limit (depth + 1)).map Visit.node →
          below.path <:+ met.path := by
      intro below _ met member
      obtain ⟨visit, listed, rfl⟩ := List.mem_map.1 member
      exact (mem_preorder_iff.1 listed).suffix
    rw [preorder_eq, List.map_cons]
    split
    · exact List.nodup_singleton _
    · rw [List.map_flatMap, List.nodup_cons, List.nodup_flatMap]
      refine ⟨?_, fun below member => ih below member (depth + 1), ?_⟩
      · rw [List.mem_flatMap]
        rintro ⟨below, child, member⟩
        obtain ⟨i, rfl⟩ := exists_child_of_mem_children child
        have longer := (continues _ child node member).length_le
        rw [path_child, List.length_cons] at longer
        omega
      · refine node.nodup_children.imp_of_mem fun {first second} child child' apart => ?_
        intro met member member'
        obtain ⟨i, rfl⟩ := exists_child_of_mem_children child
        obtain ⟨j, rfl⟩ := exists_child_of_mem_children child'
        have nested : (node.child i).path <:+ (node.child j).path :=
          List.suffix_of_suffix_length_le (continues _ child met member)
            (continues _ child' met member') (Nat.le_refl _)
        exact apart (eq_of_path_eq (nested.eq_of_length rfl))

/-- A limit that stops only where another one does, lets a walk list everything that it lists under
the other. -/
theorem preorder_sublist {more : DepthLimit}
    (raised : ∀ depth, more.stops depth = true → limit.stops depth = true)
    (prune : Node root → Bool) (depth : Nat) (node : Node root) :
    (node.preorder prune limit depth).Sublist (node.preorder prune more depth) := by
  induction node using childInduction generalizing depth with
  | step node ih =>
    rw [preorder_eq, preorder_eq]
    refine List.Sublist.cons_cons _ ?_
    split
    · exact List.nil_sublist _
    · rename_i free
      have goes : ¬(more.stops depth || (0 < depth && prune node)) = true := by
        intro held
        rw [Bool.or_eq_true] at free held
        exact free (held.imp_left (raised depth))
      rw [if_neg goes]
      exact List.Sublist.flatMap_right _ fun below child => ih below child (depth + 1)

end Node

theorem Visit.drain_eq_flatMap {root : Tree} (prune : Node root → Bool) (limit : DepthLimit)
    (agenda : List (Visit root)) :
    drain prune limit agenda =
      agenda.flatMap fun visit => visit.node.preorder prune limit visit.depth := by
  fun_induction drain prune limit agenda with
  | case1 => rfl
  | case2 visit agenda ih =>
    rw [ih, List.flatMap_append, List.flatMap_cons, Node.preorder_eq_next, List.cons_append]

namespace Node

variable {root : Tree}

/-- A walk lists what the recursion lists. -/
theorem visits_eq_preorder (prune : Node root → Bool) (limit : DepthLimit) (node : Node root) :
    node.visits prune limit = node.preorder prune limit 0 := by
  rw [visits, Visit.drain_eq_flatMap, List.flatMap_singleton]

/-- A walk lists what the recursion on the tree lists, no construct twice, and none that is inside a
pruned construct below the start; under a higher limit it lists the same visits and others. -/
theorem walk_in_preorder (prune : Node root → Bool) (limit : DepthLimit) (start : Node root) :
    start.visits prune limit = start.preorder prune limit 0 ∧
    (start.walk prune limit).Nodup ∧
    (∀ node ∈ start.walk prune limit, ∀ inner ∈ node.ancestors,
      start ∈ inner.ancestors → prune inner = false) ∧
    (∀ levels more : Int, levels ≤ more →
      (start.visits prune (.atMost levels)).Sublist (start.visits prune (.atMost more))) ∧
    ∀ levels : Int,
      (start.visits prune (.atMost levels)).Sublist (start.visits prune .unlimited) := by
  refine ⟨visits_eq_preorder prune limit start, ?_, ?_, ?_, ?_⟩
  · rw [walk, visits_eq_preorder]
    exact nodup_preorder prune limit 0 start
  · intro node met inner above below
    obtain ⟨visit, listed, rfl⟩ := List.mem_map.1 met
    rw [visits_eq_preorder] at listed
    exact (mem_preorder_iff.1 listed).prune_eq_false above below
  · intro levels more raised
    rw [visits_eq_preorder, visits_eq_preorder]
    refine preorder_sublist (fun depth stopped => ?_) prune 0 start
    exact decide_eq_true (Int.le_trans raised (of_decide_eq_true stopped))
  · intro levels
    rw [visits_eq_preorder, visits_eq_preorder]
    refine preorder_sublist (fun depth stopped => ?_) prune 0 start
    cases stopped

end Node

end SnippetTutor
