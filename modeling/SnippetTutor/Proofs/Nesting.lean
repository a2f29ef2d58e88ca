import SnippetTutor.Detector.Subject
import SnippetTutor.Detectors.Hazards.Complexity
import SnippetTutor.Proofs.Success
import SnippetTutor.Proofs.Trails

/-!
# Nested statements

The search for deep nesting goes down the program by itself, counting the levels that are open, and
starts to count depth at the statements of the program, where the walk behind an index starts at the
top. Under one limit it therefore goes one level further down than the index.

* `Nested.map_node_search`: it meets what walks from the statements meet, and
  `Nested.map_node_search_eq_tail` says that these are what a walk from the top meets below the top,
  if its limit allows one more level;
* `Nested.isCounted_of_mem_search`: the level told of a construct counts the constructs on its trail
  that open one;
* `Nested.search_subset_iff`: the search keeps to the index if nothing that it looks for is one
  level below it;
* `nestingConstructs_one_level_deeper` is the outcome for the limit that the tree was indexed with.
-/

namespace SnippetTutor

/-! ### Walks that start one level further down -/

/-- A walk that starts one level further down, and may go one level further, meets the same. -/
theorem Node.map_node_preorder_shift {root : Tree} {limit more : DepthLimit}
    (shift : ∀ depth, more.stops (depth + 1) = limit.stops depth) (depth : Nat)
    (node : Node root) :
    (node.preorder Node.whole more (depth + 1)).map Visit.node =
      (node.preorder Node.whole limit depth).map Visit.node := by
  induction node using Node.childInduction generalizing depth with
  | step node ih =>
    have cut_eq : (more.stops (depth + 1) || (0 < depth + 1 && Node.whole node)) =
        (limit.stops depth || (0 < depth && Node.whole node)) := by
      simp [Node.whole, shift]
    rw [Node.preorder_eq, Node.preorder_eq, cut_eq, List.map_cons, List.map_cons]
    split
    · rfl
    · rw [List.map_flatMap, List.map_flatMap]
      refine congrArg (node :: ·) (List.flatMap_congr fun below child => ?_)
      exact ih below child (depth + 1)

/-- Below the top, a walk that may leave it meets what walks from the statements meet. -/
theorem Index.nodes_build_eq_cons {root : Tree} {limit more : DepthLimit}
    (leaves : more.stops 0 = false)
    (shift : ∀ depth, more.stops (depth + 1) = limit.stops depth) :
    (build root more).nodes =
      Node.top root :: (Node.top root).children.flatMap fun statement =>
        (statement.preorder Node.whole limit 0).map Visit.node := by
  have goes : (more.stops 0 || (0 < 0 && Node.whole (Node.top root))) = false := by
    simp [leaves]
  rw [nodes_build, Node.preorder_eq, goes, List.map_cons, if_neg Bool.false_ne_true,
    List.map_flatMap]
  refine congrArg (Node.top root :: ·) (List.flatMap_congr fun statement _ => ?_)
  exact Node.map_node_preorder_shift shift 0 statement

namespace Detectors.Hazards

variable {root : Tree} {limit : DepthLimit}

namespace Nested

variable {met later : Nested root} {agenda : List (Nested root)}

/-- A construct that is met, without the levels around it. -/
def toVisit (met : Nested root) : Visit root := ⟨met.node, met.depth⟩

theorem map_toVisit_next (met : Nested root) :
    (met.next limit).map toVisit = met.toVisit.next Node.whole limit := by
  cases stopped : limit.stops met.depth with
  | true => simp [next, Visit.next, toVisit, stopped]
  | false => simp [next, Visit.next, toVisit, stopped, Node.whole, Function.comp_def]

/-- What is met are the visits of walks. -/
theorem map_toVisit_drain (agenda : List (Nested root)) :
    (drain limit agenda).map toVisit = Visit.drain Node.whole limit (agenda.map toVisit) := by
  fun_induction drain limit agenda with
  | case1 => rw [List.map_nil, Visit.drain]
  | case2 met agenda ih =>
    rw [List.map_cons, ih, List.map_cons, Visit.drain, List.map_append, map_toVisit_next]

/-- The level of a construct counts the constructs on its trail that open one. -/
def IsCounted (met : Nested root) : Prop := met.level = met.node.trail.countP opensLevel

theorem level_eq (met : Nested root) :
    met.level = met.outer + if opensLevel met.node then 1 else 0 := by
  unfold level
  split <;> rfl

/-- A statement of the program has no other levels around it. -/
theorem isCounted_statement {statement : Node root}
    (listed : statement ∈ (Node.top root).children) : IsCounted ⟨statement, 0, 0⟩ := by
  obtain ⟨i, rfl⟩ := Node.exists_child_of_mem_children listed
  rw [IsCounted, level_eq, Node.trail_child, Node.trail_top, List.countP_singleton, Nat.zero_add]

/-- What is directly inside a construct is counted if the construct is. -/
theorem IsCounted.of_mem_next (counted : met.IsCounted) (member : later ∈ met.next limit) :
    later.IsCounted := by
  unfold next at member
  split at member
  · exact absurd member List.not_mem_nil
  · obtain ⟨below, child, rfl⟩ := List.mem_map.1 member
    obtain ⟨i, rfl⟩ := Node.exists_child_of_mem_children child
    rw [IsCounted, level_eq, Node.trail_child, List.countP_cons, ← counted]

theorem isCounted_of_mem_drain (counted : ∀ entry ∈ agenda, entry.IsCounted)
    (member : met ∈ drain limit agenda) : met.IsCounted := by
  -- The agenda stays counted: a construct is replaced by those directly inside it.
  fun_induction drain limit agenda with
  | case1 => exact absurd member List.not_mem_nil
  | case2 first agenda ih =>
    have first_counted := counted first List.mem_cons_self
    rcases List.mem_cons.1 member with rfl | rest
    · exact first_counted
    · refine ih (fun entry listed => ?_) rest
      rcases List.mem_append.1 listed with new | old
      · exact first_counted.of_mem_next new
      · exact counted entry (List.mem_cons_of_mem _ old)

/-- Everything that is met from the statements of the program on. -/
def search (root : Tree) (limit : DepthLimit) : List (Nested root) :=
  drain limit ((Node.top root).children.map fun statement => ⟨statement, 0, 0⟩)

theorem isCounted_of_mem_search (member : met ∈ search root limit) : met.IsCounted := by
  refine isCounted_of_mem_drain (fun entry listed => ?_) member
  obtain ⟨statement, child, rfl⟩ := List.mem_map.1 listed
  exact isCounted_statement child

/-- What is met are the constructs of walks from the statements. -/
theorem map_node_search (root : Tree) (limit : DepthLimit) :
    (search root limit).map node =
      (Node.top root).children.flatMap fun statement =>
        (statement.preorder Node.whole limit 0).map Visit.node := by
  have forget : (node : Nested root → Node root) = Visit.node ∘ toVisit := rfl
  rw [search, forget, ← List.map_map, map_toVisit_drain, Visit.drain_eq_flatMap, List.map_map,
    List.flatMap_map, List.map_flatMap]
  rfl

end Nested

/-- Without statements there is nothing to search, whatever the limit is. -/
theorem nestingConstructs_eq {context : Context root}
    (limited : context.treeDepth.depthLimit = .ok limit) :
    nestingConstructs context =
      .ok ((Nested.search root limit).filter fun met => opensLevel met.node) := by
  unfold nestingConstructs Nested.search
  split
  · rename_i none
    rw [Context.statements, Context.top] at none
    rw [none, List.map_nil, Nested.drain, List.filter_nil]
  · rw [limited]
    rfl

/-! ### The limit of the index -/

/-- A limit in numbers and one that allows one more level. -/
theorem stops_succ (levels : Int) (depth : Nat) :
    (DepthLimit.atMost (levels.toNat + 1)).stops (depth + 1) =
      (DepthLimit.atMost levels).stops depth := by
  have same : ((levels.toNat + 1 : Int) ≤ (depth + 1 : Nat)) ↔ levels ≤ depth := by omega
  exact decide_eq_decide.2 same

namespace Nested

variable {levels : Int} {met : Nested root} {node : Node root}

/-- The search meets what an index with one more level holds below the top. -/
theorem map_node_search_eq_tail (root : Tree) (levels : Int) :
    (search root (.atMost levels)).map Nested.node =
      (Index.build root (.atMost (levels.toNat + 1))).nodes.tail := by
  have leaves : (DepthLimit.atMost (levels.toNat + 1)).stops 0 = false :=
    DepthLimit.stops_atMost_eq_false_iff.2 (by omega)
  rw [map_node_search, Index.nodes_build_eq_cons leaves (stops_succ levels), List.tail_cons]

/-- The search meets everything in the open below the top, down to one level below the limit. -/
theorem exists_mem_search_iff :
    (∃ met ∈ search root (.atMost levels), met.node = node) ↔
      node.IsOpen ∧ node.depth ≠ 0 ∧ node.depth ≤ levels.toNat + 1 := by
  rw [← List.mem_map, map_node_search_eq_tail, Index.mem_tail_nodes_iff,
    Index.mem_nodes_atMost_iff, Int.toNat_natCast_add_one, and_assoc,
    and_comm (b := node.depth ≠ 0)]

/-- Of what the search meets, the index holds what is not below the limit. -/
theorem mem_nodes_iff_of_mem_search (member : met ∈ search root (.atMost levels)) :
    met.node ∈ (Index.build root (.atMost levels)).nodes ↔ met.node.depth ≤ levels.toNat :=
  Index.mem_nodes_atMost_iff.trans
    (and_iff_right (exists_mem_search_iff.1 ⟨met, member, rfl⟩).1)

/-- A construct that is met is below a statement of the program or is one. -/
theorem exists_statement_of_mem_search (member : met ∈ search root (.atMost levels)) :
    ∃ statement ∈ (Node.top root).children, met.node.trail.getLast? = some statement := by
  obtain ⟨inOpen, lower, -⟩ := exists_mem_search_iff.1 ⟨met, member, rfl⟩
  exact Node.exists_statement_of_isOpen inOpen lower

/-- The search keeps to the index if nothing of the kind that is searched for is one level below
it. -/
theorem search_subset_iff (test : Node root → Bool) :
    (∀ met ∈ search root (.atMost levels), test met.node = true →
      met.node ∈ (Index.build root (.atMost levels)).nodes) ↔
      ∀ node : Node root, node.IsOpen → test node = true → node.depth ≠ levels.toNat + 1 := by
  constructor
  · intro inside node inOpen passed deep
    obtain ⟨met, member, rfl⟩ := exists_mem_search_iff.2 ⟨inOpen, by omega, Nat.le_of_eq deep⟩
    have shallow := (mem_nodes_iff_of_mem_search member).1 (inside met member passed)
    omega
  · intro none met member passed
    obtain ⟨inOpen, -, deepest⟩ := exists_mem_search_iff.1 ⟨met, member, rfl⟩
    have apart := none met.node inOpen passed
    exact (mem_nodes_iff_of_mem_search member).2 (by omega)

end Nested

/-- Under the limit that the tree was indexed with, the search for nested statements meets what an
index with one more level holds below the top, and tells the number of constructs on the trail that
open a level. So it keeps to the index exactly if no construct that opens a level stands one level
below it. -/
theorem nestingConstructs_one_level_deeper (root : Tree) (scan : Bound) (levels : Int) :
    let context : Context root :=
      (Subject.ofParsed ⟨scan, .int levels⟩ ⟨root, Index.build root (.atMost levels)⟩).context
    ∃ found, nestingConstructs context = .ok found ∧
      found.map Nested.node =
        (Index.build root (.atMost (levels.toNat + 1))).nodes.tail.filter opensLevel ∧
      (∀ met ∈ found, met.level = met.node.trail.countP opensLevel ∧
        (∃ statement ∈ context.statements, met.node.trail.getLast? = some statement) ∧
        (met.node ∈ context.index.nodes ↔ met.node.depth ≤ levels.toNat)) ∧
      ((∀ met ∈ found, met.node ∈ context.index.nodes) ↔
        ∀ node : Node root, node.IsOpen → opensLevel node = true →
          node.depth ≠ levels.toNat + 1) := by
  intro context
  have limited : context.treeDepth.depthLimit = .ok (.atMost levels) := rfl
  refine ⟨_, nestingConstructs_eq limited, ?_, ?_, ?_⟩
  · rw [← Nested.map_node_search_eq_tail, List.filter_map]
    rfl
  · intro met listed
    have member := (List.mem_filter.1 listed).1
    exact ⟨Nested.isCounted_of_mem_search member, Nested.exists_statement_of_mem_search member,
      Nested.mem_nodes_iff_of_mem_search member⟩
  · rw [← Nested.search_subset_iff]
    simp only [List.mem_filter, and_imp]
    rfl

/-- In `if (a) { if (b) { if (c) x(); } }`, indexed with four levels, the innermost condition is the
fifth level that is told of, and stands one level below the index. -/
theorem nesting_beyond_index :
    let root : Tree := .node { name := "program" }
      [.node { name := "if_statement" }
        [.node { name := "statement_block", role := some .consequence }
          [.node { name := "if_statement" }
            [.node { name := "statement_block", role := some .consequence }
              [.node { name := "if_statement" }
                [.node { name := "expression_statement", role := some .consequence } []]]]]]]
    let context : Context root :=
      (Subject.ofParsed ⟨.int 20, .int 4⟩ ⟨root, Index.build root (.atMost 4)⟩).context
    ∃ found, nestingConstructs context = .ok found ∧
      ∃ met ∈ found, met.node ∉ context.index.nodes ∧ met.node.depth = 5 ∧ met.level = 5 := by
  intro root context
  have computed : (nestingConstructs context).toOption.any (fun found => found.any fun met =>
      met.node ∉ context.index.nodes ∧ met.node.depth = 5 ∧ met.level = 5) = true := by
    decide +kernel
  obtain ⟨found, ended, passed⟩ := exists_ok_of_any computed
  obtain ⟨met, member, facts⟩ := List.any_eq_true.1 passed
  exact ⟨found, ended, met, member, of_decide_eq_true facts⟩

end Detectors.Hazards

end SnippetTutor
