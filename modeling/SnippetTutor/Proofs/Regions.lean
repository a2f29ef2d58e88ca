import SnippetTutor.Proofs.Trails

/-!
# Regions of a tree

A walk keeps to a region of the tree: what is at and below its start, without the inside of the
constructs that it prunes. Whether a place is in the region can be read off the places above it.

* `Node.lineage`: a place and the places above it. Of two places in one lineage one is above the
  other (`Node.eq_or_above_of_mem_lineage`);
* `Node.mem_descendants_iff`: what is below a start has it in its lineage, and only constructs
  between;
* `Node.mem_walk_iff`: a walk leaves out the inside of what it prunes below its start, and nothing
  else;
* `Node.StandsInside`: a place is inside a construct of some kind that is at or below a start. A
  walk that prunes such constructs meets all other places (`Node.mem_walk_isOneOf_iff`).
-/

namespace SnippetTutor

namespace Node

variable {root : Tree} {node parent start inner first second : Node root}

/-! ### Lineages -/

/-- A place and the places above it. -/
def lineage (node : Node root) : List (Node root) := node :: node.ancestors

theorem mem_lineage_iff : inner ∈ node.lineage ↔ inner = node ∨ inner ∈ node.ancestors :=
  List.mem_cons

theorem lineage_child (parent : Node root) (i : Fin parent.tree.subtrees.length) :
    (parent.child i).lineage = parent.child i :: parent.lineage := by
  rw [lineage, ancestors_child, lineage]

/-- Right above what is directly below a place is that place. -/
theorem ancestors_of_mem_offspring (below : inner ∈ node.offspring) :
    inner.ancestors = node.lineage := by
  obtain ⟨i, rfl⟩ := List.mem_ofFn.1 below
  exact ancestors_child node i

/-- A place is directly below one place at most. -/
theorem eq_of_mem_offspring (below : inner ∈ first.offspring) (below' : inner ∈ second.offspring) :
    first = second :=
  (List.cons.inj
    ((ancestors_of_mem_offspring below).symm.trans (ancestors_of_mem_offspring below'))).1

theorem not_mem_ancestors_self (node : Node root) : node ∉ node.ancestors :=
  fun above => absurd (above_lt_of_mem_ancestors above) (Nat.lt_irrefl _)

theorem not_mem_ancestors_of_mem (above : inner ∈ node.ancestors) : node ∉ inner.ancestors :=
  fun below =>
    Nat.lt_asymm (above_lt_of_mem_ancestors above) (above_lt_of_mem_ancestors below)

/-- What is above a place in a lineage is above the place whose lineage it is. -/
theorem mem_ancestors_of_mem_lineage (above : start ∈ inner.ancestors)
    (member : inner ∈ node.lineage) : start ∈ node.ancestors := by
  induction node using downInduction with
  | top =>
    rw [lineage, ancestors_top, List.mem_singleton] at member
    rwa [member] at above
  | child parent i ih =>
    rw [lineage_child, List.mem_cons] at member
    rw [ancestors_child]
    rcases member with rfl | higher
    · rwa [ancestors_child] at above
    · exact List.mem_cons_of_mem _ (ih higher)

/-- Of two places in one lineage one is above the other, unless they are the same. -/
theorem eq_or_above_of_mem_lineage (one : first ∈ node.lineage) (two : second ∈ node.lineage) :
    first = second ∨ first ∈ second.ancestors ∨ second ∈ first.ancestors := by
  induction node using downInduction with
  | top =>
    rw [lineage, ancestors_top, List.mem_singleton] at one two
    exact .inl (one.trans two.symm)
  | child parent i ih =>
    rw [lineage_child, List.mem_cons] at one two
    have higher : (parent.child i).ancestors = parent.lineage := ancestors_child parent i
    rcases one with rfl | one
    · rcases two with rfl | two
      · exact .inl rfl
      · exact .inr (.inr (higher ▸ two))
    · rcases two with rfl | two
      · exact .inr (.inl (higher ▸ one))
      · exact ih one two

/-- Of the places directly below one place, a lineage holds one at most. -/
theorem eq_of_mem_offspring_of_mem_lineage (below : first ∈ parent.offspring)
    (below' : second ∈ parent.offspring) (one : first ∈ node.lineage)
    (two : second ∈ node.lineage) : first = second := by
  have apart : ∀ {low high : Node root}, low ∈ parent.offspring → high ∈ parent.offspring →
      high ∉ low.ancestors := by
    intro low high lowBelow highBelow above
    have standsAbove : parent ∈ high.ancestors := by
      rw [ancestors_of_mem_offspring highBelow]
      exact List.mem_cons_self
    rw [ancestors_of_mem_offspring lowBelow] at above
    rcases mem_lineage_iff.1 above with rfl | higher
    · exact not_mem_ancestors_self _ standsAbove
    · exact not_mem_ancestors_of_mem higher standsAbove
  -- In a lineage they could differ only with one of them above the other.
  rcases eq_or_above_of_mem_lineage one two with same | above | above
  · exact same
  · exact absurd above (apart below' below)
  · exact absurd above (apart below below')

/-- Below a start, a place in a lineage is at or below the one that comes next in it. -/
theorem eq_or_below_of_mem_lineage (next : second.ancestors = first.lineage)
    (through : second ∈ node.lineage) (member : inner ∈ node.lineage)
    (below : first ∈ inner.ancestors) : inner = second ∨ second ∈ inner.ancestors := by
  rcases eq_or_above_of_mem_lineage member through with same | above | above
  · exact .inl same
  · rw [next] at above
    rcases mem_lineage_iff.1 above with rfl | higher
    · exact absurd below (not_mem_ancestors_self _)
    · exact absurd below (not_mem_ancestors_of_mem higher)
  · exact .inr above

end Node

/-! ### Ways down -/

namespace Visit.LeadsTo

variable {root : Tree} {prune : Node root → Bool} {limit : DepthLimit}
  {first visit : Visit root} {start : Node root}

/-- A way down leads to places below its first one. -/
theorem mem_lineage (leads : LeadsTo prune limit first visit) :
    first.node ∈ visit.node.lineage := by
  induction leads with
  | refl => exact List.mem_cons_self
  | tail _ step ih =>
    obtain ⟨-, child, -⟩ := mem_next_iff.1 step
    obtain ⟨i, made⟩ := Node.exists_child_of_mem_children child
    rw [made, Node.lineage_child]
    exact List.mem_cons_of_mem _ ih

/-- A way that prunes can also be gone without pruning. -/
theorem whole (leads : LeadsTo prune limit first visit) : LeadsTo Node.whole limit first visit := by
  refine Relation.ReflTransGen.mono (fun visit later step => ?_) _ _ leads
  obtain ⟨⟨goes, -⟩, child, deeper⟩ := mem_next_iff.1 step
  exact mem_next_iff.2 ⟨⟨goes, .inr rfl⟩, child, deeper⟩

/-- A way under a limit can also be gone without one. -/
theorem unlimited (leads : LeadsTo prune limit first visit) :
    LeadsTo prune .unlimited first visit := by
  refine Relation.ReflTransGen.mono (fun visit later step => ?_) _ _ leads
  obtain ⟨⟨-, free⟩, child, deeper⟩ := mem_next_iff.1 step
  exact mem_next_iff.2 ⟨⟨rfl, free⟩, child, deeper⟩

/-- A way is open to a walk that prunes if nothing is pruned between the start and its end. -/
theorem of_whole (leads : LeadsTo Node.whole limit ⟨start, 0⟩ visit)
    (free : ∀ inner ∈ visit.node.ancestors, start ∈ inner.ancestors → prune inner = false) :
    LeadsTo prune limit ⟨start, 0⟩ visit := by
  induction leads with
  | refl => exact .refl
  | @tail visit later leads step ih =>
    obtain ⟨⟨goes, -⟩, child, deeper⟩ := mem_next_iff.1 step
    obtain ⟨i, made⟩ := Node.exists_child_of_mem_children child
    rw [made, Node.ancestors_child, List.forall_mem_cons] at free
    refine (ih free.2).tail (mem_next_iff.2 ⟨⟨goes, ?_⟩, child, deeper⟩)
    have way : LeadsTo Node.whole limit ⟨start, 0⟩ visit := leads
    rcases Node.mem_lineage_iff.1 way.mem_lineage with same | above
    · -- The start is met at depth zero only, and is never held back there.
      have deep : visit.node.depth + 0 = start.depth + visit.depth := way.depth_eq
      have same : start = visit.node := same
      rw [← same] at deep
      exact .inl (by omega)
    · exact .inr (free.1 above)

end Visit.LeadsTo

namespace Node

variable {root : Tree} {node parent start inner : Node root} {prune : Node root → Bool}
  {limit : DepthLimit}

/-! ### What a walk meets -/

theorem mem_walk_iff_leadsTo :
    node ∈ start.walk prune limit ↔
      ∃ depth, Visit.LeadsTo prune limit ⟨start, 0⟩ ⟨node, depth⟩ := by
  rw [walk, visits_eq_preorder, List.mem_map]
  constructor
  · rintro ⟨⟨node, depth⟩, listed, rfl⟩
    exact ⟨depth, mem_preorder_iff.1 listed⟩
  · rintro ⟨depth, leads⟩
    exact ⟨_, mem_preorder_iff.2 leads, rfl⟩

theorem start_mem_walk (start : Node root) : start ∈ start.walk prune limit :=
  mem_walk_iff_leadsTo.2 ⟨0, .refl⟩

theorem nodup_walk (start : Node root) : (start.walk prune limit).Nodup := by
  rw [walk, visits_eq_preorder]
  exact nodup_preorder prune limit 0 start

/-- A walk adds nothing to what is below its start. -/
theorem mem_descendants_of_mem_walk (met : node ∈ start.walk prune limit) :
    node ∈ start.descendants := by
  obtain ⟨depth, leads⟩ := mem_walk_iff_leadsTo.1 met
  exact mem_walk_iff_leadsTo.2 ⟨depth, leads.whole.unlimited⟩

/-- A walk leaves out the inside of what it prunes below its start, and nothing else. -/
theorem mem_walk_iff :
    node ∈ start.walk prune limit ↔
      node ∈ start.walk whole limit ∧
        ∀ inner ∈ node.ancestors, start ∈ inner.ancestors → prune inner = false := by
  rw [mem_walk_iff_leadsTo, mem_walk_iff_leadsTo]
  constructor
  · rintro ⟨depth, leads⟩
    exact ⟨⟨depth, leads.whole⟩, fun inner => leads.prune_eq_false⟩
  · rintro ⟨⟨depth, leads⟩, free⟩
    exact ⟨depth, leads.of_whole free⟩

theorem child_mem_descendants_iff {i : Fin parent.tree.subtrees.length} :
    parent.child i ∈ start.descendants ↔
      parent.child i = start ∨
        parent ∈ start.descendants ∧ (parent.child i).isConstruct = true := by
  constructor
  · intro met
    obtain ⟨depth, leads⟩ := mem_walk_iff_leadsTo.1 met
    rcases Relation.ReflTransGen.cases_tail leads with same | ⟨⟨above, depth'⟩, leads', step⟩
    · exact .inl (congrArg Visit.node same)
    · obtain ⟨-, child, -⟩ := Visit.mem_next_iff.1 step
      obtain rfl : above = parent := eq_of_child_mem_children child
      exact .inr ⟨mem_walk_iff_leadsTo.2 ⟨depth', leads'⟩, child_mem_children_iff.1 child⟩
  · rintro (rfl | ⟨met, construct⟩)
    · exact start_mem_walk _
    · obtain ⟨depth, leads⟩ := mem_walk_iff_leadsTo.1 met
      have step : (⟨parent.child i, depth + 1⟩ : Visit root) ∈
          Visit.next whole .unlimited ⟨parent, depth⟩ :=
        Visit.mem_next_iff.2 ⟨⟨rfl, .inr rfl⟩, child_mem_children_iff.2 construct, rfl⟩
      exact mem_walk_iff_leadsTo.2 ⟨depth + 1, leads.tail step⟩

theorem top_mem_descendants_iff : top root ∈ start.descendants ↔ start = top root := by
  constructor
  · intro met
    obtain ⟨depth, leads⟩ := mem_walk_iff_leadsTo.1 met
    exact eq_of_path_eq (List.suffix_nil.1 leads.suffix)
  · rintro rfl
    exact start_mem_walk _

/-- What is below a place that is below a start is below the start as well. -/
theorem mem_descendants_trans (met : node ∈ inner.descendants)
    (below : inner ∈ start.descendants) : node ∈ start.descendants := by
  induction node using downInduction with
  | top =>
    rw [top_mem_descendants_iff] at met
    rwa [met] at below
  | child parent i ih =>
    rcases child_mem_descendants_iff.1 met with rfl | ⟨above, construct⟩
    · exact below
    · exact child_mem_descendants_iff.2 (.inr ⟨ih above, construct⟩)

/-- What is below a start has it in its lineage, and only constructs between. -/
theorem mem_descendants_iff :
    node ∈ start.descendants ↔
      start ∈ node.lineage ∧
        ∀ inner ∈ node.lineage, start ∈ inner.ancestors → inner.isConstruct = true := by
  induction node using downInduction with
  | top =>
    rw [top_mem_descendants_iff, lineage, ancestors_top, List.forall_mem_singleton,
      List.mem_singleton, ancestors_top]
    exact (and_iff_left fun above => absurd above List.not_mem_nil).symm
  | child parent i ih =>
    rw [child_mem_descendants_iff, ih, lineage_child, List.mem_cons, List.forall_mem_cons]
    have higher : (parent.child i).ancestors = parent.lineage := ancestors_child parent i
    by_cases same : parent.child i = start
    · subst same
      refine iff_of_true (.inl rfl) ⟨.inl rfl, fun above => ?_, fun inner member below => ?_⟩
      · exact absurd above (not_mem_ancestors_self _)
      · exact absurd below (not_mem_ancestors_of_mem (higher ▸ member))
    · rw [higher]
      simp only [same, Ne.symm same, false_or]
      tauto

/-- What stands between a start and a place below it is below the start as well. -/
theorem mem_descendants_of_between (met : node ∈ start.descendants) (above : inner ∈ node.ancestors)
    (below : start ∈ inner.ancestors) : inner ∈ start.descendants := by
  obtain ⟨-, constructs⟩ := mem_descendants_iff.1 met
  refine mem_descendants_iff.2 ⟨List.mem_cons_of_mem _ below, fun other member below' => ?_⟩
  refine constructs other (List.mem_cons_of_mem _ ?_) below'
  rcases mem_lineage_iff.1 member with rfl | higher
  · exact above
  · exact mem_ancestors_of_mem_lineage higher (List.mem_cons_of_mem _ above)

/-! ### Insides -/

/-- A place is inside a construct of one of the given kinds that is at or below a start. -/
def StandsInside (kinds : List Kind) (start node : Node root) : Prop :=
  ∃ around ∈ node.ancestors, around ∈ start.descendants ∧ around.isOneOf kinds = true

instance (kinds : List Kind) (start node : Node root) : Decidable (StandsInside kinds start node) :=
  inferInstanceAs (Decidable (∃ around ∈ node.ancestors, _))

theorem standsInside_append {kinds others : List Kind} :
    StandsInside (kinds ++ others) start node ↔
      StandsInside kinds start node ∨ StandsInside others start node := by
  simp only [StandsInside, isOneOf, List.contains_eq_mem, List.mem_append, decide_eq_true_eq,
    and_or_left, exists_or]

/-- A walk that prunes some kinds, from a start that is of none of them, meets what stands inside
none of them. -/
theorem mem_walk_isOneOf_iff {kinds : List Kind} (other : start.isOneOf kinds = false) :
    node ∈ start.walk (fun inner => inner.isOneOf kinds) limit ↔
      node ∈ start.walk whole limit ∧ ¬StandsInside kinds start node := by
  rw [mem_walk_iff]
  refine and_congr_right fun met => ⟨?_, fun outside inner above below => ?_⟩
  · rintro free ⟨around, above, within, kind⟩
    rcases mem_lineage_iff.1 (mem_descendants_iff.1 within).1 with rfl | below
    · exact Bool.false_ne_true (other.symm.trans kind)
    · exact Bool.false_ne_true ((free around above below).symm.trans kind)
  · rw [← Bool.not_eq_true]
    intro kind
    have within := mem_descendants_of_between (mem_descendants_of_mem_walk met) above below
    exact outside ⟨inner, above, within, kind⟩

end Node

end SnippetTutor
