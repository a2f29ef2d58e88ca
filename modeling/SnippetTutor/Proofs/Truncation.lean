import SnippetTutor.Proofs.Reach
import SnippetTutor.Proofs.Trails

/-!
# Trees that are cut

An index says whether its limit cut the tree. It looks for anything named directly below the places
where the walk was stopped, comments included, although a walk would have passed over comments
anyway.

* `Index.exists_cut_of_not_mem`: above everything in the open that the index leaves out there is a
  construct with children at which the walk was stopped;
* `Index.truncated_build_iff`: so a tree is called cut if something in the open is left out, or if a
  comment stands directly below a place where the walk was stopped (`Index.CutsComment`);
* `Reading.truncation_mem_diagnostics_iff`: a reading complains about a tree if its index says so;
* `Index.truncated_right_iff` puts this together: the index is right unless only comments were cut.
-/

namespace SnippetTutor

namespace Index

variable {root : Tree} {limit : DepthLimit} {node : Node root}

/-- The places where the walk behind an index was stopped. -/
def StopsAt (limit : DepthLimit) (node : Node root) : Prop :=
  node ∈ (build root limit).nodes ∧ limit.stops node.depth = true

/-- Something that walks look at is not in the index. -/
def LeavesOut (root : Tree) (limit : DepthLimit) : Prop :=
  ∃ node : Node root, node.isConstruct = true ∧ node ∉ (build root limit).nodes

/-- A comment stands directly below a place where the walk was stopped. -/
def CutsComment (root : Tree) (limit : DepthLimit) : Prop :=
  ∃ node : Node root, StopsAt limit node ∧
    ∃ comment ∈ node.namedOffspring, comment.name = "comment"

/-- Something that walks look at stands inside a comment or a token, where no walk comes. -/
def Hides (root : Tree) : Prop := ∃ node : Node root, node.isConstruct = true ∧ ¬node.IsOpen

/-- A tree is called cut if anything named is directly below a place where the walk was stopped. -/
theorem truncated_build_iff_exists :
    (build root limit).truncated = true ↔
      ∃ node : Node root, StopsAt limit node ∧ ∃ below, below ∈ node.namedOffspring := by
  have cut_iff : ∀ visit : Visit root,
      (limit.stops visit.depth && !visit.node.namedOffspring.isEmpty) = true ↔
        limit.stops visit.depth = true ∧ ∃ below, below ∈ visit.node.namedOffspring := by
    intro visit
    rw [Bool.and_eq_true, Bool.not_eq_true', List.isEmpty_eq_false_iff_exists_mem]
  simp only [build, List.any_eq_true, cut_iff]
  constructor
  · rintro ⟨visit, listed, stopped, some⟩
    obtain ⟨deep, member⟩ := mem_visits_top_iff.1 listed
    rw [deep] at stopped
    exact ⟨visit.node, ⟨member, stopped⟩, some⟩
  · rintro ⟨node, ⟨member, stopped⟩, some⟩
    exact ⟨⟨node, node.depth⟩, mem_visits_top_iff.2 ⟨rfl, member⟩, stopped, some⟩

/-- Above everything in the open that is left out there is a place with children at which the walk
was stopped. -/
theorem exists_cut_of_not_mem (inOpen : node.IsOpen) (absent : node ∉ (build root limit).nodes) :
    ∃ cut : Node root, StopsAt limit cut ∧ ∃ below, below ∈ cut.children := by
  induction node using Node.downInduction with
  | top => exact absurd (top_mem_nodes root limit) absent
  | child parent i ih =>
    obtain ⟨construct, above⟩ := Node.isOpen_child_iff.1 inOpen
    by_cases member : parent ∈ (build root limit).nodes
    · -- The walk came to the parent and went no further.
      have stopped : limit.stops parent.depth = true := by
        by_contra goes
        exact absent (child_mem_nodes_iff.2 ⟨member, Bool.eq_false_iff.2 goes, construct⟩)
      exact ⟨parent, ⟨member, stopped⟩, _, Node.child_mem_children_iff.2 construct⟩
    · exact ih above member

/-- What is directly below a place where the walk was stopped is in the open and left out, unless it
is a comment. -/
theorem left_out_of_stopsAt (stopped : StopsAt limit node) {below : Node root}
    (named : below ∈ node.namedOffspring) (code : below.name ≠ "comment") :
    below.IsOpen ∧ below ∉ (build root limit).nodes := by
  obtain ⟨offspring, named⟩ := List.mem_filter.1 named
  obtain ⟨i, rfl⟩ := List.mem_ofFn.1 offspring
  have construct : (node.child i).isConstruct = true := by
    rw [Node.isConstruct, named, bne_iff_ne.2 code]
    rfl
  refine ⟨Node.isOpen_child_iff.2 ⟨construct, (mem_nodes_build_iff.1 stopped.1).1⟩, ?_⟩
  intro member
  have goes := (child_mem_nodes_iff.1 member).2.1
  rw [stopped.2] at goes
  cases goes

/-- A tree is called cut if something in the open is left out, or a comment was cut. -/
theorem truncated_build_iff :
    (build root limit).truncated = true ↔
      (∃ node : Node root, node.IsOpen ∧ node ∉ (build root limit).nodes) ∨
        CutsComment root limit := by
  rw [truncated_build_iff_exists]
  constructor
  · rintro ⟨node, stopped, below, named⟩
    by_cases comment : below.name = "comment"
    · exact .inr ⟨node, stopped, below, named, comment⟩
    · exact .inl ⟨below, left_out_of_stopsAt stopped named comment⟩
  · rintro (⟨node, inOpen, absent⟩ | ⟨node, stopped, comment, named, -⟩)
    · obtain ⟨cut, stopped, below, child⟩ := exists_cut_of_not_mem inOpen absent
      obtain ⟨offspring, construct⟩ := List.mem_filter.1 child
      have named : below.named = true := (Bool.and_eq_true_iff.1 construct).1
      exact ⟨cut, stopped, below, List.mem_filter.2 ⟨offspring, named⟩⟩
    · exact ⟨node, stopped, comment, named⟩

theorem isConstruct_of_not_mem (inOpen : node.IsOpen)
    (absent : node ∉ (build root limit).nodes) : node.isConstruct = true := by
  induction node using Node.downInduction with
  | top => exact absurd (top_mem_nodes root limit) absent
  | child parent i => exact (Node.isOpen_child_iff.1 inOpen).1

/-- What is left out is in the open, or hidden under any limit. -/
theorem leavesOut_iff :
    LeavesOut root limit ↔
      (∃ node : Node root, node.IsOpen ∧ node ∉ (build root limit).nodes) ∨ Hides root := by
  constructor
  · rintro ⟨node, construct, absent⟩
    by_cases inOpen : node.IsOpen
    · exact .inl ⟨node, inOpen, absent⟩
    · exact .inr ⟨node, construct, inOpen⟩
  · rintro (⟨node, inOpen, absent⟩ | ⟨node, construct, hidden⟩)
    · exact ⟨node, isConstruct_of_not_mem inOpen absent, absent⟩
    · exact ⟨node, construct, fun member => hidden (mem_nodes_build_iff.1 member).1⟩

/-- Nothing is hidden in a tree whose comments and tokens have nothing below them. -/
theorem not_hides_of_bare
    (bare : ∀ part ∈ root.parts, (part.label.named && part.label.name != "comment") = false →
      part.subtrees = []) : ¬Hides root := by
  rintro ⟨node, construct, hidden⟩
  refine hidden ?_
  clear hidden
  induction node using Node.downInduction with
  | top => exact Node.isOpen_top
  | child parent i ih =>
    have below : parent.tree.subtrees ≠ [] := List.ne_nil_of_length_pos (Fin.pos i)
    have above : parent.isConstruct = true := by
      by_contra other
      exact below (bare _ parent.tree_mem_parts (Bool.eq_false_iff.2 other))
    exact Node.isOpen_child_iff.2 ⟨construct, ih above⟩

end Index

/-! ### Complaints -/

namespace Reading

variable {limits : ReadingLimits} {parses : Parses} {hint : Option Dialect} {source : Source}
  {reading : Reading}

/-- A reading of a tree holds this tree. -/
theorem parsed_of_ofParsed {dialect : Dialect} {depth : Bound} {parsed held : Parsed}
    (ended : ofParsed dialect depth parsed = .ok reading) (found : reading.parsed = some held) :
    held = parsed := by
  rcases cases_of_ofParsed ended with ⟨-, rfl⟩ | ⟨-, rfl⟩
  · cases found
  · exact (Option.some.inj found).symm

/-- The index of a reading was built under its limit on depth. -/
theorem exists_limit_of_read (ended : read limits parses hint source = .ok reading)
    {parsed : Parsed} (found : reading.parsed = some parsed) :
    ∃ limit, limits.treeDepth.depthLimit = .ok limit ∧
      parsed.index = Index.build parsed.root limit := by
  rcases cases_of_read ended with ⟨dialect, message, -, rfl⟩ | ⟨dialect, held, parse, made⟩
  · cases found
  · obtain rfl := parsed_of_ofParsed made found
    obtain ⟨grammar, read⟩ := exists_parseWith_of_parse parse
    unfold parseWith at read
    split at read
    · cases read
    · split at read
      · cases read
      · rename_i limit limited
        cases read
        exact ⟨limit, limited, rfl⟩

theorem truncation_mem_failure_iff {dialect : Dialect} {message limit : String}
    {others : List Diagnostic} (apart : message.toList.head? ≠ some 'T')
    (rest : .truncation limit ∉ others) :
    .truncation limit ∈ (failure dialect message others).diagnostics ↔
      ∃ parsed, (failure dialect message others).parsed = some parsed ∧
        parsed.index.truncated = true :=
  iff_of_false (truncation_notMem_failure apart rest) fun ⟨_, absent, _⟩ => nomatch absent

theorem truncation_mem_ofParsed_iff {dialect : Dialect} {depth : Bound} {parsed : Parsed}
    (ended : ofParsed dialect depth parsed = .ok reading) :
    .truncation depth.shown ∈ reading.diagnostics ↔
      ∃ held, reading.parsed = some held ∧ held.index.truncated = true := by
  -- Syntax errors have a line, and this complaint has none.
  have others : Diagnostic.truncation depth.shown ∉
      Diagnostic.syntaxErrors Diagnostic.maxSyntaxErrors parsed.root := by
    intro member
    exact absurd (Diagnostic.line_pos_of_mem_syntaxErrors member) (Int.lt_irrefl 0)
  rcases cases_of_ofParsed ended with ⟨-, rfl⟩ | ⟨-, rfl⟩
  · exact truncation_mem_failure_iff (by simp) others
  · refine (List.mem_append.trans (or_iff_right others)).trans ?_
    unfold cutNotice
    split
    · rename_i cut
      exact iff_of_true (List.mem_singleton_self _) ⟨parsed, rfl, cut⟩
    · rename_i whole
      refine iff_of_false List.not_mem_nil ?_
      rintro ⟨held, same, cut⟩
      cases same
      exact whole cut

/-- A reading complains about a tree that is cut if the index of its tree says so. -/
theorem truncation_mem_diagnostics_iff (ended : read limits parses hint source = .ok reading) :
    .truncation limits.treeDepth.shown ∈ reading.diagnostics ↔
      ∃ parsed, reading.parsed = some parsed ∧ parsed.index.truncated = true := by
  rcases cases_of_read ended with ⟨dialect, message, apart, rfl⟩ | ⟨dialect, parsed, -, made⟩
  · exact truncation_mem_failure_iff apart List.not_mem_nil
  · exact truncation_mem_ofParsed_iff made

end Reading

/-- A tree is called cut if something in the open is left out or a comment was cut. So it is rightly
called cut or whole unless a comment was cut and nothing is left out, or something is hidden in a
comment or a token of a tree that is not called cut. A reading complains about its tree exactly if
the tree is called cut under the limit of the reading. -/
theorem Index.truncated_right_iff (root : Tree) (limit : DepthLimit) :
    ((build root limit).truncated = true ↔
      (∃ node : Node root, node.IsOpen ∧ node ∉ (build root limit).nodes) ∨
        CutsComment root limit) ∧
    (((build root limit).truncated = true ↔ LeavesOut root limit) ↔
      (CutsComment root limit → LeavesOut root limit) ∧
        (Hides root → (build root limit).truncated = true)) ∧
    ∀ (limits : ReadingLimits) (parses : Parses) (hint : Option Dialect) (source : Source)
      (reading : Reading), Reading.read limits parses hint source = .ok reading →
      (.truncation limits.treeDepth.shown ∈ reading.diagnostics ↔
        ∃ parsed, reading.parsed = some parsed ∧ parsed.index.truncated = true) ∧
      ∀ parsed, reading.parsed = some parsed →
        ∃ limit, limits.treeDepth.depthLimit = .ok limit ∧
          parsed.index = build parsed.root limit := by
  refine ⟨truncated_build_iff, ?_, ?_⟩
  · rw [truncated_build_iff, leavesOut_iff]
    constructor
    · intro right
      exact ⟨fun comment => right.1 (.inr comment), fun hidden => right.2 (.inr hidden)⟩
    · rintro ⟨comment, hidden⟩
      exact ⟨fun cut => cut.elim .inl comment, fun out => out.elim .inl hidden⟩
  · intro limits parses hint source reading ended
    exact ⟨Reading.truncation_mem_diagnostics_iff ended,
      fun parsed found => Reading.exists_limit_of_read ended found⟩

/-- The tree of `{ /* todo */ }` is called cut at its block, and a reading says so, although the
index holds everything but the comment. -/
theorem Index.truncated_at_comment :
    let root : Tree := .node { name := "program" }
      [.node { name := "statement_block" } [.node { name := "comment" } []]]
    let index := build root (.atMost 1)
    index.truncated = true ∧ ¬LeavesOut root (.atMost 1) ∧
      ∃ reading,
        Reading.read ⟨.int 100, .int 1⟩ (fun _ => some root) (some .javascript)
            (.text "\x7b /* todo */ \x7d") = .ok reading ∧
          reading.diagnostics = [{ message := "Tree deeper than 1 levels; truncated" }] := by
  intro root index
  refine ⟨by decide +kernel, ?_, ?_⟩
  · rw [leavesOut_iff]
    rintro (⟨node, inOpen, absent⟩ | hidden)
    · obtain ⟨cut, ⟨member, stopped⟩, below, child⟩ := exists_cut_of_not_mem inOpen absent
      have childless : ∀ node ∈ index.nodes, (DepthLimit.atMost 1).stops node.depth = true →
          node.children = [] := by decide +kernel
      rw [childless cut member stopped] at child
      cases child
    · exact not_hides_of_bare (by decide +kernel) hidden
  · have computed : (Reading.read ⟨.int 100, .int 1⟩ (fun _ => some root) (some .javascript)
        (.text "\x7b /* todo */ \x7d")).toOption.any (fun reading =>
          reading.diagnostics = [{ message := "Tree deeper than 1 levels; truncated" }]) = true := by
      decide +kernel
    obtain ⟨reading, ended, told⟩ := exists_ok_of_any computed
    exact ⟨reading, ended, of_decide_eq_true told⟩

end SnippetTutor
