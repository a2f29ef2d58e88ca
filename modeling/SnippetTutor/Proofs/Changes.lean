import SnippetTutor.Proofs.Paths
import SnippetTutor.Proofs.Rebinding

/-!
# Where changes are recorded

A change is recorded at an assignment or a mutating call if the path that it writes belongs to a
shared group. Whether it does is settled by the declarations: recording a change leaves alone what is
shared.

* `AliasMap.Shares`: the value that a name stands for is shared. A path belongs to a shared group if
  one of the names it is asked for shares its value (`AliasMap.isSome_groupFor_iff`);
* `AliasMap.RecordsAt`: a change is recorded at a place. One record adds its place
  (`AliasMap.WellFormed.recordsAt_recordMutation`), so many add theirs
  (`AliasMap.WellFormed.recordsAt_foldl_recordAt`), and `AliasMap.recordsAt_build_iff` says where
  the map of a tree has its records;
* `AliasMap.recordsAt_written_iff`: of the accesses that start from a name with a shared value,
  those are recorded that go by one dot or two. Writing through brackets or along a longer path
  leaves no record.
-/

namespace SnippetTutor.AliasMap

variable {σ : Type}

/-- The value that a name stands for is shared. -/
def Shares (map : AliasMap σ) (name : String) : Prop :=
  ∃ group, map.groups.get? (map.canonical name) = some group ∧ group.shared = true

/-- A change is recorded at a place. -/
def RecordsAt (map : AliasMap σ) (site : σ) : Prop :=
  ∃ source group, map.groups.get? source = some group ∧
    ∃ mutation ∈ group.mutations, mutation.site = site

/-! ### The group of a path -/

/-- A name with a group is known. -/
theorem knows_of_get?_canonical {map : AliasMap σ} {name : String} {group : AliasGroup σ}
    (found : map.groups.get? (map.canonical name) = some group) : map.knows name = true := by
  rw [knows_iff]
  by_cases bound : name ∈ map.aliasOf.keys
  · exact .inl bound
  · rw [canonical_of_not_mem bound] at found
    exact .inr ((Keyed.get?_isSome_iff _ _).1 (found ▸ rfl))

/-- A path belongs to a shared group exactly when one of its starts shares its value. -/
theorem isSome_groupFor_iff (map : AliasMap σ) (path : String) :
    (map.groupFor path).isSome = true ↔ ∃ name ∈ candidates path, map.Shares name := by
  unfold groupFor
  rw [List.findSome?_isSome_iff]
  constructor
  · rintro ⟨name, listed, found⟩
    by_cases known : map.knows name = true
    · rw [if_pos known] at found
      obtain ⟨group, chosen⟩ := Option.isSome_iff_exists.1 found
      exact ⟨name, listed, group, Option.filter_eq_some_iff.1 chosen⟩
    · simp [known] at found
  · rintro ⟨name, listed, group, found, shared⟩
    refine ⟨name, listed, ?_⟩
    simp [knows_of_get?_canonical found, found, shared, Option.filter]

/-! ### One record -/

namespace WellFormed

variable {map : AliasMap σ} (wellFormed : map.WellFormed)

include wellFormed

/-- Recording a change leaves alone what is shared. -/
theorem shares_recordMutation (path : String) (site : σ) (name : String) :
    (map.recordMutation path site).Shares name ↔ map.Shares name := by
  unfold Shares
  rw [canonical_recordMutation]
  unfold AliasMap.recordMutation
  cases found : map.groupFor path with
  | none => rfl
  | some group =>
    -- The group is put back under its own source with one more change, so its names are the same.
    obtain ⟨held, -⟩ := wellFormed.get?_of_groupFor found
    simp only [Keyed.get?_put]
    by_cases same : group.source = map.canonical name
    · rw [← same, held]
      simp [AliasGroup.shared]
    · simp [same]

theorem isSome_groupFor_recordMutation (path : String) (site : σ) (other : String) :
    ((map.recordMutation path site).groupFor other).isSome = (map.groupFor other).isSome := by
  rw [Bool.eq_iff_iff, isSome_groupFor_iff, isSome_groupFor_iff]
  simp only [wellFormed.shares_recordMutation]

/-- A change is recorded at its place if its path belongs to a shared group. -/
theorem recordsAt_recordMutation (path : String) (site place : σ) :
    (map.recordMutation path site).RecordsAt place ↔
      map.RecordsAt place ∨ site = place ∧ (map.groupFor path).isSome = true := by
  unfold AliasMap.recordMutation
  cases found : map.groupFor path with
  | none => simp
  | some group =>
    obtain ⟨held, -⟩ := wellFormed.get?_of_groupFor found
    unfold RecordsAt
    simp only [Keyed.get?_put, Option.isSome_some, and_true]
    constructor
    · rintro ⟨source, other, found', mutation, member, rfl⟩
      by_cases same : group.source = source
      · rw [if_pos same] at found'
        cases found'
        rcases List.mem_append.1 member with old | new
        · exact .inl ⟨group.source, group, held, mutation, old, rfl⟩
        · rw [List.mem_singleton.1 new]
          exact .inr rfl
      · rw [if_neg same] at found'
        exact .inl ⟨source, other, found', mutation, member, rfl⟩
    · rintro (⟨source, other, found', mutation, member, rfl⟩ | rfl)
      · by_cases same : group.source = source
        · rw [← same, held] at found'
          cases found'
          exact ⟨group.source, _, if_pos rfl, mutation, List.mem_append_left _ member, rfl⟩
        · exact ⟨source, other, (if_neg same).trans found', mutation, member, rfl⟩
      · exact ⟨group.source, _, if_pos rfl, ⟨path, site⟩, by simp, rfl⟩

end WellFormed

/-! ### Records of a tree -/

section

variable {root : Tree}

/-- What is written at a construct belongs to a shared group. -/
def Affects (map : AliasMap (Node root)) (path? : Node root → Option String) (node : Node root) :
    Prop :=
  ∃ path, path? node = some path ∧ (map.groupFor path).isSome = true

variable {map : AliasMap (Node root)} {path? : Node root → Option String}

namespace WellFormed

variable (wellFormed : map.WellFormed)

include wellFormed

theorem recordAt (node : Node root) : (recordAt path? map node).WellFormed := by
  unfold AliasMap.recordAt
  split
  · exact wellFormed.recordMutation _ _
  · exact wellFormed

theorem affects_recordAt (first : Node root) (written? : Node root → Option String)
    (node : Node root) :
    (AliasMap.recordAt path? map first).Affects written? node ↔ map.Affects written? node := by
  unfold Affects AliasMap.recordAt
  split
  · simp only [wellFormed.isSome_groupFor_recordMutation]
  · rfl

theorem recordsAt_recordAt (first node : Node root) :
    (AliasMap.recordAt path? map first).RecordsAt node ↔
      map.RecordsAt node ∨ node = first ∧ map.Affects path? node := by
  unfold AliasMap.recordAt Affects
  cases written : path? first with
  | none =>
    simp only [iff_self_or]
    rintro ⟨rfl, path, found, -⟩
    rw [written] at found
    cases found
  | some path =>
    simp only [wellFormed.recordsAt_recordMutation]
    constructor
    · rintro (old | ⟨rfl, shared⟩)
      · exact .inl old
      · exact .inr ⟨rfl, path, written, shared⟩
    · rintro (old | ⟨rfl, path', found, shared⟩)
      · exact .inl old
      · rw [written] at found
        cases found
        exact .inr ⟨rfl, shared⟩

/-- Recording what is written at each of several constructs leaves a record at those that affect a
group that was shared before. -/
theorem recordsAt_foldl_recordAt (nodes : List (Node root)) (node : Node root) :
    (nodes.foldl (AliasMap.recordAt path?) map).RecordsAt node ↔
      map.RecordsAt node ∨ node ∈ nodes ∧ map.Affects path? node := by
  induction nodes generalizing map with
  | nil => simp
  | cons first rest ih =>
    -- What the rest affects is asked of the map after the first record, which makes no difference.
    rw [List.foldl_cons, ih (wellFormed.recordAt first), wellFormed.recordsAt_recordAt,
      wellFormed.affects_recordAt, List.mem_cons, or_assoc, or_and_right]

theorem foldl_recordAt (nodes : List (Node root)) :
    (nodes.foldl (AliasMap.recordAt path?) map).WellFormed :=
  List.foldlRecOn _ _ wellFormed fun _ wellFormed node _ => wellFormed.recordAt node

theorem affects_foldl_recordAt (nodes : List (Node root)) (written? : Node root → Option String)
    (node : Node root) :
    (nodes.foldl (AliasMap.recordAt path?) map).Affects written? node ↔
      map.Affects written? node := by
  induction nodes generalizing map with
  | nil => rfl
  | cons first rest ih =>
    rw [List.foldl_cons, ih (wellFormed.recordAt first), wellFormed.affects_recordAt]

end WellFormed

theorem wellFormed_ofDeclarations (index : Index root) (types : TypeMap) :
    (ofDeclarations index types : AliasMap (Node root)).WellFormed :=
  (reached_ofDeclarations (fun _ => True) index types).wellFormed

theorem not_recordsAt_ofDeclarations (index : Index root) (types : TypeMap) (node : Node root) :
    ¬(ofDeclarations index types).RecordsAt node := by
  rintro ⟨source, group, found, mutation, member, -⟩
  have reached := reached_ofDeclarations (σ := Node root) (fun _ => False) index types
  exact reached.records source group found mutation member

/-- The map of a tree has its records at the assignments and calls that affect a group shared by the
declarations. -/
theorem recordsAt_build_iff (index : Index root) (types : TypeMap) (node : Node root) :
    (build index types).RecordsAt node ↔
      node ∈ index.ofKinds [.assignmentExpression, .augmentedAssignmentExpression] ∧
          (ofDeclarations index types).Affects assignedPath node ∨
        node ∈ index.ofKind .callExpression ∧
          (ofDeclarations index types).Affects calledPath node := by
  have declared := wellFormed_ofDeclarations index types
  unfold build
  rw [(declared.foldl_recordAt _).recordsAt_foldl_recordAt, declared.recordsAt_foldl_recordAt,
    declared.affects_foldl_recordAt]
  simp only [not_recordsAt_ofDeclarations, false_or]

/-! ### Assignments and calls -/

theorem kind_of_mem_ofKind {index : Index root} {kind : Kind} {node : Node root}
    (member : node ∈ index.ofKind kind) : node.kind = kind :=
  beq_iff_eq.1 (List.mem_filter.1 member).2

/-- No construct is both an assignment and a call. -/
theorem not_mem_calls {index : Index root} {node : Node root}
    (assignment : node ∈ index.ofKinds [.assignmentExpression, .augmentedAssignmentExpression]) :
    node ∉ index.ofKind .callExpression := by
  intro call
  have kind := kind_of_mem_ofKind call
  rw [Index.ofKinds, List.mem_mergeSort, List.mem_flatMap] at assignment
  · obtain ⟨named, listed, member⟩ := assignment
    rw [kind_of_mem_ofKind member] at kind
    simp [kind] at listed
  · simp

section

variable {start : String} {parts : List String} (plain : '.' ∉ start.toList)
  (shares : map.Shares start)

include plain shares

/-- A path from a name with a shared value belongs to a shared group. -/
theorem isSome_groupFor_dotted {keys : List String} (nonempty : keys ≠ []) :
    (map.groupFor (Node.dotted start keys)).isSome = true :=
  (isSome_groupFor_iff map _).2 ⟨start, mem_candidates_dotted plain nonempty, shares⟩

/-- An assignment through a name with a shared value counts if it goes by one dot or two. -/
theorem affects_assignedPath_iff {node left : Node root} (written : node.field .left = some left)
    (chain : left.memberChain = some (start, parts)) (nonempty : parts ≠ []) :
    map.Affects assignedPath node ↔ parts.length ≤ 2 ∧ left.IsDotted := by
  have path_eq : assignedPath node = left.simpleMemberPath := by simp [assignedPath, written]
  unfold Affects
  rw [path_eq]
  constructor
  · rintro ⟨path, found, -⟩
    obtain ⟨start', keys, dots, -, short, rfl⟩ := Node.simpleMemberPath_eq_some_iff.1 found
    obtain ⟨rfl, rfl⟩ := dots.eq_of_chain chain
    exact ⟨by simpa using short, start', keys, dots⟩
  · rintro ⟨short, start', keys, dots⟩
    obtain ⟨rfl, rfl⟩ := dots.eq_of_chain chain
    have nonempty : keys ≠ [] := by simpa using nonempty
    exact ⟨_, dots.simpleMemberPath_eq nonempty (by simpa using short),
      isSome_groupFor_dotted plain shares nonempty⟩

/-- A mutating call through a name with a shared value counts if its object is the name itself or
goes from it by one dot or two. -/
theorem affects_calledPath_iff {call target : Node root} {method : String}
    (called : call.callee = some target)
    (chain : target.memberChain = some (start, parts ++ [method]))
    (mutating : method ∈ mutatingMethods) :
    map.Affects calledPath call ↔
      parts.length ≤ 2 ∧ target.IsDotted ∧ (parts = [] → start ≠ "") := by
  constructor
  · rintro ⟨path, found, -⟩
    obtain ⟨target', start', keys, method', called', dots, -, short, named, -⟩ :=
      calledPath_eq_some_iff.1 found
    rw [called] at called'
    cases called'
    obtain ⟨rfl, same⟩ := dots.eq_of_chain chain
    rw [List.map_append, List.map_singleton] at same
    obtain ⟨rfl, -⟩ := List.concat_inj.1 (by simpa using same)
    exact ⟨by simpa using short, ⟨start', _, dots⟩, by simpa using named⟩
  · rintro ⟨short, ⟨start', all, dots⟩, named⟩
    obtain ⟨rfl, same⟩ := dots.eq_of_chain chain
    obtain ⟨keys, last, rfl, rfl, lastSame⟩ := List.map_eq_append_iff.1 same
    obtain ⟨key, rfl, shown⟩ := List.map_eq_singleton_iff.1 lastSame
    -- The chain shows its last key as the method, and no other key is shown like that.
    rw [Node.eq_of_shownKey mutating shown] at dots
    have path := calledPath_eq_some_iff.2 ⟨target, start', keys, method, called, dots, mutating,
      by simpa using short, by simpa using named, rfl⟩
    exact ⟨_, path, isSome_groupFor_dotted plain shares (by simp)⟩

end

/-- Where an assignment or a mutating call goes through a name with a shared value, a change is
recorded exactly if the access goes by dots, and not by more than two besides the method. -/
theorem recordsAt_written_iff (index : Index root) (types : TypeMap) (start : String)
    (plain : '.' ∉ start.toList)
    (shares : (ofDeclarations index types : AliasMap (Node root)).Shares start) :
    (∀ node ∈ index.ofKinds [.assignmentExpression, .augmentedAssignmentExpression],
      ∀ left parts, node.field .left = some left → left.memberChain = some (start, parts) →
        parts ≠ [] →
        ((build index types).RecordsAt node ↔ parts.length ≤ 2 ∧ left.IsDotted)) ∧
      ∀ node ∈ index.ofKind .callExpression,
        ∀ target parts method, node.callee = some target →
          target.memberChain = some (start, parts ++ [method]) → method ∈ mutatingMethods →
          ((build index types).RecordsAt node ↔
            parts.length ≤ 2 ∧ target.IsDotted ∧ (parts = [] → start ≠ "")) := by
  constructor
  · intro node member left parts written chain nonempty
    rw [recordsAt_build_iff, ← affects_assignedPath_iff plain shares written chain nonempty]
    simp only [member, not_mem_calls member, true_and, false_and, or_false]
  · intro node member target parts method called chain mutating
    have other : node ∉ index.ofKinds [.assignmentExpression, .augmentedAssignmentExpression] :=
      fun assignment => not_mem_calls assignment member
    rw [recordsAt_build_iff, ← affects_calledPath_iff plain shares called chain mutating]
    simp only [member, other, true_and, false_and, false_or]

/-- In `var a = [], b = a; b.push(1)` the call changes the value that `a` and `b` share. -/
theorem recordsAt_written_call :
    let root : Tree := .node { name := "program" }
      [.node { name := "variable_declaration" }
        [.node { name := "variable_declarator" }
          [.node { name := "identifier", role := some .name, text := "a" } [],
           .node { name := "array", role := some .value, text := "[]" } []],
         .node { name := "variable_declarator" }
          [.node { name := "identifier", role := some .name, text := "b" } [],
           .node { name := "identifier", role := some .value, text := "a" } []]],
       .node { name := "expression_statement" }
        [.node { name := "call_expression" }
          [.node { name := "member_expression", role := some .function }
            [.node { name := "identifier", role := some .object, text := "b" } [],
             .node { name := "property_identifier", role := some .property, text := "push" } []],
           .node { name := "arguments", role := some .arguments }
            [.node { name := "number", text := "1" } []]]]]
    let index := Index.build root .unlimited
    let types := TypeMap.build index
    let declared : AliasMap (Node root) := ofDeclarations index types
    declared.Shares "b" ∧ (index.ofKind .callExpression).length = 1 ∧
      ∀ call ∈ index.ofKind .callExpression, (build index types).RecordsAt call := by
  intro root index types declared
  have shares : declared.Shares "b" :=
    (Option.any_eq_true _ _).1 (by decide +kernel)
  refine ⟨shares, by decide +kernel, ?_⟩
  intro call member
  have paths : ∀ call ∈ index.ofKind .callExpression,
      call.callee.bind Node.memberChain = some ("b", ["push"]) ∧
        call.callee.bind Node.simpleMemberPath = some "b.push" := by decide +kernel
  obtain ⟨chained, dotted⟩ := paths call member
  obtain ⟨target, called, chain⟩ := Option.bind_eq_some_iff.1 chained
  rw [called, Option.bind_some] at dotted
  obtain ⟨start, keys, path, -⟩ := Node.exists_dotPath_of_simpleMemberPath dotted
  have recorded := (recordsAt_written_iff index types "b" (by decide) shares).2 call member target
    [] "push" called chain (by decide)
  exact recorded.2 ⟨Nat.zero_le 2, ⟨start, keys, path⟩, by decide⟩

/-- In `var a = {}, b = a; b[0] = 1; b.x.y.z.push(2)` both the assignment and the call change the
value that `a` and `b` share, and neither leaves a record. -/
theorem written_without_record :
    let root : Tree := .node { name := "program" }
      [.node { name := "variable_declaration" }
        [.node { name := "variable_declarator" }
          [.node { name := "identifier", role := some .name, text := "a" } [],
           .node { name := "object", role := some .value, text := "\x7b\x7d" } []],
         .node { name := "variable_declarator" }
          [.node { name := "identifier", role := some .name, text := "b" } [],
           .node { name := "identifier", role := some .value, text := "a" } []]],
       .node { name := "expression_statement" }
        [.node { name := "assignment_expression" }
          [.node { name := "subscript_expression", role := some .left }
            [.node { name := "identifier", role := some .object, text := "b" } [],
             .node { name := "number", role := some .index, text := "0" } []],
           .node { name := "number", role := some .right, text := "1" } []]],
       .node { name := "expression_statement" }
        [.node { name := "call_expression" }
          [.node { name := "member_expression", role := some .function }
            [.node { name := "member_expression", role := some .object }
              [.node { name := "member_expression", role := some .object }
                [.node { name := "member_expression", role := some .object }
                  [.node { name := "identifier", role := some .object, text := "b" } [],
                   .node { name := "property_identifier", role := some .property, text := "x" } []],
                 .node { name := "property_identifier", role := some .property, text := "y" } []],
               .node { name := "property_identifier", role := some .property, text := "z" } []],
             .node { name := "property_identifier", role := some .property, text := "push" } []],
           .node { name := "arguments", role := some .arguments }
            [.node { name := "number", text := "2" } []]]]]
    let index := Index.build root .unlimited
    let types := TypeMap.build index
    let declared : AliasMap (Node root) := ofDeclarations index types
    let assignments := index.ofKinds [.assignmentExpression, .augmentedAssignmentExpression]
    let calls := index.ofKind .callExpression
    assignments.map (fun node => (node.field .left).bind Node.memberChain) = [some ("b", ["0"])] ∧
      calls.map (fun node => node.callee.bind Node.memberChain) =
        [some ("b", ["x", "y", "z", "push"])] ∧
      declared.Shares "b" ∧
      ∀ node ∈ assignments ++ calls, ¬(build index types).RecordsAt node := by
  intro root index types declared assignments calls
  refine ⟨by decide +kernel, by decide +kernel, (Option.any_eq_true _ _).1 (by decide +kernel), ?_⟩
  rintro node - ⟨source, group, found, mutation, member, -⟩
  have unchanged : ∀ entry ∈ (build index types).groups,
      entry.2.mutations.length = 0 := by decide +kernel
  have empty := unchanged _ (Keyed.mem_of_get? found)
  rw [List.eq_nil_of_length_eq_zero empty] at member
  cases member

end

end SnippetTutor.AliasMap
