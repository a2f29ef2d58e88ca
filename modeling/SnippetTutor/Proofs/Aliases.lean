import SnippetTutor.Detector.Subject

/-!
# How a map of aliases comes about

The aliases of a tree are recorded one by one, and so are the changes made through them.

* `AliasMap.Reached` are the maps that the three operations lead to, with a condition on the
  changes that are recorded;
* `AliasMap.Records` says that the changes a map holds fulfil a condition. One operation keeps it
  (`records_addAlias`, `records_ensureSource`, `records_recordMutation`), so every sequence of
  operations does (`AliasMap.Reached.records`);
* `AliasMap.reached_build`: the map of a tree is reached by recording changes at the assignments
  and calls that the index of the tree holds, each under the path that it writes.
-/

namespace SnippetTutor

namespace AliasMap

variable {σ : Type}

/-- The maps that operations lead to, when every change that is recorded fulfils `fits`. -/
inductive Reached (fits : Mutation σ → Prop) : AliasMap σ → Prop where
  | start : Reached fits {}
  | addAlias {map : AliasMap σ} (reached : Reached fits map) (name source : String) :
      Reached fits (map.addAlias name source)
  | ensureSource {map : AliasMap σ} (reached : Reached fits map) (source : String) :
      Reached fits (map.ensureSource source)
  | recordMutation {map : AliasMap σ} (reached : Reached fits map) {path : String} {site : σ}
      (fit : fits ⟨path, site⟩) : Reached fits (map.recordMutation path site)

/-! ### Recorded changes -/

/-- Every change that is recorded in a group fulfils `fits`. -/
def Records (fits : Mutation σ → Prop) (map : AliasMap σ) : Prop :=
  ∀ source group, map.groups.get? source = some group →
    ∀ mutation ∈ group.mutations, fits mutation

section

variable {fits : Mutation σ → Prop} {map : AliasMap σ}

/-- A written path belongs to a group of the map that is shared. -/
theorem exists_get?_of_groupFor {path : String} {group : AliasGroup σ}
    (found : map.groupFor path = some group) :
    ∃ source, map.groups.get? source = some group ∧ group.shared = true := by
  obtain ⟨name, -, chosen⟩ := List.exists_of_findSome?_eq_some found
  by_cases known : map.knows name = true
  · rw [if_pos known] at chosen
    exact ⟨_, Option.filter_eq_some_iff.1 chosen⟩
  · rw [if_neg known] at chosen
    cases chosen

theorem exists_get?_of_mem_mutated {group : AliasGroup σ} (member : group ∈ map.mutated) :
    ∃ source, map.groups.get? source = some group := by
  obtain ⟨source, -, found⟩ := List.mem_filterMap.1 member
  exact ⟨source, found⟩

/-- The group of a source holds no other changes than those recorded. -/
theorem Records.fits_of_mem_groupOf (records : map.Records fits) (source : String)
    {mutation : Mutation σ} (member : mutation ∈ (map.groupOf source).mutations) :
    fits mutation := by
  unfold groupOf at member
  cases found : map.groups.get? source with
  | none =>
    rw [found] at member
    exact absurd member List.not_mem_nil
  | some group =>
    rw [found] at member
    exact records source group found mutation member

/-- A group is replaced by one whose changes fulfil `fits`. -/
theorem Records.put (records : map.Records fits) {map' : AliasMap σ} {key : String}
    {group : AliasGroup σ} (replaced : map'.groups = map.groups.put key group)
    (fit : ∀ mutation ∈ group.mutations, fits mutation) : map'.Records fits := by
  intro source other found
  rw [replaced, Keyed.get?_put] at found
  by_cases same : key = source
  · rw [if_pos same] at found
    cases found
    exact fit
  · rw [if_neg same] at found
    exact records source other found

theorem records_start : Records fits ({} : AliasMap σ) := by
  intro source group found
  cases found

theorem records_addAlias (records : map.Records fits) (name source : String) :
    (map.addAlias name source).Records fits := by
  refine records.put rfl fun mutation member => ?_
  -- Only the names of the group have changed.
  exact records.fits_of_mem_groupOf (map.canonical source) member

theorem records_ensureSource (records : map.Records fits) (source : String) :
    (map.ensureSource source).Records fits := by
  refine records.put rfl fun mutation member => ?_
  exact records.fits_of_mem_groupOf source member

theorem records_recordMutation (records : map.Records fits) {path : String} {site : σ}
    (fit : fits ⟨path, site⟩) : (map.recordMutation path site).Records fits := by
  unfold AliasMap.recordMutation
  cases found : map.groupFor path with
  | none => exact records
  | some group =>
    obtain ⟨source, held, -⟩ := exists_get?_of_groupFor found
    refine records.put rfl fun mutation member => ?_
    rcases List.mem_append.1 member with old | new
    · exact records source group held mutation old
    · rw [List.mem_singleton.1 new]
      exact fit

/-- Whatever the operations, the changes that a map holds are among those recorded. -/
theorem Reached.records (reached : Reached fits map) : map.Records fits := by
  induction reached with
  | start => exact records_start
  | addAlias _ name source ih => exact records_addAlias ih name source
  | ensureSource _ source ih => exact records_ensureSource ih source
  | recordMutation _ fit ih => exact records_recordMutation ih fit

end

/-! ### The map of a tree -/

section

variable {root : Tree}

theorem reached_bind {fits : Mutation σ → Prop} {map : AliasMap σ} (reached : Reached fits map)
    (types : TypeMap) (name : String) (value? : Option (Node root)) :
    Reached fits (bind types map name value?) := by
  unfold AliasMap.bind
  split
  · split
    · exact reached.addAlias _ _
    · exact reached
  · exact reached

theorem reached_declare {fits : Mutation σ → Prop} {map : AliasMap σ} (reached : Reached fits map)
    (types : TypeMap) (declarator : Node root) :
    Reached fits (declare types map declarator) := by
  unfold AliasMap.declare
  split
  · rename_i target value _
    split
    · exact reached
    · rename_i name _
      have bound := reached_bind reached types name (some value)
      split
      · refine List.foldlRecOn _ _ bound fun map reached pair _ => ?_
        exact reached_bind reached types (propertyPath name pair) (pair.field .value)
      · exact bound
  · exact reached

/-- A change is recorded at an assignment or at a call in the index, under the path that is
written there. -/
def IsWrittenIn (index : Index root) (mutation : Mutation (Node root)) : Prop :=
  (mutation.site ∈ index.ofKinds [.assignmentExpression, .augmentedAssignmentExpression] ∧
      assignedPath mutation.site = some mutation.path) ∨
    (mutation.site ∈ index.ofKind .callExpression ∧
      calledPath mutation.site = some mutation.path)

/-- Recording what is written at each of several constructs. -/
theorem reached_foldl_recordAt {fits : Mutation (Node root) → Prop}
    {map : AliasMap (Node root)} (reached : Reached fits map)
    (path? : Node root → Option String) (nodes : List (Node root))
    (fit : ∀ node ∈ nodes, ∀ path, path? node = some path → fits ⟨path, node⟩) :
    Reached fits (nodes.foldl (recordAt path?) map) := by
  refine List.foldlRecOn _ _ reached fun map reached node member => ?_
  unfold recordAt
  cases written : path? node with
  | none => exact reached
  | some path => exact reached.recordMutation (fit node member path written)

/-- Declarations record no changes. -/
theorem reached_ofDeclarations (fits : Mutation σ → Prop) (index : Index root) (types : TypeMap) :
    Reached fits (ofDeclarations index types) :=
  List.foldlRecOn _ _ .start fun _ reached node _ => reached_declare reached types node

/-- The map of a tree is reached by recording what is written in its index. -/
theorem reached_build (index : Index root) (types : TypeMap) :
    Reached (IsWrittenIn index) (build index types) := by
  apply reached_foldl_recordAt
  · apply reached_foldl_recordAt (reached_ofDeclarations _ index types)
    intro node member path written
    exact .inl ⟨member, written⟩
  · intro node member path written
    exact .inr ⟨member, written⟩

/-- Every change of a changed group of a tree is written in its index. -/
theorem isWrittenIn_of_mem_mutated {index : Index root} {types : TypeMap}
    {group : AliasGroup (Node root)} (changed : group ∈ (build index types).mutated)
    {mutation : Mutation (Node root)} (member : mutation ∈ group.mutations) :
    IsWrittenIn index mutation := by
  obtain ⟨source, found⟩ := exists_get?_of_mem_mutated changed
  exact (reached_build index types).records source group found mutation member

end

end AliasMap

end SnippetTutor
