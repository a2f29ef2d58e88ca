import SnippetTutor.Proofs.Parameters
import SnippetTutor.Proofs.Paths

/-!
# Parentheses along a path

The path that an expression goes is read in two ways: as a chain of any length, and as a path of one
dot or two. Where the keys on the way are written out, the two agree on what both of them read.
Neither of them sees the parentheses on the way.

* `Node.Passes` relates an expression to the accesses on its way down to what it starts from;
* `Node.dotPath_of_memberChain`: a chain that passes only dots goes along a path of dots;
* `Node.Reparenthesized` relates two expressions of which the second has more parentheses, around
  itself or around objects on its way; by `Node.reparenthesized_of_bare_eq` an expression is in this
  relation to itself wherever it stands;
* `Node.Reparenthesized.memberChain_eq` and `Node.Reparenthesized.dotPath_iff`, by induction on the
  relation: the two have the same chain and go the same paths of dots;
* `Node.path_readers_agree` puts this together.
-/

namespace SnippetTutor.Node

variable {root other : Tree} {node object inner outer : Node root} {node' : Node other}
  {start : String} {keys : List String}

/-! ### Accesses -/

/-- An access with a dot or with brackets. -/
def IsAccess (node : Node root) : Prop :=
  node.kind = .memberExpression ∨ node.kind = .subscriptExpression

/-- An expression passes an access on the way down to what it starts from: it is the access, or its
object passes it. Parentheses do not count. -/
inductive Passes : Node root → Node root → Prop where
  | here {node : Node root} (access : node.unwrap.IsAccess) : Passes node node.unwrap
  | object {node object access : Node root} (through : node.unwrap.IsAccess)
    (holds : node.unwrap.memberObject = some object) (way : Passes object access) :
    Passes node access

/-- Each access with a dot that an expression passes has a property with a text. -/
def IsSpelled (node : Node root) : Prop :=
  ∀ access, Passes node access → access.kind = .memberExpression →
    ∃ property, access.field .property = some property ∧ property.text ≠ ""

/-- An expression passes accesses with a dot only. -/
def PassesDots (node : Node root) : Prop :=
  ∀ access, Passes node access → access.kind = .memberExpression

theorem unwrap_of_isAccess (access : node.IsAccess) : node.unwrap = node := by
  refine unwrap_of_kind_ne ?_
  rcases access with kind | kind
  · rw [kind]
    decide
  · rw [kind]
    decide

theorem memberProperty_of_isAccess (through : node.IsAccess) :
    node.memberProperty =
      if node.kind == .memberExpression then (node.field .property).map text else none := by
  rw [memberProperty, unwrap_of_isAccess through]

/-! ### Chains -/

/-- A chain goes on from the object of an access, and ends at a name. -/
theorem memberChain_of_isAccess (through : node.unwrap.IsAccess) :
    node.memberChain = node.unwrap.memberObject.bind fun object =>
      object.memberChain.map fun chain => (chain.1, chain.2 ++ [node.unwrap.chainKey]) := by
  have goes : (node.unwrap.kind == .memberExpression || node.unwrap.kind == .subscriptExpression) =
      true := by
    simpa [IsAccess] using through
  rw [memberChain]
  simp only [goes, if_true]
  split
  · rename_i found
    rw [found]
    rfl
  · rename_i found
    rw [found]
    rfl

theorem memberChain_of_not_isAccess (ends : ¬node.unwrap.IsAccess) :
    node.memberChain = node.identifierName.map fun start => (start, []) := by
  have stays : (node.unwrap.kind == .memberExpression || node.unwrap.kind == .subscriptExpression) =
      false := by
    simpa [IsAccess] using ends
  rw [memberChain]
  simp only [stays, identifierName]
  split <;> simp_all

/-! ### Paths of dots -/

theorem memberProperty_of_spelled (spelled : node.IsSpelled)
    (dot : node.unwrap.kind = .memberExpression) :
    ∃ key, node.memberProperty = some key ∧ key ≠ "" := by
  obtain ⟨property, held, nonempty⟩ := spelled _ (.here (.inl dot)) dot
  exact ⟨property.text, by simp [memberProperty, dot, held], nonempty⟩

theorem IsSpelled.below (spelled : node.IsSpelled) (through : node.unwrap.IsAccess)
    (holds : node.unwrap.memberObject = some object) : object.IsSpelled :=
  fun access way => spelled access (.object through holds way)

theorem PassesDots.below (dots : node.PassesDots) (through : node.unwrap.IsAccess)
    (holds : node.unwrap.memberObject = some object) : object.PassesDots :=
  fun access way => dots access (.object through holds way)

theorem shownKey_of_ne {key : String} (nonempty : key ≠ "") : shownKey key = key := if_neg nonempty

/-- Keys that are written out are shown as they are. -/
theorem DotPath.map_shownKey (path : DotPath node start keys) (spelled : node.IsSpelled) :
    keys.map shownKey = keys := by
  induction path with
  | name _ => rfl
  | dot property owner _ ih =>
    have dot := kind_of_memberProperty property
    obtain ⟨key, named, nonempty⟩ := memberProperty_of_spelled spelled dot
    rw [property] at named
    cases named
    rw [List.map_append, ih (spelled.below (.inl dot) owner), List.map_singleton,
      shownKey_of_ne nonempty]

/-- A chain that passes dots only goes along a path of dots. -/
theorem dotPath_of_memberChain {node : Node root} {start : String} {keys : List String}
    (spelled : node.IsSpelled) (dots : node.PassesDots)
    (chain : node.memberChain = some (start, keys)) : DotPath node start keys := by
  by_cases through : node.unwrap.IsAccess
  · have dot := dots _ (.here through)
    obtain ⟨key, property, nonempty⟩ := memberProperty_of_spelled spelled dot
    have shown := chainKey_of_memberProperty dot (node.memberProperty_unwrap.trans property)
    rw [memberChain_of_isAccess through, shown, shownKey_of_ne nonempty] at chain
    obtain ⟨object, owner, further⟩ := Option.bind_eq_some_iff.1 chain
    obtain ⟨⟨start', front⟩, below, whole⟩ := Option.map_eq_some_iff.1 further
    cases whole
    exact .dot property owner
      (dotPath_of_memberChain (spelled.below through owner) (dots.below through owner) below)
  · rw [memberChain_of_not_isAccess through] at chain
    obtain ⟨name, named, whole⟩ := Option.map_eq_some_iff.1 chain
    cases whole
    exact .name named
termination_by node.tree.height
decreasing_by
  exact Nat.lt_of_lt_of_le (height_lt_of_fieldInside ‹_›) (height_unwrap_le node)

/-- A path of dots passes dots only, and its keys are theirs. -/
theorem DotPath.of_passes {access : Node root} (path : DotPath node start keys)
    (way : Passes node access) :
    access.kind = .memberExpression ∧ ∃ key ∈ keys, access.memberProperty = some key := by
  induction path with
  | name named =>
    have kind := (kind_of_identifierName named).1
    cases way with
    | here through => simp [IsAccess, kind] at through
    | object through _ _ => simp [IsAccess, kind] at through
  | @dot node object start key keys property owner _ ih =>
    cases way with
    | here _ =>
      have same := node.memberProperty_unwrap.trans property
      exact ⟨kind_of_memberProperty property, key, by simp, same⟩
    | object through holds way =>
      rw [owner] at holds
      cases holds
      obtain ⟨kind, key, member, property⟩ := ih way
      exact ⟨kind, key, List.mem_append_left _ member, property⟩

/-- A path whose keys all have a text is spelled. -/
theorem DotPath.isSpelled (path : DotPath node start keys) (written : "" ∉ keys) :
    node.IsSpelled := by
  intro access way dot
  obtain ⟨-, key, member, property⟩ := path.of_passes way
  rw [memberProperty_of_isAccess (.inl dot), if_pos (beq_iff_eq.2 dot)] at property
  obtain ⟨held, holds, rfl⟩ := Option.map_eq_some_iff.1 property
  exact ⟨held, holds, fun empty => written (empty ▸ member)⟩

/-- The text of a path is its name and its keys with dots between them. -/
theorem dotted_eq_intercalate (start : String) (keys : List String) :
    dotted start keys = ".".intercalate (start :: keys) := by
  rw [String.intercalate, dotted]
  induction keys generalizing start with
  | nil => rfl
  | cons key keys ih => exact ih _

/-! ### Parentheses -/

/-- What an access says besides its object: the text of its property, and the text and the kind of
its index. -/
def keyTexts (access : Node root) : Option String × Option (Kind × String) :=
  ((access.field .property).map text,
    access.subscriptIndex.map fun index => (index.kind, index.text))

/-- Two expressions are the same apart from where they stand, except that the second one may have
parentheses around it, or around the objects of the accesses that it passes, where the first one has
none. -/
inductive Reparenthesized : Node root → Node other → Prop where
  | around {node : Node root} {inner outer : Node other}
    (kind : outer.kind = .parenthesizedExpression) (holds : outer.children.head? = some inner)
    (inside : Reparenthesized node inner) : Reparenthesized node outer
  | kept {inner outer : Node root} {inner' outer' : Node other}
    (kind : outer.kind = .parenthesizedExpression) (kind' : outer'.kind = .parenthesizedExpression)
    (holds : outer.children.head? = some inner) (holds' : outer'.children.head? = some inner')
    (inside : Reparenthesized inner inner') : Reparenthesized outer outer'
  | access {node object : Node root} {node' object' : Node other} (access : node.IsAccess)
    (kind : node'.kind = node.kind) (keys : node'.keyTexts = node.keyTexts)
    (holds : node.field .object = some object) (holds' : node'.field .object = some object')
    (inside : Reparenthesized object object') : Reparenthesized node node'
  -- Empty parentheses and accesses without an object are not read any further.
  | leaf {node : Node root} {node' : Node other} (kind : node'.kind = node.kind)
    (text : node'.text = node.text)
    (empty : node.kind = .parenthesizedExpression → node.children = [] ∧ node'.children = [])
    (ends : node.IsAccess → node.field .object = none ∧ node'.field .object = none) :
    Reparenthesized node node'

theorem unwrap_of_holds (kind : outer.kind = .parenthesizedExpression)
    (holds : outer.children.head? = some inner) : outer.unwrap = inner.unwrap := by
  rw [unwrap, if_pos (beq_iff_eq.2 kind)]
  split
  · rename_i found
    rw [holds] at found
    cases found
    rfl
  · rename_i found
    rw [holds] at found
    cases found

theorem unwrap_of_empty (empty : node.kind = .parenthesizedExpression → node.children = []) :
    node.unwrap = node := by
  by_cases kind : node.kind = .parenthesizedExpression
  · rw [unwrap, if_pos (beq_iff_eq.2 kind)]
    split
    · rename_i found
      rw [empty kind] at found
      cases found
    · rfl
  · exact unwrap_of_kind_ne kind

/-! ### The same expression at two places -/

theorem head?_children_congr (same : node.tree.bare = node'.tree.bare) :
    node.children.head?.map tree = node'.children.head?.map tree := by
  rw [← List.head?_map, map_tree_children_congr (Tree.subtrees_of_bare_eq same), List.head?_map]

theorem exists_of_map_tree_eq {held? : Option (Node other)}
    (same : (some node).map tree = held?.map tree) :
    ∃ held, held? = some held ∧ node.tree.bare = held.tree.bare := by
  obtain ⟨held, found, equal⟩ := Option.map_eq_some_iff.1 same.symm
  exact ⟨held, found, congrArg Tree.bare equal.symm⟩

theorem eq_none_of_map_tree_eq {held? : Option (Node other)}
    (same : (none : Option (Node root)).map tree = held?.map tree) : held? = none :=
  Option.map_eq_none_iff.1 same.symm

/-- What stands inside the parentheses is the same too. -/
theorem bare_unwrap_congr (same : node.tree.bare = node'.tree.bare) :
    node.unwrap.tree.bare = node'.unwrap.tree.bare := by
  fun_induction unwrap node generalizing node' with
  | case1 node wraps inner holds ih =>
    have kind' : node'.kind = .parenthesizedExpression :=
      (Tree.kind_of_bare_eq same).symm.trans (eq_of_beq wraps)
    have first := head?_children_congr same
    rw [holds] at first
    obtain ⟨inner', holds', same⟩ := exists_of_map_tree_eq first
    rw [unwrap_of_holds kind' holds']
    exact ih same
  | case2 node wraps empty =>
    have first := head?_children_congr same
    rw [empty] at first
    have empty' := List.head?_eq_none_iff.1 (eq_none_of_map_tree_eq first)
    rw [unwrap_of_empty fun _ => empty']
    exact same
  | case3 node bare =>
    have kind' : node'.kind ≠ .parenthesizedExpression := by
      intro wraps
      exact bare (beq_iff_eq.2 ((Tree.kind_of_bare_eq same).trans wraps))
    rw [unwrap_of_kind_ne kind']
    exact same

theorem keyTexts_congr (same : node.tree.bare = node'.tree.bare) :
    node'.keyTexts = node.keyTexts := by
  have fields := map_tree_field_congr (Tree.subtrees_of_bare_eq same)
  have property : (node'.field .property).map text = (node.field .property).map text := by
    have texts := congrArg (Option.map fun tree => tree.label.text) (fields .property)
    rw [Option.map_map, Option.map_map] at texts
    exact texts.symm
  rw [keyTexts, keyTexts, property, subscriptIndex, subscriptIndex, fieldInside, fieldInside]
  have sameIndex := fields .index
  cases held : node.field .index with
  | none =>
    rw [held] at sameIndex
    rw [eq_none_of_map_tree_eq sameIndex]
    rfl
  | some index =>
    rw [held] at sameIndex
    obtain ⟨index', held', same⟩ := exists_of_map_tree_eq sameIndex
    have inside := bare_unwrap_congr same
    have kind : index'.unwrap.kind = index.unwrap.kind := (Tree.kind_of_bare_eq inside).symm
    have text : index'.unwrap.text = index.unwrap.text := (Tree.text_of_bare_eq inside).symm
    simp [held', kind, text]

/-- An expression is the same, without further parentheses, wherever it stands and whatever part it
plays there. -/
theorem reparenthesized_of_bare_eq {node : Node root} {node' : Node other}
    (same : node.tree.bare = node'.tree.bare) : Reparenthesized node node' := by
  have sameKind : node'.kind = node.kind := (Tree.kind_of_bare_eq same).symm
  have sameText : node'.text = node.text := (Tree.text_of_bare_eq same).symm
  have sameFirst := head?_children_congr same
  have sameObject := map_tree_field_congr (Tree.subtrees_of_bare_eq same) .object
  -- The way goes on inside parentheses and at the object of an access, and ends elsewhere.
  by_cases wraps : node.kind = .parenthesizedExpression
  · have ends : ¬node.IsAccess := fun through => by simp [IsAccess, wraps] at through
    cases holds : node.children.head? with
    | none =>
      rw [holds] at sameFirst
      have empty := List.head?_eq_none_iff.1 holds
      have empty' := List.head?_eq_none_iff.1 (eq_none_of_map_tree_eq sameFirst)
      exact .leaf sameKind sameText (fun _ => ⟨empty, empty'⟩) fun through => absurd through ends
    | some inner =>
      rw [holds] at sameFirst
      obtain ⟨inner', holds', same'⟩ := exists_of_map_tree_eq sameFirst
      exact .kept wraps (sameKind.trans wraps) holds holds' (reparenthesized_of_bare_eq same')
  · by_cases through : node.IsAccess
    · cases holds : node.field .object with
      | none =>
        rw [holds] at sameObject
        exact .leaf sameKind sameText (fun wraps' => absurd wraps' wraps)
          fun _ => ⟨holds, eq_none_of_map_tree_eq sameObject⟩
      | some object =>
        rw [holds] at sameObject
        obtain ⟨object', holds', same'⟩ := exists_of_map_tree_eq sameObject
        exact .access through sameKind (keyTexts_congr same) holds holds'
          (reparenthesized_of_bare_eq same')
    · exact .leaf sameKind sameText (fun wraps' => absurd wraps' wraps)
        fun through' => absurd through' through
termination_by node.tree.height
decreasing_by
  · exact height_lt_of_mem_children (List.mem_of_head? holds)
  · exact height_lt_of_field holds

/-! ### What does not see parentheses -/

theorem memberChain_congr (same : outer.unwrap = inner.unwrap) :
    outer.memberChain = inner.memberChain := by
  by_cases through : inner.unwrap.IsAccess
  · rw [memberChain_of_isAccess through, memberChain_of_isAccess (same ▸ through), same]
  · rw [memberChain_of_not_isAccess through, memberChain_of_not_isAccess (same ▸ through),
      identifierName, identifierName, same]

theorem memberObject_of_isAccess (through : node.IsAccess) :
    node.unwrap.memberObject = (node.field .object).map unwrap := by
  rw [unwrap_of_isAccess through, memberObject, fieldInside]

/-- The chain of an access goes on from its object as this stands, with or without parentheses. -/
theorem memberChain_of_access (through : node.IsAccess) :
    node.memberChain = (node.field .object).bind fun object =>
      object.memberChain.map fun chain => (chain.1, chain.2 ++ [node.chainKey]) := by
  have bare := unwrap_of_isAccess through
  rw [memberChain_of_isAccess (bare.symm ▸ through), memberObject_of_isAccess through, bare]
  cases node.field .object with
  | none => rfl
  | some object =>
    rw [Option.map_some, Option.bind_some, Option.bind_some, memberChain_congr object.unwrap_unwrap]

/-- The key that a text in brackets gives is told by its kind and its text. -/
theorem stringValue_of_subscriptIndex {index : Node root}
    (found : node.subscriptIndex = some index) :
    index.stringValue = if index.kind == .string then some (unquoted index.text) else none := by
  rw [stringValue, unwrap_of_fieldInside found]

theorem IsAccess.congr (through : node.IsAccess) (kind : node'.kind = node.kind) :
    node'.IsAccess := through.imp kind.trans kind.trans

section

variable (through : node.IsAccess) (kind : node'.kind = node.kind)
  (same : node'.keyTexts = node.keyTexts)

include through kind same

theorem memberProperty_congr : node'.memberProperty = node.memberProperty := by
  obtain ⟨property, -⟩ := Prod.mk.inj same
  rw [memberProperty_of_isAccess through, memberProperty_of_isAccess (through.congr kind), kind,
    property]

theorem chainKey_congr : node'.chainKey = node.chainKey := by
  obtain ⟨-, index⟩ := Prod.mk.inj same
  rw [chainKey, chainKey, kind, memberProperty_congr through kind same]
  cases found : node.subscriptIndex with
  | none =>
    rw [found, Option.map_none, Option.map_eq_none_iff] at index
    rw [index]
  | some held =>
    rw [found, Option.map_some] at index
    obtain ⟨held', found', same⟩ := Option.map_eq_some_iff.1 index
    obtain ⟨sameKind, sameText⟩ := Prod.mk.inj same
    rw [found']
    simp only [stringValue_of_subscriptIndex found, stringValue_of_subscriptIndex found', sameKind,
      sameText]

end

/-- A chain does not see parentheses. -/
theorem Reparenthesized.memberChain_eq (same : Reparenthesized node node') :
    node.memberChain = node'.memberChain := by
  induction same with
  | around kind holds _ ih => rw [ih, memberChain_congr (unwrap_of_holds kind holds)]
  | kept kind kind' holds holds' _ ih =>
    rw [memberChain_congr (unwrap_of_holds kind holds),
      memberChain_congr (unwrap_of_holds kind' holds'), ih]
  | access through kind sameKeys holds holds' _ ih =>
    rw [memberChain_of_access through, memberChain_of_access (through.congr kind), holds, holds',
      Option.bind_some, Option.bind_some, ih, chainKey_congr through kind sameKeys]
  | @leaf node node' kind text empty ends =>
    have bare := unwrap_of_empty fun wraps => (empty wraps).1
    have bare' := unwrap_of_empty fun wraps => (empty (kind.symm.trans wraps)).2
    by_cases through : node.IsAccess
    · obtain ⟨absent, absent'⟩ := ends through
      rw [memberChain_of_access through, memberChain_of_access (through.congr kind), absent,
        absent']
      rfl
    · have ends' : ¬node'.IsAccess := fun through' => through (through'.congr kind.symm)
      rw [memberChain_of_not_isAccess (bare.symm ▸ through), identifierName, bare,
        memberChain_of_not_isAccess (bare'.symm ▸ ends'), identifierName, bare', kind, text]

theorem dotPath_nil_iff : DotPath node start [] ↔ node.identifierName = some start := by
  constructor
  · intro path
    -- The keys of a path through a dot are an append, which does not unify with the empty list.
    generalize empty : ([] : List String) = all at path
    cases path with
    | name named => exact named
    | dot property owner path => simp at empty
  · exact .name

theorem dotPath_congr (same : outer.unwrap = inner.unwrap) :
    DotPath outer start keys ↔ DotPath inner start keys := by
  rcases List.eq_nil_or_concat keys with rfl | ⟨front, key, rfl⟩
  · rw [dotPath_nil_iff, dotPath_nil_iff, identifierName, identifierName, same]
  · rw [List.concat_eq_append, dotPath_concat_iff, dotPath_concat_iff, memberProperty,
      memberProperty, same]

theorem identifierName_of_isAccess (through : node.IsAccess) : node.identifierName = none := by
  rw [identifierName, unwrap_of_isAccess through]
  rcases through with kind | kind
  · rw [kind]
    rfl
  · rw [kind]
    rfl

/-- An access goes along a path if it has its last key, and its object goes along the rest. -/
theorem dotPath_iff_of_isAccess (through : node.IsAccess) :
    DotPath node start keys ↔
      ∃ front key, keys = front ++ [key] ∧ node.memberProperty = some key ∧
        ∃ object, node.field .object = some object ∧ DotPath object start front := by
  rcases List.eq_nil_or_concat keys with rfl | ⟨front, key, rfl⟩
  · rw [dotPath_nil_iff, identifierName_of_isAccess through]
    simp
  · rw [List.concat_eq_append, dotPath_concat_iff, memberObject_of_isAccess through]
    constructor
    · rintro ⟨property, object, owner, path⟩
      obtain ⟨held, holds, rfl⟩ := Option.map_eq_some_iff.1 owner
      exact ⟨front, key, rfl, property, held, holds, (dotPath_congr held.unwrap_unwrap).1 path⟩
    · rintro ⟨front', key', whole, property, held, holds, path⟩
      obtain ⟨rfl, rfl⟩ := List.concat_inj.1 (by simpa using whole)
      exact ⟨property, held.unwrap, Option.map_eq_some_iff.2 ⟨held, holds, rfl⟩,
        (dotPath_congr held.unwrap_unwrap).2 path⟩

theorem dotPath_iff_of_not_isAccess (ends : ¬node.unwrap.IsAccess) :
    DotPath node start keys ↔ keys = [] ∧ node.identifierName = some start := by
  constructor
  · intro path
    cases path with
    | name named => exact ⟨rfl, named⟩
    | dot property _ _ => exact absurd (.inl (kind_of_memberProperty property)) ends
  · rintro ⟨rfl, named⟩
    exact .name named

/-- A path of dots does not see parentheses. -/
theorem Reparenthesized.dotPath_iff (same : Reparenthesized node node') :
    DotPath node start keys ↔ DotPath node' start keys := by
  induction same generalizing keys with
  | around kind holds _ ih => rw [ih, dotPath_congr (unwrap_of_holds kind holds)]
  | kept kind kind' holds holds' _ ih =>
    rw [dotPath_congr (unwrap_of_holds kind holds), dotPath_congr (unwrap_of_holds kind' holds'),
      ih]
  | access through kind sameKeys holds holds' _ ih =>
    simp only [dotPath_iff_of_isAccess through, dotPath_iff_of_isAccess (through.congr kind), holds,
      holds', memberProperty_congr through kind sameKeys, Option.some.injEq, exists_eq_left', ih]
  | @leaf node node' kind text empty ends =>
    have bare := unwrap_of_empty fun wraps => (empty wraps).1
    have bare' := unwrap_of_empty fun wraps => (empty (kind.symm.trans wraps)).2
    by_cases through : node.IsAccess
    · obtain ⟨absent, absent'⟩ := ends through
      simp [dotPath_iff_of_isAccess through, dotPath_iff_of_isAccess (through.congr kind), absent,
        absent']
    · have ends' : ¬node'.IsAccess := fun through' => through (through'.congr kind.symm)
      rw [dotPath_iff_of_not_isAccess (bare.symm ▸ through), identifierName, bare,
        dotPath_iff_of_not_isAccess (bare'.symm ▸ ends'), identifierName, bare', kind, text]

theorem Reparenthesized.simpleMemberPath_eq (same : Reparenthesized node node') :
    node.simpleMemberPath = node'.simpleMemberPath := by
  refine Option.ext fun path => ?_
  rw [simpleMemberPath_eq_some_iff, simpleMemberPath_eq_some_iff]
  simp only [same.dotPath_iff]

/-- If the keys on the way of an expression are written out, a path of one dot or two is read
exactly where the chain passes dots only and has one key or two, and its text is the name and the
keys of the chain with dots between them. Further parentheses, around the expression or around the
objects on its way, change neither the chain nor the path; nor does it matter where the expression
stands. -/
theorem path_readers_agree :
    (∀ {root : Tree} (node : Node root), node.IsSpelled → ∀ path,
      node.simpleMemberPath = some path ↔
        ∃ start keys, node.memberChain = some (start, keys) ∧ node.PassesDots ∧
          (keys.length = 1 ∨ keys.length = 2) ∧ path = ".".intercalate (start :: keys)) ∧
    (∀ {root other : Tree} (plain : Node root) (wrapped : Node other),
      Reparenthesized plain wrapped →
        plain.memberChain = wrapped.memberChain ∧
          plain.simpleMemberPath = wrapped.simpleMemberPath) ∧
    ∀ {root other : Tree} (here : Node root) (there : Node other),
      here.tree.bare = there.tree.bare → Reparenthesized here there := by
  refine ⟨?_, ?_, ?_⟩
  · intro root node spelled path
    rw [simpleMemberPath_eq_some_iff]
    constructor
    · rintro ⟨start, keys, dots, nonempty, short, rfl⟩
      have chain := dots.memberChain_eq
      rw [dots.map_shownKey spelled] at chain
      have length := List.length_pos_iff.2 nonempty
      exact ⟨start, keys, chain, fun access way => (dots.of_passes way).1, by omega,
        dotted_eq_intercalate start keys⟩
    · rintro ⟨start, keys, chain, dots, length, rfl⟩
      refine ⟨start, keys, dotPath_of_memberChain spelled dots chain, ?_, by omega,
        (dotted_eq_intercalate start keys).symm⟩
      rintro rfl
      simp at length
  · intro root other plain wrapped same
    exact ⟨same.memberChain_eq, same.simpleMemberPath_eq⟩
  · intro root other here there same
    exact reparenthesized_of_bare_eq same

/-- The path `a.b.c`, and the same path as `((((a)).b).c)`. -/
theorem path_readers_agree_two_dots :
    let name (role : Option Role) : Tree :=
      .node { name := "identifier", role := role, text := "a" } []
    let key (text : String) : Tree :=
      .node { name := "property_identifier", role := some .property, text := text } []
    let access (role : Option Role) (object property : Tree) : Tree :=
      .node { name := "member_expression", role := role } [object, property]
    let wrap (role : Option Role) (inner : Tree) : Tree :=
      .node { name := "parenthesized_expression", role := role }
        [.node { name := "(", named := false } [], inner, .node { name := ")", named := false } []]
    let plain := access none (access (some .object) (name (some .object)) (key "b")) (key "c")
    let wrapped := wrap none (access none
      (wrap (some .object) (access none (wrap (some .object) (wrap none (name none))) (key "b")))
      (key "c"))
    (top plain).IsSpelled ∧ (top plain).PassesDots ∧
      (top plain).simpleMemberPath = some "a.b.c" ∧
      (top plain).memberChain = some ("a", ["b", "c"]) ∧
      Reparenthesized (top plain) (top wrapped) ∧
      (top wrapped).simpleMemberPath = some "a.b.c" ∧
      (top wrapped).memberChain = some ("a", ["b", "c"]) := by
  intro name key access wrap plain wrapped
  obtain ⟨reads, unseen, -⟩ := path_readers_agree
  have path : (top plain).simpleMemberPath = some "a.b.c" := by decide +kernel
  have chain : (top plain).memberChain = some ("a", ["b", "c"]) := by decide +kernel
  obtain ⟨start, keys, dots, -⟩ := exists_dotPath_of_simpleMemberPath path
  have shown := (dots.eq_of_chain chain).2
  have spelled : (top plain).IsSpelled := by
    refine dots.isSpelled fun empty => ?_
    have unknown : "?" ∈ ["b", "c"] := shown ▸ List.mem_map_of_mem empty
    simp at unknown
  obtain ⟨-, -, -, passes, -, -⟩ := (reads (top plain) spelled "a.b.c").1 path
  have same : Reparenthesized (top plain) (top wrapped) :=
    .around rfl rfl (.access (.inl rfl) rfl rfl rfl rfl (.around rfl rfl
      (.access (.inl rfl) rfl rfl rfl rfl (.around rfl rfl (.around rfl rfl
        (.leaf rfl rfl nofun nofun))))))
  obtain ⟨sameChain, samePath⟩ := unseen (top plain) (top wrapped) same
  exact ⟨spelled, passes, path, chain, same, samePath ▸ path, sameChain ▸ chain⟩

end SnippetTutor.Node
