import SnippetTutor.Inference.Aliases

/-!
# Paths of dots

An expression such as `a.b[c].d` is followed down to the name that it starts from in two ways:
`Node.memberChain` goes through dots and brackets as far as they go, `Node.simpleMemberPath` through
one dot or two.

* `Node.DotPath` relates an expression to the name and the keys of a path of dots, of any length;
* `Node.DotPath.memberChain_eq`: the first way goes along every such path;
* `Node.simpleMemberPath_eq_some_iff`: the second way goes along those with one key or two;
* `AliasMap.calledPath_eq_some_iff`: the paths that a mutating call is told to change;
* `AliasMap.mem_candidates_dotted`: the name that a path starts from is asked for its group.
-/

namespace SnippetTutor

namespace Text

/-- A text is split at its first separator. -/
theorem splitChars_append (separator : Char) {front : List Char} (plain : separator ∉ front)
    (rest : List Char) :
    splitChars separator (front ++ separator :: rest) = front :: splitChars separator rest := by
  induction front with
  | nil => simp [splitChars]
  | cons c front ih =>
    simp only [List.mem_cons, not_or] at plain
    rw [List.cons_append, splitChars, ih plain.2]
    simp [Ne.symm plain.1]

theorem split_append (separator : Char) {front : String} (plain : separator ∉ front.toList)
    (rest : String) :
    split separator (front ++ String.singleton separator ++ rest) =
      front :: split separator rest := by
  have chars : (front ++ String.singleton separator ++ rest).toList =
      front.toList ++ separator :: rest.toList := by simp
  rw [split, chars, splitChars_append separator plain, List.map_cons, String.ofList_toList, split]

end Text

namespace Node

variable {root : Tree}

/-! ### Parentheses -/

@[simp] theorem unwrap_unwrap (node : Node root) : node.unwrap.unwrap = node.unwrap := by
  fun_induction unwrap node with
  | case1 node _ inner _ ih => exact ih
  | case2 node wrapped empty => rw [unwrap, if_pos wrapped]; split <;> simp_all
  | case3 node bare => rw [unwrap, if_neg bare]

@[simp] theorem memberProperty_unwrap (node : Node root) :
    node.unwrap.memberProperty = node.memberProperty := by
  simp [memberProperty]

theorem unwrap_of_fieldInside {node below : Node root} {role : Role}
    (found : node.fieldInside role = some below) : below.unwrap = below := by
  obtain ⟨held, -, rfl⟩ := Option.map_eq_some_iff.1 found
  exact unwrap_unwrap held

theorem unwrap_of_callee {call target : Node root} (found : call.callee = some target) :
    target.unwrap = target := by
  unfold callee at found
  split at found <;> exact unwrap_of_fieldInside found

/-! ### Accesses with a dot -/

theorem kind_of_identifierName {node : Node root} {name : String}
    (named : node.identifierName = some name) :
    node.unwrap.kind = .identifier ∧ node.unwrap.text = name := by
  simpa [identifierName] using named

theorem kind_of_memberProperty {node : Node root} {key : String}
    (property : node.memberProperty = some key) : node.unwrap.kind = .memberExpression := by
  by_cases dot : node.unwrap.kind = .memberExpression
  · exact dot
  · simp [memberProperty, dot] at property

/-- An access with a dot is no name. -/
theorem identifierName_of_memberProperty {node : Node root} {key : String}
    (property : node.memberProperty = some key) : node.identifierName = none := by
  simp [identifierName, kind_of_memberProperty property]

/-- A key as it stands in a chain: one that is empty cannot be told. -/
def shownKey (key : String) : String := if key = "" then "?" else key

/-- A mutating method is shown as it is. -/
theorem eq_of_shownKey {key method : String} (mutating : method ∈ AliasMap.mutatingMethods)
    (shown : shownKey key = method) : key = method := by
  unfold shownKey at shown
  split at shown
  · subst shown
    exact absurd mutating (by decide)
  · exact shown

theorem chainKey_of_memberProperty {access : Node root} {key : String}
    (dot : access.kind = .memberExpression) (property : access.memberProperty = some key) :
    access.chainKey = shownKey key := by
  unfold chainKey shownKey
  rw [if_pos (beq_iff_eq.2 dot), property]
  split <;> simp_all

/-! ### The relation -/

/-- An expression goes from a name by dots, along the given keys. -/
inductive DotPath : Node root → String → List String → Prop where
  | name {node : Node root} {start : String} (named : node.identifierName = some start) :
      DotPath node start []
  | dot {node object : Node root} {start key : String} {keys : List String}
      (property : node.memberProperty = some key) (owner : node.unwrap.memberObject = some object)
      (path : DotPath object start keys) : DotPath node start (keys ++ [key])

theorem dotPath_concat_iff {node : Node root} {start key : String} {keys : List String} :
    DotPath node start (keys ++ [key]) ↔
      node.memberProperty = some key ∧
        ∃ object, node.unwrap.memberObject = some object ∧ DotPath object start keys := by
  constructor
  · intro path
    generalize all_eq : keys ++ [key] = all at path
    cases path with
    | name named => simp at all_eq
    | dot property owner path =>
      obtain ⟨rfl, rfl⟩ := List.concat_inj.1 (by simpa using all_eq)
      exact ⟨property, _, owner, path⟩
  · rintro ⟨property, object, owner, path⟩
    exact .dot property owner path

/-- A chain goes along every path of dots. -/
theorem DotPath.memberChain_eq {node : Node root} {start : String} {keys : List String}
    (path : DotPath node start keys) : node.memberChain = some (start, keys.map shownKey) := by
  induction path with
  | name named =>
    obtain ⟨kind, text⟩ := kind_of_identifierName named
    rw [memberChain]
    simp [kind, text]
  | @dot node object start key keys property owner _ ih =>
    -- A chain goes down to the object first and appends the key of the access to its result.
    have kind := kind_of_memberProperty property
    have chainKey := chainKey_of_memberProperty kind (node.memberProperty_unwrap.trans property)
    rw [memberChain]
    simp only [kind, beq_self_eq_true, Bool.true_or, if_true]
    split
    · rename_i object' owner'
      rw [owner] at owner'
      cases owner'
      simp [ih, chainKey]
    · rename_i absent
      rw [owner] at absent
      cases absent

theorem DotPath.eq_of_chain {node : Node root} {start start' : String} {keys parts : List String}
    (path : DotPath node start' keys) (chain : node.memberChain = some (start, parts)) :
    start' = start ∧ keys.map shownKey = parts := by
  rw [path.memberChain_eq] at chain
  cases chain
  exact ⟨rfl, rfl⟩

/-- An expression that goes from a name by dots. -/
def IsDotted (node : Node root) : Prop := ∃ start keys, DotPath node start keys

/-! ### Paths of one dot or two -/

/-- The text of a path. -/
def dotted (start : String) (keys : List String) : String :=
  keys.foldl (fun path key => path ++ "." ++ key) start

theorem exists_dotPath_of_simpleMemberPath {node : Node root} {text : String}
    (found : node.simpleMemberPath = some text) :
    ∃ start keys, DotPath node start keys ∧ keys ≠ [] ∧ keys.length ≤ 2 ∧
      text = dotted start keys := by
  simp only [simpleMemberPath, memberProperty_unwrap] at found
  cases property : node.memberProperty with
  | none => simp [property] at found
  | some key =>
    cases owner : node.unwrap.memberObject with
    | none => simp [property, owner] at found
    | some object =>
      cases named : object.identifierName with
      | some start =>
        have text_eq : start ++ "." ++ key = text := by simpa [property, owner, named] using found
        exact ⟨start, [key], .dot property owner (.name named), by simp, by simp, text_eq.symm⟩
      | none =>
        -- No name is there, so the object must be an access with a dot to a name.
        cases below : object.memberObject.bind identifierName with
        | none => simp [property, owner, named, below] at found
        | some start =>
          cases first : object.memberProperty with
          | none => simp [property, owner, named, first] at found
          | some middle =>
            have kind := kind_of_memberProperty first
            rw [unwrap_of_fieldInside owner] at kind
            have text_eq : start ++ "." ++ middle ++ "." ++ key = text := by
              simpa [property, owner, named, kind, below, first] using found
            obtain ⟨inner, innerOwner, innerNamed⟩ := Option.bind_eq_some_iff.1 below
            rw [← unwrap_of_fieldInside owner] at innerOwner
            have path : DotPath object start [middle] := .dot first innerOwner (.name innerNamed)
            exact ⟨start, [middle, key], .dot property owner path, by simp, by simp, text_eq.symm⟩

theorem DotPath.simpleMemberPath_eq {node : Node root} {start : String} {keys : List String}
    (path : DotPath node start keys) (nonempty : keys ≠ []) (short : keys.length ≤ 2) :
    node.simpleMemberPath = some (dotted start keys) := by
  simp only [simpleMemberPath, memberProperty_unwrap]
  cases path with
  | name named => exact absurd rfl nonempty
  | dot property owner path =>
    cases path with
    | name named => simp [property, owner, named, dotted]
    | dot property' owner' path =>
      have kind := kind_of_memberProperty property'
      rw [unwrap_of_fieldInside owner] at kind owner'
      cases path with
      | name named =>
        simp [property, owner, identifierName_of_memberProperty property', kind, owner', named,
          property', dotted]
      | dot property'' owner'' path => simp at short

/-- The second way of following an expression goes along the paths with one key or two. -/
theorem simpleMemberPath_eq_some_iff {node : Node root} {text : String} :
    node.simpleMemberPath = some text ↔
      ∃ start keys, DotPath node start keys ∧ keys ≠ [] ∧ keys.length ≤ 2 ∧
        text = dotted start keys := by
  constructor
  · exact exists_dotPath_of_simpleMemberPath
  · rintro ⟨start, keys, path, nonempty, short, rfl⟩
    exact path.simpleMemberPath_eq nonempty short

end Node

namespace AliasMap

open Node (DotPath dotted)

variable {root : Tree}

/-! ### Paths that calls change -/

/-- The path to the object of a call: a name, or an access with a dot or two. -/
def objectPath (object : Node root) : Option String :=
  match object.identifierName with
  | some "" => object.simpleMemberPath
  | some name => some name
  | none => object.simpleMemberPath

theorem objectPath_of_named {object : Node root} {name : String}
    (named : object.identifierName = some name) (nonempty : name ≠ "") :
    objectPath object = some name := by
  unfold objectPath
  rw [named]
  split <;> simp_all

theorem objectPath_of_unnamed {object : Node root}
    (unnamed : ∀ name, object.identifierName = some name → name = "") :
    objectPath object = object.simpleMemberPath := by
  unfold objectPath
  split
  · rfl
  · rename_i name nonempty named
    exact absurd (unnamed name named) nonempty
  · rfl

theorem objectPath_eq_some_iff {object : Node root} {text : String} :
    objectPath object = some text ↔
      ∃ start keys, DotPath object start keys ∧ keys.length ≤ 2 ∧ (keys = [] → start ≠ "") ∧
        text = dotted start keys := by
  constructor
  · intro found
    by_cases named : ∃ name, object.identifierName = some name ∧ name ≠ ""
    · obtain ⟨name, named, nonempty⟩ := named
      rw [objectPath_of_named named nonempty] at found
      cases found
      exact ⟨_, [], .name named, Nat.zero_le 2, fun _ => nonempty, rfl⟩
    · rw [objectPath_of_unnamed (by simpa using named)] at found
      obtain ⟨start, keys, path, nonempty, short, rfl⟩ := Node.simpleMemberPath_eq_some_iff.1 found
      exact ⟨start, keys, path, short, fun empty => absurd empty nonempty, rfl⟩
  · rintro ⟨start, keys, path, short, named, rfl⟩
    cases path with
    | name identifier => exact objectPath_of_named identifier (named rfl)
    | dot property owner path =>
      rw [objectPath_of_unnamed (by simp [Node.identifierName_of_memberProperty property])]
      exact (Node.DotPath.dot property owner path).simpleMemberPath_eq (by simp) short

theorem methodCall_eq_iff {call object : Node root} {method : String} :
    call.methodCall = (some object, some method) ↔
      ∃ target, call.callee = some target ∧ target.memberProperty = some method ∧
        target.memberObject = some object := by
  unfold Node.methodCall
  cases called : call.callee with
  | none => simp
  | some target =>
    have bare := Node.unwrap_of_callee called
    by_cases dot : target.kind = .memberExpression
    · simp [dot, and_comm]
    · simp [dot, Node.memberProperty, bare]

/-- A call changes a path of dots whose last key is a mutating method. -/
theorem calledPath_eq_some_iff {call : Node root} {text : String} :
    calledPath call = some text ↔
      ∃ target start keys method, call.callee = some target ∧
        DotPath target start (keys ++ [method]) ∧ method ∈ mutatingMethods ∧ keys.length ≤ 2 ∧
        (keys = [] → start ≠ "") ∧ text = dotted start (keys ++ [method]) := by
  constructor
  · intro found
    unfold calledPath at found
    split at found
    · rename_i object method called
      obtain ⟨target, callee, property, owner⟩ := methodCall_eq_iff.1 called
      split at found
      · rename_i mutating
        obtain ⟨path, object_eq, rfl⟩ := Option.map_eq_some_iff.1 found
        obtain ⟨start, keys, path, short, named, rfl⟩ := objectPath_eq_some_iff.1 object_eq
        rw [← Node.unwrap_of_callee callee] at owner
        refine ⟨target, start, keys, method, callee, .dot property owner path,
          List.contains_iff_mem.1 mutating, short, named, ?_⟩
        simp [dotted]
      · cases found
    · cases found
  · rintro ⟨target, start, keys, method, callee, path, mutating, short, named, rfl⟩
    obtain ⟨property, object, owner, path⟩ := Node.dotPath_concat_iff.1 path
    rw [Node.unwrap_of_callee callee] at owner
    have called := methodCall_eq_iff.2 ⟨target, callee, property, owner⟩
    have object_eq := objectPath_eq_some_iff.2 ⟨start, keys, path, short, named, rfl⟩
    unfold calledPath
    rw [called]
    simp only [List.contains_iff_mem.2 mutating, if_true]
    exact Option.map_eq_some_iff.2 ⟨_, object_eq, by simp [dotted]⟩

/-! ### The name that a path starts from -/

theorem dotted_append (front start : String) (keys : List String) :
    dotted (front ++ start) keys = front ++ dotted start keys := by
  induction keys generalizing start with
  | nil => rfl
  | cons key keys ih =>
    show dotted (front ++ start ++ "." ++ key) keys = front ++ dotted (start ++ "." ++ key) keys
    rw [← ih, String.append_assoc, String.append_assoc, String.append_assoc]

/-- A name without a dot in it is asked for its group when a path from it is changed. -/
theorem mem_candidates_dotted {start : String} (plain : '.' ∉ start.toList) {keys : List String}
    (nonempty : keys ≠ []) : start ∈ candidates (dotted start keys) := by
  cases keys with
  | nil => exact absurd rfl nonempty
  | cons key keys =>
    have parts : Text.split '.' (dotted start (key :: keys)) =
        start :: Text.split '.' (dotted key keys) := by
      rw [← Text.split_append '.' plain, ← dotted_append]
      rfl
    unfold candidates
    rw [parts]
    split <;> simp_all

end AliasMap

end SnippetTutor
