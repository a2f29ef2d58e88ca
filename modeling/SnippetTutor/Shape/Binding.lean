import SnippetTutor.Shape.Expression

/-!
# Declarations and binding patterns

* `declarators`, `declaratorParts` and `enclosingDeclarator` relate declarations to what they bind;
* `patternNames` lists the names that a binding pattern binds. It works off an agenda: a pattern
  is replaced by the patterns inside it, never by keys or default values.
-/

namespace SnippetTutor.Node

variable {root : Tree}

/-- The word that introduces a declaration. -/
def declarationWord (node : Node root) : Option String :=
  if node.kind == .variableDeclaration then some "var"
  else if node.kind == .lexicalDeclaration then
    some ((node.tokens.find? fun token => token == "let" || token == "const").getD "let")
  else none

/-- The declarators of a declaration. -/
def declarators (node : Node root) : List (Node root) :=
  node.children.filter fun child => child.kind == .variableDeclarator

/-- What a declarator binds and what it is bound to. -/
def declaratorParts (node : Node root) : Option (Node root) × Option (Node root) :=
  (node.field .name, node.fieldInside .value)

/-- The name that a declarator binds, if it binds a single one. -/
def declaratorName (node : Node root) : Option String :=
  match node.field .name with
  | some target => if target.kind == .identifier then some target.text else none
  | none => none

/-- The declarator that a node is the initial value of. -/
def enclosingDeclarator (node : Node root) : Option (Node root) :=
  (node.ancestors.find? fun above => above.kind != .parenthesizedExpression).filter fun above =>
    above.kind == .variableDeclarator

/-- The patterns directly inside a binding pattern. -/
def innerPatterns (pattern : Node root) : List (Node root) :=
  match pattern.kind with
  | .pairPattern => (pattern.field .value).toList
  | .assignmentPattern | .objectAssignmentPattern => (pattern.field .left).toList
  | .objectPattern | .arrayPattern | .restPattern => pattern.children
  | _ => []

/-- The name that a pattern binds by itself. -/
def ownName (pattern : Node root) : Option String :=
  match pattern.kind with
  | .identifier | .shorthandPropertyIdentifierPattern => some pattern.text
  | _ => none

theorem field_toList_sublist (node : Node root) (role : Role) :
    (node.field role).toList.Sublist node.offspring := by
  cases found : node.field role with
  | none => exact List.nil_sublist _
  | some below => exact List.singleton_sublist.2 (mem_offspring_of_field found)

theorem innerPatterns_sublist (pattern : Node root) :
    pattern.innerPatterns.Sublist pattern.offspring := by
  unfold innerPatterns
  split
  · exact field_toList_sublist pattern .value
  · exact field_toList_sublist pattern .left
  · exact field_toList_sublist pattern .left
  · exact List.filter_sublist
  · exact List.filter_sublist
  · exact List.filter_sublist
  · exact List.nil_sublist _

/-- The names bound by an agenda of patterns. -/
def boundNames : List (Node root) → List String
  | [] => []
  | pattern :: agenda => pattern.ownName.toList ++ boundNames (pattern.innerPatterns ++ agenda)
termination_by agenda => load agenda
decreasing_by
  rw [load_append, load_cons]
  exact Nat.add_lt_add_right (load_lt_size (innerPatterns_sublist pattern)) _

/-- All names bound by a binding pattern, from left to right. -/
def patternNames (pattern : Node root) : List String := boundNames [pattern]

/-- The names bound by a pattern that may be absent. -/
def namesIn (pattern? : Option (Node root)) : List String := boundNames pattern?.toList

/-- An identifier binds its own text. -/
theorem text_mem_boundNames {pattern : Node root} (kind : pattern.kind = .identifier)
    (agenda : List (Node root)) : pattern.text ∈ boundNames (pattern :: agenda) := by
  rw [boundNames, ownName, kind]
  exact List.mem_append_left _ (List.mem_singleton_self _)

/-- A single name that a declarator binds is among all that it binds. -/
theorem mem_namesIn_of_declaratorName {declarator : Node root} {name : String}
    (named : declarator.declaratorName = some name) : name ∈ namesIn (declarator.field .name) := by
  unfold declaratorName at named
  split at named
  · rename_i target found
    split at named
    · rename_i kind
      cases named
      rw [found]
      exact text_mem_boundNames (eq_of_beq kind) []
    · cases named
  · cases named

end SnippetTutor.Node
