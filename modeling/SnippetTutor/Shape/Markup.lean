import SnippetTutor.Shape.Function
import SnippetTutor.Text.UpperCase

/-!
# Markup

Elements embedded in code: their tag, their attributes and the elements directly below them.
-/

namespace SnippetTutor

/-- An attribute of an element. -/
structure Attribute (root : Tree) where
  name : String
  value : Option (Node root)
  node : Node root

namespace Node

variable {root : Tree}

/-- Constructs that are markup elements. -/
def markupKinds : List Kind := [.jsxElement, .jsxSelfClosingElement, .jsxFragment]

/-- Whether a construct is a markup element. -/
def isMarkup (node : Node root) : Bool := node.isOneOf markupKinds

/-- The tag that holds the name and the attributes of an element. -/
def openingTag (node : Node root) : Option (Node root) :=
  if node.kind == .jsxSelfClosingElement then some node
  else if node.kind == .jsxElement then
    (node.field .openTag).or
      (node.children.find? fun child => child.kind == .jsxOpeningElement)
  else none

/-- The tag name of an element; empty for a fragment. -/
def tagName (node : Node root) : String :=
  ((node.openingTag.bind fun tag => tag.field .name).map text).getD ""

/-- An attribute; nothing for an attribute without any part. -/
def attribute? (node : Node root) : Option (Attribute root) :=
  if node.kind == .jsxAttribute then
    match node.children with
    | [] => none
    | name :: rest => some ⟨name.text, rest.head?, node⟩
  else none

/-- The attributes of an element. -/
def attributes (node : Node root) : List (Attribute root) :=
  (childrenOf node.openingTag).filterMap attribute?

/-- The attribute with the given name. -/
def attributeNamed (node : Node root) (name : String) : Option (Attribute root) :=
  node.attributes.find? fun candidate => candidate.name == name

/-- The expression inside the braces of an attribute value, or the value itself. -/
def valueExpression (value? : Option (Node root)) : Option (Node root) :=
  value?.bind fun value => if value.kind == .jsxExpression then value.firstExpression else some value

/-- The elements directly below an element. -/
def childElements (node : Node root) : List (Node root) := node.children.filter isMarkup

end Node

/-- Whether a name is that of a hook: `use` and a capital letter. -/
def isHookName (name : String) : Bool :=
  match name.toList with
  | 'u' :: 's' :: 'e' :: c :: _ => 'A' ≤ c && c ≤ 'Z'
  | _ => false

/-- Whether a name starts with an upper-case letter. -/
def isCapitalized (name : String) : Bool :=
  match name.toList with
  | c :: _ => Text.isUpperCase c
  | [] => false

end SnippetTutor
