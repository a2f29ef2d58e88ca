import SnippetTutor.Json.Basic
import SnippetTutor.Snippet.Outline
import SnippetTutor.Snippet.Reading

/-!
# Parsed trees on the wire

A parser hands over its trees as a list of objects, each with the names of the grammars that
yielded a tree and the outline of the tree. An outline is a list of six: the name of the node, its
field in the parent, three flags in one number (1 for a named node, 2 for a missing one, 4 for one
with an error), the start and the end in bytes, and the outlines below.
-/

namespace SnippetTutor

namespace Outline

mutual

/-- An outline from its wire form. -/
def ofJson? : Json → Option Outline
  | .list items =>
    match items with
    | .text name :: .text field :: .int flags :: .int start :: .int stop :: rest =>
      match belowOf? rest with
      | some below =>
        let flags := flags.toNat
        some (node name field (flags % 2 == 1) (flags / 2 % 2 == 1) (flags / 4 % 2 == 1)
          start.toNat stop.toNat below)
      | none => none
    | _ => none
  | _ => none

/-- The outlines in the last place of a wire form. -/
def belowOf? : List Json → Option (List Outline)
  | [] => none
  | .list items :: _ => listOf? items
  | _ => none

/-- Several outlines. -/
def listOf? : List Json → Option (List Outline)
  | [] => some []
  | json :: rest =>
    match ofJson? json, listOf? rest with
    | some outline, some outlines => some (outline :: outlines)
    | _, _ => none

end

end Outline

namespace Parses

/-- Whether a tree was yielded by a grammar. -/
def isOf (grammar : Grammar) (tree : Json) : Bool :=
  match tree.get? "grammars" with
  | some (.list names) => names.any fun name => name.asText? == some grammar.name
  | _ => false

/-- The trees of a text from their wire form: for each grammar the first of its trees. -/
def ofTrees (trees : List Json) (text : String) : Parses := fun grammar => do
  let tree ← trees.find? (isOf grammar)
  let outline ← (tree.get? "root").bind Outline.ofJson?
  return outline.toTree text

end Parses

end SnippetTutor
