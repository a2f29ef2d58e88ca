import SnippetTutor.Text.Utf8
import SnippetTutor.Tree.Basic

/-!
# Outlines

A parser reports a tree by names and byte ranges only. `Outline.resolve` adds what the source
tells about each node: its text, and its position in lines and columns.
-/

namespace SnippetTutor

/-- A syntax tree without the source text. -/
inductive Outline where
  | node (name field : String) (named missing hasError : Bool) (start stop : Nat)
      (below : List Outline)

namespace Outline

/-- Offsets of the line feeds in a source. -/
def lineFeeds (bytes : ByteArray) : List Nat :=
  (bytes.toList.zipIdx.filter fun entry => entry.1 == 10).map Prod.snd

/-- Row and column of an offset: the line feeds before it, and the bytes since the last one. -/
def position (feeds : List Nat) (offset : Nat) : Nat × Nat :=
  let before := feeds.filter (· < offset)
  (before.length, offset - (before.getLast?.map (· + 1)).getD 0)

/-- The text of a range of bytes. -/
def slice (bytes : ByteArray) (start stop : Nat) : String :=
  String.ofList (Text.Utf8.decode (bytes.extract start stop).toList)

mutual

/-- The syntax tree of an outline over its source. -/
def resolve (bytes : ByteArray) (feeds : List Nat) : Outline → Tree
  | node name field named missing hasError start stop below =>
    let place := position feeds start
    let label : Label :=
      { name := name
        role := Role.ofName? field
        named := named
        missing := missing
        hasError := hasError
        start := start
        stop := stop
        row := place.1
        column := place.2
        text := slice bytes start stop }
    .node label (resolveAll bytes feeds below)

/-- The syntax trees of several outlines. -/
def resolveAll (bytes : ByteArray) (feeds : List Nat) : List Outline → List Tree
  | [] => []
  | outline :: rest => resolve bytes feeds outline :: resolveAll bytes feeds rest

end

/-- The syntax tree of an outline over its source. -/
def toTree (source : String) (outline : Outline) : Tree :=
  let bytes := source.toUTF8
  resolve bytes (lineFeeds bytes) outline

end Outline

end SnippetTutor
