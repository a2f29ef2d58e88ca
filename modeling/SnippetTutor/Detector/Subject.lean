import SnippetTutor.Detector.Basic
import SnippetTutor.Snippet.Reading

/-!
# What rules look at

The subject of a reading holds everything inferred from its tree. A reading of nothing has an
empty tree as its subject, in which no detector finds anything.
-/

namespace SnippetTutor

/-- How far rules look. -/
structure SearchLimits where
  scanDepth : Bound
  treeDepth : Bound

namespace Subject

/-- The subject of an indexed tree. -/
def ofParsed (limits : SearchLimits) (parsed : Parsed) : Subject :=
  let types := TypeMap.build parsed.index
  { root := parsed.root
    context :=
      { index := parsed.index
        types := types
        aliases := AliasMap.build parsed.index types
        scanDepth := limits.scanDepth
        treeDepth := limits.treeDepth } }

/-- The subject without any construct. -/
def blank (limits : SearchLimits) : Subject where
  root := .node { name := "" } []
  context :=
    { index := {}
      scanDepth := limits.scanDepth
      treeDepth := limits.treeDepth }

/-- The subject of a reading. -/
def ofReading (limits : SearchLimits) (reading : Reading) : Subject :=
  match reading.parsed with
  | some parsed => ofParsed limits parsed
  | none => blank limits

end Subject

end SnippetTutor
