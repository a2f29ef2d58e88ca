import SnippetTutor.Detector.Subject
import SnippetTutor.Linter.Run

/-!
# Configuration

A configuration has sections of named values. The defaults fix which sections and keys there are;
what stands under a key may be anything, and is judged where it is used.

* `Config.defaults` holds every section and key;
* `Limits` are the values of the section on limits, `Linter.Settings` those of the section on the
  linter.
-/

namespace SnippetTutor

/-- Values by section and key. -/
abbrev Config := Keyed (Keyed Json)

namespace Config

/-- How far an analysis goes and how much it reports. -/
def defaultLimits : Keyed Json :=
  [("max_source_bytes", .int (256 * 1024)),
   ("max_tree_depth", .int 400),
   ("max_scan_depth", .int 20),
   ("max_surfaced_issues", .int 5),
   ("max_top_issues", .int 3),
   ("max_prioritized_issues", .int 3),
   ("max_context_items", .int 5)]

/-- How the linter is run. -/
def defaultLinter : Keyed Json :=
  [("enabled", .bool true),
   ("binary", .text "eslint"),
   ("timeout", .int 30),
   ("project_dir", .text ".")]

/-- Where files are. -/
def defaultPaths : Keyed Json :=
  [("curriculum", .text ""), ("error_log", .text "./.codecoach/error.log")]

/-- Every section with its default values. -/
def defaults : Config :=
  [("limits", defaultLimits), ("eslint", defaultLinter), ("paths", defaultPaths)]

/-- The values of a section. -/
def sectionOf (config : Config) (name : String) : Keyed Json := (config.get? name).getD []

/-- A value. -/
def valueOf (config : Config) (name key : String) : Json :=
  ((config.sectionOf name).get? key).getD .null

/-- A configuration as an object of objects. -/
def toJson (config : Config) : Json :=
  .object (config.map fun (name, values) => (name, .object values))

end Config

/-- The limits of an analysis. -/
structure Limits where
  sourceBytes : Bound
  treeDepth : Bound
  scanDepth : Bound
  surfacedIssues : Bound
  topIssues : Bound
  prioritizedIssues : Bound
  contextItems : Bound

namespace Limits

/-- Limits under their keys. -/
def ofMembers (members : Keyed Json) : Limits :=
  let bound (key : String) : Bound := Bound.ofJson ((members.get? key).getD .null)
  { sourceBytes := bound "max_source_bytes"
    treeDepth := bound "max_tree_depth"
    scanDepth := bound "max_scan_depth"
    surfacedIssues := bound "max_surfaced_issues"
    topIssues := bound "max_top_issues"
    prioritizedIssues := bound "max_prioritized_issues"
    contextItems := bound "max_context_items" }

/-- The default limits. -/
def default : Limits := ofMembers Config.defaultLimits

/-- The limits that reading keeps to. -/
def reading (limits : Limits) : ReadingLimits := ⟨limits.sourceBytes, limits.treeDepth⟩

/-- The limits that detectors keep to. -/
def search (limits : Limits) : SearchLimits := ⟨limits.scanDepth, limits.treeDepth⟩

end Limits

end SnippetTutor
