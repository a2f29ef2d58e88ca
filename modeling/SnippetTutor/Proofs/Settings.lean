import SnippetTutor.Analysis.Pipeline
import SnippetTutor.Proofs.Success

/-!
# Configurations with whole limits

A configuration has sections of named values. As long as the values in the section on limits are
whole numbers, whatever stands in the other sections, the limits of an analysis and the settings of
the linter can be read, and lists can be cut to a limit.

* `Config.HasWholeLimits` is the condition;
* `Task.exists_limits` and `Task.exists_linterSettings` read the two sections.
-/

namespace SnippetTutor

/-- Whether a value counts as a whole number; truth values do. -/
def Json.isWhole : Json → Bool
  | .int _ | .bool _ => true
  | _ => false

namespace Config

/-- The limits that a configuration sets are whole numbers. -/
def HasWholeLimits (config : Config) : Prop :=
  ∀ entry ∈ config.sectionOf "limits", entry.2.isWhole = true

instance (config : Config) : Decidable config.HasWholeLimits :=
  inferInstanceAs (Decidable (∀ entry ∈ config.sectionOf "limits", entry.2.isWhole = true))

/-- The sections of a configuration are objects. -/
theorem get?_sections (config : Config) (name : String) :
    Keyed.get? (config.map fun (name, values) => (name, Json.object values)) name =
      (Keyed.get? config name).map Json.object :=
  Keyed.get?_map (fun _ => Json.object) config name

end Config

/-- The number of issues shown first, when some limits are set in place of the defaults. -/
theorem Limits.topIssues_ofMembers (members : Keyed Json) :
    (Limits.ofMembers (Config.defaultLimits.putAll members)).topIssues =
      Bound.ofJson ((Keyed.get? members.reverse "max_top_issues").getD (.int 3)) := by
  show Bound.ofJson (Option.getD _ _) = _
  rw [Keyed.get?_putAll]
  cases Keyed.get? members.reverse "max_top_issues" <;> rfl

/-- A list can be cut to a limit that is a whole number. -/
theorem Bound.exists_cut {α : Type} {json : Json} (whole : json.isWhole = true)
    (items : List α) : ∃ part, (Bound.ofJson json).cut items = .ok part := by
  cases json with
  | bool value => exact ⟨_, rfl⟩
  | int value => exact ⟨_, rfl⟩
  | null => cases whole
  | real value => cases whole
  | text value => cases whole
  | list items => cases whole
  | object members => cases whole

namespace Task

variable {task : Task} {config : Config}

/-- A section of a configuration replaces the defaults. -/
theorem sectionValues_eq (given : config.toJson = .object task.config) (name : String)
    (defaults : Keyed Json) :
    sectionValues task.config name defaults = .ok (defaults.putAll (config.sectionOf name)) := by
  have sections : task.config = config.map fun (name, values) => (name, Json.object values) :=
    (Json.object.inj given).symm
  unfold sectionValues Config.sectionOf
  rw [sections, Config.get?_sections]
  cases Keyed.get? config name <;> rfl

/-- The limits can be read, and a list can be cut to the number of issues that are shown first. -/
theorem exists_limits (given : config.toJson = .object task.config)
    (whole : config.HasWholeLimits) :
    ∃ limits, task.limits = .ok limits ∧
      ∀ issues : List Detection, ∃ part, limits.topIssues.cut issues = .ok part := by
  refine ⟨_, by rw [Task.limits, sectionValues_eq given]; rfl, ?_⟩
  intro issues
  rw [Limits.topIssues_ofMembers]
  apply Bound.exists_cut
  cases found : Keyed.get? (config.sectionOf "limits").reverse "max_top_issues" with
  | none => rfl
  | some json => exact whole _ (List.mem_reverse.1 (Keyed.mem_of_get? found))

/-- The settings of the linter can be read, whatever they are. -/
theorem exists_linterSettings (given : config.toJson = .object task.config) :
    ∃ settings, task.linterSettings = .ok settings := by
  rw [linterSettings, sectionValues_eq given]
  exact ⟨_, rfl⟩

end Task

end SnippetTutor
