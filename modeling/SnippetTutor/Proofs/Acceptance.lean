import SnippetTutor.Proofs.Assembly

/-!
# When an analysis comes to an end

An analysis turns whatever goes wrong with the source, its trees, the detectors or the linter into
diagnostics. What remains is the configuration: its sections are merged with the defaults, and the
issues are cut to the number of those shown first, where nothing catches a fault.

* `Config.IsUsable` is the condition on a configuration;
* `Task.sectionValues_eq_ok` says when a section can be merged, `Bound.exists_cut_iff` when a list
  can be cut;
* `Task.analyze_ends_iff`: an analysis comes to an end exactly when its configuration is usable,
  whatever the rest of the task is.
-/

namespace SnippetTutor

/-- Neither the sections that an analysis reads nor the number of issues shown first can make it
fail. Of several values under a key the last one counts. -/
structure Config.IsUsable (config : Keyed Json) : Prop where
  limits : ∀ value, config.get? "limits" = some value → ∃ members, value = .object members
  linter : ∀ value, config.get? "eslint" = some value → ∃ members, value = .object members
  topIssues : ∀ members, config.get? "limits" = some (.object members) →
    ∀ value, Keyed.get? members.reverse "max_top_issues" = some value →
      value = .null ∨ value.isWhole = true

/-- A list can be cut to nothing but a whole number of items, or left as it is. -/
theorem Bound.exists_cut_iff {α : Type} (json : Json) (items : List α) :
    (∃ part, (Bound.ofJson json).cut items = .ok part) ↔ json = .null ∨ json.isWhole = true := by
  constructor
  · rintro ⟨part, cut⟩
    cases json with
    | null => exact .inl rfl
    | bool value => exact .inr rfl
    | int value => exact .inr rfl
    | real value => cases cut
    | text value => cases cut
    | list items => cases cut
    | object members => cases cut
  · rintro (rfl | whole)
    · exact ⟨items, rfl⟩
    · exact Bound.exists_cut whole items

namespace Task

/-- A section is merged with the defaults if it is an object or not there. -/
theorem sectionValues_eq_ok {config defaults values : Keyed Json} {name : String} :
    sectionValues config name defaults = .ok values ↔
      config.get? name = none ∧ values = defaults ∨
        ∃ members, config.get? name = some (.object members) ∧
          values = defaults.putAll members := by
  unfold sectionValues
  cases config.get? name with
  | none => simp [eq_comm]
  | some value => cases value <;> simp [eq_comm]

theorem exists_sectionValues_iff (config : Keyed Json) (name : String) (defaults : Keyed Json) :
    (∃ values, sectionValues config name defaults = .ok values) ↔
      ∀ value, config.get? name = some value → ∃ members, value = .object members := by
  simp only [sectionValues_eq_ok]
  cases config.get? name with
  | none => simp
  | some value => simp

/-- An analysis comes to an end exactly when its configuration is usable. -/
theorem analyze_ends_iff (task : Task) :
    (∃ analysis, task.analyze = .ok analysis) ↔ Config.IsUsable task.config := by
  constructor
  · rintro ⟨analysis, ended⟩
    obtain ⟨limits, limited, ended⟩ := bind_eq_ok.1 ended
    obtain ⟨settings, set, ended⟩ := bind_eq_ok.1 ended
    obtain ⟨topIssues, cut, -⟩ := map_eq_ok.1 ended
    obtain ⟨values, merged, rfl⟩ := map_eq_ok.1 limited
    obtain ⟨linterValues, linterMerged, -⟩ := map_eq_ok.1 set
    refine ⟨(exists_sectionValues_iff _ _ _).1 ⟨values, merged⟩,
      (exists_sectionValues_iff _ _ _).1 ⟨linterValues, linterMerged⟩, ?_⟩
    intro members given value found
    rw [sectionValues, given] at merged
    cases merged
    rw [Analysis.firstIssues, Limits.topIssues_ofMembers, found] at cut
    exact (Bound.exists_cut_iff value _).1 ⟨topIssues, cut⟩
  · intro usable
    obtain ⟨values, merged⟩ := (exists_sectionValues_iff _ _ _).2 usable.limits
    obtain ⟨linterValues, linterMerged⟩ := (exists_sectionValues_iff _ _ _).2 usable.linter
    refine exists_analysis_of_cut (map_eq_ok.2 ⟨values, merged, rfl⟩)
      (map_eq_ok.2 ⟨linterValues, linterMerged, rfl⟩) fun issues => ?_
    rcases sectionValues_eq_ok.1 merged with ⟨-, rfl⟩ | ⟨members, given, rfl⟩
    · exact ⟨_, rfl⟩
    · rw [Limits.topIssues_ofMembers, Bound.exists_cut_iff]
      cases found : Keyed.get? members.reverse "max_top_issues" with
      | none => exact .inr rfl
      | some value => exact usable.topIssues members given value found

/-- An empty snippet, with the number of issues shown first in quotes. -/
theorem analyze_fails_on_quoted_number :
    let task : Task :=
      { source := .text ""
        parses := fun _ => some (.node { name := "program" } [])
        config := [("limits", .object [("max_top_issues", .text "3")])]
        linting := some false }
    task.analyze = .error ⟨.mismatch, "slice indices must be integers"⟩ := by
  rfl

end Task

end SnippetTutor
