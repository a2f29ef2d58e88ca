import SnippetTutor.Detectors.Hazards.Complexity
import SnippetTutor.Detectors.Hazards.Lifetime
import SnippetTutor.Detectors.Hazards.Misuse

/-!
# Suites of hazards

* `dataFlow`: what can go wrong with the values of any snippet;
* `reactDataFlow`: what can go wrong with the state and the effects of a component.
-/

namespace SnippetTutor.Detectors.Hazards

/-- Detectors of hazards in the flow of data. -/
def dataFlow : Collection where
  suite :=
    { name := "data_flow"
      category := "data-flow"
      order := 400
      home := "codecoach.rules.dataflow.data_flow"
      origin := .dataflow }
  detectors :=
    [.hazards "find_object_reference_sharing" "object-reference-sharing" sharedReferences,
     .hazards "find_nested_ternary" "nested-ternary" nestedConditionals,
     .fallibleHazards "find_deep_nesting" "deep-nesting" deepNesting,
     .hazards "find_long_parameter_list" "long-parameter-list" longParameterLists,
     .hazards "find_object_spread_missing" "object-spread-missing" missingSpreads,
     .hazards "find_array_method_no_return" "array-method-no-return" lostResults,
     .fallibleHazards "find_var_used_before_init" "var-used-before-init" earlyUses,
     .hazards "find_array_as_object" "array-as-object" arrayDictionaries,
     .hazards "find_loop_bounds_off_by_one" "loop-bounds-off-by-one" overruns,
     .hazards "find_string_arithmetic_coercion" "string-arithmetic-coercion" stringArithmetic,
     .hazards "find_shallow_copy_nested_mutation" "shallow-copy-nested-mutation" nestedMutations,
     .hazards "find_array_self_mutation_in_iteration" "array-self-mutation-in-iteration"
       selfMutations]

/-- Detectors of hazards in components. -/
def reactDataFlow : Collection where
  suite :=
    { name := "react_data_flow"
      category := "data-flow"
      order := 410
      home := "codecoach.rules.dataflow.react_data_flow"
      requiresReact := true
      origin := .dataflow }
  detectors :=
    [.hazards "find_state_mutation_react" "state-mutation-react" stateMutations,
     .hazards "find_missing_cleanup_effect" "missing-cleanup-effect" missingCleanups]

end SnippetTutor.Detectors.Hazards
