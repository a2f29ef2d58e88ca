import SnippetTutor.Detectors.Arrays
import SnippetTutor.Detectors.Asynchrony
import SnippetTutor.Detectors.Browser
import SnippetTutor.Detectors.Components
import SnippetTutor.Detectors.Control
import SnippetTutor.Detectors.Elements
import SnippetTutor.Detectors.Essentials
import SnippetTutor.Detectors.Functions
import SnippetTutor.Detectors.Hazards
import SnippetTutor.Detectors.Hooks
import SnippetTutor.Detectors.Objects
import SnippetTutor.Detectors.Operators
import SnippetTutor.Detectors.Pitfalls
import SnippetTutor.Detectors.State
import SnippetTutor.Detectors.Strings
import SnippetTutor.Detectors.Values
import SnippetTutor.Detectors.Variables

/-!
# All detectors

The suites in the order in which they run.
-/

namespace SnippetTutor.Detectors

/-- The suites whose detectors look at syntax. -/
def syntacticCollections : List Collection :=
  [Arrays.iteration, Asynchrony.promises, Essentials.essentials, Variables.declarations,
   Functions.functions, Control.loops, Arrays.access, Strings.strings, Objects.objects,
   Values.numbers, Values.json, Operators.operators, Control.branches, Objects.classes,
   Operators.modules, Values.collections, Asynchrony.timers, Values.dates, Strings.patterns,
   Browser.documents, Browser.services, Browser.observers, Pitfalls.pitfalls, Hooks.hooks,
   Elements.elements, Hooks.hookDesign, Components.components, State.state, State.rendering,
   Components.boundaries]

/-- The suites whose detectors follow values. -/
def hazardCollections : List Collection := [Hazards.dataFlow, Hazards.reactDataFlow]

/-- Every suite. -/
def allCollections : List Collection := syntacticCollections ++ hazardCollections

/-- Every rule. -/
def allRules : List (Rule Subject) := allCollections.flatMap Collection.rules

end SnippetTutor.Detectors
