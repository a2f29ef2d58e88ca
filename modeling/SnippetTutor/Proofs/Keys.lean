import Mathlib.Data.List.Count
import Mathlib.Data.List.Pairwise
import SnippetTutor.Detectors.Elements
import SnippetTutor.Proofs.Regions
import SnippetTutor.Proofs.ReturnChecks

/-!
# Keys in nested lists

The check of keys goes through the calls of `map` one after the other, and through everything inside
the callback of each. An element inside several callbacks is judged for each of them, and every time
the name that counts as the position in the list is that of the callback at hand. So a key that is
the position in an inner list is an ordinary key to the call for the outer list.

* `count_sites_keys`: an element is judged as often as there are calls that render it;
* `GoesThrough`: one callback stands inside another, which is the only way to render an element
  twice (`goesThrough_of_mem_rendered`, `nodup_flatMap_rendered_iff`);
* `lacksKey_differs_iff`: the keys that count for one callback and not for another;
* `keys_judged_once_iff` puts this together.
-/

namespace SnippetTutor

variable {root : Tree} {context : Context root}

/-- The calls of a method are found among all calls by its name. -/
theorem Context.methodCallsOf_eq (context : Context root) (name : String) :
    context.methodCallsOf name =
      (context.ofKind .callExpression).filter fun call => call.methodName == some name := by
  rw [methodCallsOf, methodCalls, named, List.map_filterMap, ← List.filterMap_eq_filter]
  refine List.filterMap_congr fun call _ => ?_
  rw [Option.guard]
  cases call.methodName with
  | none => rfl
  | some method => by_cases same : method = name <;> simp [same]

theorem Context.nodup_methodCallsOf (distinct : context.index.nodes.Nodup) (name : String) :
    (context.methodCallsOf name).Nodup := by
  rw [methodCallsOf_eq]
  exact (distinct.filter _).filter _

namespace Detectors.Elements

variable {call outer inner element : Node root} {calls : List (Node root)}
  {position : Option String}

/-! ### Rendered elements -/

/-- The body of the function that is given to a call. -/
def callbackBody (call : Node root) : Option (Node root) :=
  call.arguments.head?.bind Node.functionBody

/-- The name that the function given to a call has for the position in the list. -/
def positionName (call : Node root) : Option String :=
  call.arguments.head?.bind fun callback => callback.parameters[1]?.bind Parameter.name

/-- The elements inside the function that is given to a call. -/
def rendered (call : Node root) : List (Node root) :=
  (callbackBody call).toList.flatMap fun body => body.descendants.filter Node.isElement

theorem mem_rendered_iff :
    element ∈ rendered call ↔
      ∃ body, callbackBody call = some body ∧ element ∈ body.descendants ∧
        element.isElement = true := by
  simp only [rendered, List.mem_flatMap, Option.mem_toList, List.mem_filter]

theorem nodup_rendered (call : Node root) : (rendered call).Nodup := by
  unfold rendered
  cases callbackBody call with
  | none => exact List.nodup_nil
  | some body =>
    rw [Option.toList_some, List.flatMap_singleton]
    exact (Node.nodup_walk body).filter _

/-- All elements that a call renders are judged by the name that this call has for the position. -/
theorem keys_eq (context : Context root) :
    keys context =
      (context.methodCallsOf "map").flatMap fun call =>
        (rendered call).map (judgeKey (positionName call)) := by
  refine List.flatMap_congr fun call _ => ?_
  rw [rendered, callbackBody, positionName]
  cases call.arguments.head? with
  | none => rfl
  | some callback =>
    rw [Option.toList_some, List.flatMap_singleton, judgeKeys, Option.bind_some, Option.bind_some]
    cases callback.functionBody with
    | none => rfl
    | some body => rw [Option.toList_some, List.flatMap_singleton]

theorem site_judgeKey (position : Option String) (element : Node root) :
    (judgeKey position element).site = some element := by
  unfold judgeKey
  split
  · rfl
  · split <;> rfl

theorem sites_keys (context : Context root) :
    (keys context).map Finding.site =
      ((context.methodCallsOf "map").flatMap rendered).map some := by
  rw [keys_eq, List.map_flatMap, List.map_flatMap]
  refine List.flatMap_congr fun call _ => ?_
  rw [List.map_map]
  exact List.map_congr_left fun element _ => site_judgeKey _ element

/-- Each call renders an element once or not at all. -/
theorem count_flatMap_rendered (calls : List (Node root)) (element : Node root) :
    (calls.flatMap rendered).count element =
      calls.countP fun call => element ∈ rendered call := by
  induction calls with
  | nil => rfl
  | cons call rest ih =>
    rw [List.flatMap_cons, List.count_append, (nodup_rendered call).count, ih, List.countP_cons,
      Nat.add_comm]
    simp only [decide_eq_true_eq]

/-- An element is judged once for every call that renders it. -/
theorem count_sites_keys (context : Context root) (element : Node root) :
    ((keys context).map Finding.site).count (some element) =
      (context.methodCallsOf "map").countP fun call => element ∈ rendered call := by
  rw [sites_keys, List.count_map_of_injective _ _ (Option.some_injective _),
    count_flatMap_rendered]

/-! ### Callbacks inside callbacks -/

/-- Inside the function that is given to one call stands the body of the one given to another. -/
def GoesThrough (outer inner : Node root) : Prop :=
  ∃ body inside, callbackBody outer = some body ∧ callbackBody inner = some inside ∧
    inside ∈ body.descendants

/-- A construct is the body of the function for one call at most. -/
theorem eq_of_callbackBody {body : Node root} (found : callbackBody outer = some body)
    (found' : callbackBody inner = some body) : outer = inner := by
  have given : ∀ {call callback : Node root}, call.arguments.head? = some callback →
      ∃ list, list ∈ call.offspring ∧ callback ∈ list.offspring := by
    intro call callback head
    have member := List.mem_of_head? head
    unfold Node.arguments at member
    split at member
    · rename_i list field
      split at member
      · exact ⟨list, Node.mem_offspring_of_field field, Node.mem_offspring_of_mem_children member⟩
      · cases member
    · cases member
  -- From the body the way goes up to the function, the list of arguments and the call.
  obtain ⟨callback, head, below⟩ := Option.bind_eq_some_iff.1 found
  obtain ⟨callback', head', below'⟩ := Option.bind_eq_some_iff.1 found'
  obtain rfl : callback = callback' :=
    Node.eq_of_mem_offspring (Node.mem_offspring_of_field below)
      (Node.mem_offspring_of_field below')
  obtain ⟨list, held, listed⟩ := given head
  obtain ⟨list', held', listed'⟩ := given head'
  obtain rfl : list = list' := Node.eq_of_mem_offspring listed listed'
  exact Node.eq_of_mem_offspring held held'

/-- What is rendered for a call is rendered for every call that goes through it. -/
theorem GoesThrough.mem_rendered (through : GoesThrough outer inner)
    (member : element ∈ rendered inner) : element ∈ rendered outer := by
  obtain ⟨body, inside, found, found', below⟩ := through
  obtain ⟨other, same, met, kind⟩ := mem_rendered_iff.1 member
  cases found'.symm.trans same
  exact mem_rendered_iff.2 ⟨body, found, Node.mem_descendants_trans met below, kind⟩

/-- Of two calls that render the same element, one goes through the other. -/
theorem goesThrough_of_mem_rendered (differ : outer ≠ inner) (member : element ∈ rendered outer)
    (member' : element ∈ rendered inner) : GoesThrough outer inner ∨ GoesThrough inner outer := by
  obtain ⟨body, found, met, -⟩ := mem_rendered_iff.1 member
  obtain ⟨inside, found', met', -⟩ := mem_rendered_iff.1 member'
  have within := (Node.mem_descendants_iff.1 met).1
  have within' := (Node.mem_descendants_iff.1 met').1
  have below : ∀ {low high : Node root}, element ∈ high.descendants → low ∈ element.lineage →
      high ∈ low.ancestors → low ∈ high.descendants := by
    intro low high met within above
    rcases Node.mem_lineage_iff.1 within with rfl | higher
    · exact met
    · exact Node.mem_descendants_of_between met higher above
  -- Both bodies are in the lineage of the element, so one of them is above the other.
  rcases Node.eq_or_above_of_mem_lineage within within' with rfl | above | above
  · exact absurd (eq_of_callbackBody found found') differ
  · exact .inl ⟨body, inside, found, found', below met within' above⟩
  · exact .inr ⟨inside, body, found', found, below met' within above⟩

/-- No element is rendered twice exactly if calls that render something stand inside no other. -/
theorem nodup_flatMap_rendered_iff (distinct : calls.Nodup) :
    (calls.flatMap rendered).Nodup ↔
      ∀ outer ∈ calls, ∀ inner ∈ calls, outer ≠ inner → GoesThrough outer inner →
        rendered inner = [] := by
  rw [List.nodup_flatMap, and_iff_right fun call _ => nodup_rendered call]
  constructor
  · intro apart outer listed inner listed' differ through
    have : Std.Symm (Function.onFun List.Disjoint (@rendered root)) :=
      ⟨fun _ _ => List.disjoint_symm⟩
    refine List.eq_nil_iff_forall_not_mem.2 fun element member => ?_
    exact apart.forall listed listed' differ (through.mem_rendered member) member
  · intro empty
    refine distinct.pairwise_of_forall_ne ?_
    intro outer listed inner listed' differ element member member'
    rcases goesThrough_of_mem_rendered differ member member' with through | through
    · rw [empty outer listed inner listed' differ through] at member'
      cases member'
    · rw [empty inner listed' outer listed differ.symm through] at member
      cases member

/-! ### Verdicts -/

/-- A finding against the code at a construct. -/
def Blames (findings : List (Finding root)) (node : Node root) : Prop :=
  ∃ finding ∈ findings, finding.site = some node ∧ finding.verdict.negative = true

/-- The name that the key of an element consists of. -/
def keyName (element : Node root) : Option String :=
  (element.attributeNamed "key").bind fun attr => (Node.bracedValue attr.value).bind Node.plainName

/-- A name counts as the position in a list, given the name that a callback has for it. -/
def IsPosition (position : Option String) (name : String) : Prop :=
  some name = position ∨ name = "index" ∨ name = "i"

theorem keyOrigin_eq_position_iff {value? : Option (Node root)} :
    keyOrigin position value? = .position ↔
      ∃ name, (Node.bracedValue value?).bind Node.plainName = some name ∧
        IsPosition position name := by
  unfold keyOrigin
  cases Node.bracedValue value? with
  | none => simp
  | some value =>
    rw [Option.bind_some, Node.plainName]
    dsimp only
    split
    · simp only [Option.some.injEq, exists_eq_left', IsPosition, Bool.or_eq_true, beq_iff_eq,
        or_assoc, ite_eq_left_iff, reduceCtorEq, imp_false, not_not]
    · split <;> simp

/-- An element has no key, or one that is the position in the list. -/
def LacksKey (position : Option String) (element : Node root) : Prop :=
  element.attributeNamed "key" = none ∨
    ∃ name, keyName element = some name ∧ IsPosition position name

theorem negative_judgeKey_iff :
    (judgeKey position element).verdict.negative = true ↔ LacksKey position element := by
  unfold judgeKey LacksKey keyName
  cases element.attributeNamed "key" with
  | none => exact iff_of_true rfl (.inl rfl)
  | some attr =>
    rw [Option.bind_some, ← keyOrigin_eq_position_iff]
    cases origin : keyOrigin position attr.value <;>
      simp [origin, Finding.of, Verdict.idiom, Verdict.minorBad]

/-- Two callbacks differ about an element exactly if its key is a name that one of them has for the
position and the other has not, and that is not a usual one. -/
theorem lacksKey_differs_iff {fine : Option String} :
    ¬LacksKey fine element ∧ LacksKey position element ↔
      ∃ name, keyName element = some name ∧ name ≠ "index" ∧ name ≠ "i" ∧
        position = some name ∧ fine ≠ some name := by
  constructor
  · rintro ⟨keyed, missing | ⟨name, key, held⟩⟩
    · exact absurd (.inl missing) keyed
    · have free : ¬IsPosition fine name := fun held => keyed (.inr ⟨name, key, held⟩)
      obtain ⟨other, notIndex, notI⟩ : some name ≠ fine ∧ name ≠ "index" ∧ name ≠ "i" := by
        simpa only [IsPosition, not_or] using free
      have own : some name = position :=
        held.resolve_right fun usual => usual.elim notIndex notI
      exact ⟨name, key, notIndex, notI, own.symm, other.symm⟩
  · rintro ⟨name, key, notIndex, notI, own, other⟩
    refine ⟨?_, .inr ⟨name, key, .inl own.symm⟩⟩
    rintro (missing | ⟨name', key', held⟩)
    · rw [keyName, missing] at key
      cases key
    · cases key.symm.trans key'
      rcases held with same | usual | usual
      · exact other same.symm
      · exact notIndex usual
      · exact notI usual

/-- An element is judged one way or the other. -/
theorem positive_judgeKey (position : Option String) (element : Node root) :
    (judgeKey position element).verdict.positive =
      !(judgeKey position element).verdict.negative := by
  unfold judgeKey
  split
  · rfl
  · split <;> rfl

/-- The findings about an element are the verdicts for the calls that render it. -/
theorem exists_finding_iff (test : Finding root → Prop) :
    (∃ finding ∈ keys context, finding.site = some element ∧ test finding) ↔
      ∃ call ∈ context.methodCallsOf "map", element ∈ rendered call ∧
        test (judgeKey (positionName call) element) := by
  rw [keys_eq]
  constructor
  · rintro ⟨finding, member, site, passed⟩
    obtain ⟨call, listed, member⟩ := List.mem_flatMap.1 member
    obtain ⟨other, inside, rfl⟩ := List.mem_map.1 member
    cases (site_judgeKey (positionName call) other).symm.trans site
    exact ⟨call, listed, inside, passed⟩
  · rintro ⟨call, listed, inside, passed⟩
    exact ⟨_, List.mem_flatMap.2 ⟨call, listed, List.mem_map_of_mem inside⟩,
      site_judgeKey _ element, passed⟩

/-- The key of an element is a name that some of the calls that render it have for the position, and
others have not. -/
def IsDisputed (calls : List (Node root)) (element : Node root) : Prop :=
  ∃ name, keyName element = some name ∧ name ≠ "index" ∧ name ≠ "i" ∧
    (∃ call ∈ calls, element ∈ rendered call ∧ positionName call = some name) ∧
      ∃ call ∈ calls, element ∈ rendered call ∧ positionName call ≠ some name

theorem praises_and_blames_iff :
    Praises (keys context) element ∧ Blames (keys context) element ↔
      IsDisputed (context.methodCallsOf "map") element := by
  rw [Praises, Blames, exists_finding_iff fun finding => finding.verdict.positive = true,
    exists_finding_iff fun finding => finding.verdict.negative = true]
  simp only [positive_judgeKey, Bool.not_eq_true', ← Bool.not_eq_true, negative_judgeKey_iff]
  constructor
  · rintro ⟨⟨good, listed, inside, keyed⟩, bad, listed', inside', lacking⟩
    obtain ⟨name, key, notIndex, notI, own, other⟩ := lacksKey_differs_iff.1 ⟨keyed, lacking⟩
    exact ⟨name, key, notIndex, notI, ⟨bad, listed', inside', own⟩, good, listed, inside, other⟩
  · rintro ⟨name, key, notIndex, notI, ⟨bad, listed', inside', own⟩, good, listed, inside, other⟩
    obtain ⟨keyed, lacking⟩ := lacksKey_differs_iff.2 ⟨name, key, notIndex, notI, own, other⟩
    exact ⟨⟨good, listed, inside, keyed⟩, bad, listed', inside', lacking⟩

/-- Every element is judged as often as there are calls of `map` with a callback around it. So no
element is judged twice exactly if the callbacks that stand inside another one render nothing. An
element is both praised and blamed exactly if its key is a name, not one of the usual ones for a
position, that one of these callbacks has for the position, and another one has not. -/
theorem keys_judged_once_iff (root : Tree) (limits : SearchLimits) (levels : DepthLimit) :
    let context : Context root :=
      (Subject.ofParsed limits ⟨root, Index.build root levels⟩).context
    let calls := context.methodCallsOf "map"
    (∀ element, ((keys context).map Finding.site).count (some element) =
      calls.countP fun call => element ∈ rendered call) ∧
    (((keys context).map Finding.site).Nodup ↔
      ∀ outer ∈ calls, ∀ inner ∈ calls, outer ≠ inner → GoesThrough outer inner →
        rendered inner = []) ∧
    (∀ element, Praises (keys context) element ∧ Blames (keys context) element ↔
      IsDisputed calls element) := by
  intro context calls
  have distinct : calls.Nodup :=
    Context.nodup_methodCallsOf (Index.nodup_nodes_build root levels) "map"
  refine ⟨count_sites_keys context, ?_, fun element => praises_and_blames_iff⟩
  rw [sites_keys, List.nodup_map_iff (Option.some_injective _), nodup_flatMap_rendered_iff distinct]

/-- In `rows.map((row, r) => row.map((cell, c) => <td key={c} />))` the element is judged twice. The
outer call praises its key, and the inner one blames it. -/
theorem keys_judged_twice :
    let root : Tree := .node { name := "program" }
      [.node { name := "expression_statement" }
        [.node { name := "call_expression" }
          [.node { name := "member_expression", role := some .function }
            [.node { name := "identifier", role := some .object, text := "rows" } [],
             .node { name := "property_identifier", role := some .property, text := "map" } []],
           .node { name := "arguments", role := some .arguments }
            [.node { name := "arrow_function" }
              [.node { name := "formal_parameters", role := some .parameters }
                [.node { name := "identifier", text := "row" } [],
                 .node { name := "identifier", text := "r" } []],
               .node { name := "call_expression", role := some .body }
                [.node { name := "member_expression", role := some .function }
                  [.node { name := "identifier", role := some .object, text := "row" } [],
                   .node { name := "property_identifier", role := some .property, text := "map" }
                    []],
                 .node { name := "arguments", role := some .arguments }
                  [.node { name := "arrow_function" }
                    [.node { name := "formal_parameters", role := some .parameters }
                      [.node { name := "identifier", text := "cell" } [],
                       .node { name := "identifier", text := "c" } []],
                     .node { name := "jsx_self_closing_element", role := some .body }
                      [.node { name := "identifier", role := some .name, text := "td" } [],
                       .node { name := "jsx_attribute" }
                        [.node { name := "property_identifier", text := "key" } [],
                         .node { name := "jsx_expression" }
                          [.node { name := "identifier", text := "c" } []]]]]]]]]]]]
    let context : Context root :=
      (Subject.ofParsed ⟨.int 20, .int 100⟩ ⟨root, Index.build root (.atMost 100)⟩).context
    ∃ element, ((keys context).map Finding.site).count (some element) = 2 ∧
      Praises (keys context) element ∧ Blames (keys context) element := by
  intro root context
  have computed : ∃ element ∈ context.index.nodes,
      ((keys context).map Finding.site).count (some element) = 2 ∧
        (∃ finding ∈ keys context,
          finding.site = some element ∧ finding.verdict.positive = true) ∧
        ∃ finding ∈ keys context,
          finding.site = some element ∧ finding.verdict.negative = true := by
    decide +kernel
  obtain ⟨element, -, twice, praised, blamed⟩ := computed
  exact ⟨element, twice, praised, blamed⟩

end Detectors.Elements

end SnippetTutor
