import SnippetTutor.Detectors.Components
import SnippetTutor.Detectors.Objects
import SnippetTutor.Proofs.Trails

/-!
# What a class extends

The heritage of a class is an expression, in one grammar, or a row of clauses, in the others: one
for the class that is extended and one for the interfaces. The search for the superclass looks at
what comes first in the heritage, and knows only one of the clauses; it takes a list of interfaces
that comes first for an expression.

* `Node.heritageParts` is what stands in the heritage, and `Node.IsLaidOut` says how the grammars
  arrange it; `Node.Extends` relates a class to its superclass;
* `Node.classSuperclass_eq`: the search looks at the first part only. What it finds is right unless
  this is a list of interfaces (`Node.superclass_right_of_laidOut_iff`);
* `Detectors.Objects.exists_classInheritance_iff`: the first class with a superclass, or with what
  is taken for one, is reported;
* `Detectors.superclass_right_iff` puts this together.
-/

namespace SnippetTutor

/-- In a list of lists, the first item of the first list that has any is the first of all. -/
theorem find?_filled_bind_head? {α β γ : Type} (items : List α) (chosen : α → Bool)
    (parts : α → List β) (use : β → Option γ) :
    ((items.find? fun item => chosen item && !(parts item).isEmpty).bind fun item =>
        (parts item).head?.bind use) =
      ((items.filter chosen).flatMap parts).head?.bind use := by
  induction items with
  | nil => rfl
  | cons item rest ih =>
    cases out : chosen item with
    | false => simpa [List.find?_cons, List.filter_cons, out] using ih
    | true =>
      cases inside : parts item with
      | nil => simpa [List.find?_cons, List.filter_cons, out, inside] using ih
      | cons first others => simp [out, inside]

namespace Node

variable {root : Tree} {cls node below part base clause : Node root}

/-! ### Heritages -/

/-- What stands in the heritage of a class. -/
def heritageParts (cls : Node root) : List (Node root) :=
  (cls.children.filter fun child => child.kind == .classHeritage).flatMap children

/-- A part of a heritage that says by a word what it is for. -/
def IsHeritageClause (part : Node root) : Prop :=
  part.name = "extends_clause" ∨ part.name = "implements_clause"

/-- What an `extends` clause holds: its value, or whatever comes first where it has none. -/
def extension (clause : Node root) : Option (Node root) :=
  (clause.field .value).or clause.children.head?

/-- A class extends what an expression in its heritage says, by itself or in a clause. -/
inductive Extends (cls : Node root) : Node root → Prop
  | bare {base : Node root} (held : base ∈ cls.heritageParts) (free : ¬base.IsHeritageClause) :
    Extends cls base.unwrap
  | clause {clause base : Node root} (held : clause ∈ cls.heritageParts)
    (named : clause.name = "extends_clause") (value : clause.extension = some base) :
    Extends cls base.unwrap

/-- The heritage of a class is a single expression, or made of clauses, one of each sort at most. -/
inductive IsLaidOut (cls : Node root) : Prop
  | expression {base : Node root} (parts : cls.heritageParts = [base])
    (free : ¬base.IsHeritageClause)
  | clauses (each : ∀ part ∈ cls.heritageParts, part.IsHeritageClause)
    (once : (cls.heritageParts.map name).Nodup)

/-- A list of interfaces comes first in the heritage of a class. -/
def LeadsWithInterfaces (cls : Node root) : Prop :=
  ∃ clause, cls.heritageParts.head? = some clause ∧ clause.name = "implements_clause"

/-! ### Depths -/

theorem depth_of_mem_offspring (member : below ∈ node.offspring) :
    below.depth = node.depth + 1 := by
  obtain ⟨i, rfl⟩ := List.mem_ofFn.1 member
  exact depth_child node i

theorem depth_of_mem_children (member : below ∈ node.children) : below.depth = node.depth + 1 :=
  depth_of_mem_offspring (mem_offspring_of_mem_children member)

theorem depth_le_depth_unwrap (node : Node root) : node.depth ≤ node.unwrap.depth := by
  fun_induction unwrap node with
  | case1 node _ inner found ih =>
    have deeper := depth_of_mem_children (List.mem_of_head? found)
    omega
  | case2 => exact Nat.le_refl _
  | case3 => exact Nat.le_refl _

theorem depth_of_mem_heritageParts (held : part ∈ cls.heritageParts) :
    part.depth = cls.depth + 2 := by
  obtain ⟨heritage, listed, inside⟩ := List.mem_flatMap.1 held
  rw [depth_of_mem_children inside, depth_of_mem_children (List.mem_filter.1 listed).1]

theorem depth_of_extension (value : clause.extension = some base) :
    base.depth = clause.depth + 1 := by
  rcases Option.or_eq_some_iff.1 value with held | ⟨-, first⟩
  · exact depth_of_mem_offspring (mem_offspring_of_field held)
  · exact depth_of_mem_children (List.mem_of_head? first)

/-- A clause of a class is not what the class extends. -/
theorem not_extends_of_mem (each : ∀ part ∈ cls.heritageParts, part.IsHeritageClause)
    (held : clause ∈ cls.heritageParts) : ¬cls.Extends clause := by
  have level := depth_of_mem_heritageParts held
  intro derived
  cases derived with
  | bare held' free => exact free (each _ held')
  | @clause other base held' _ value =>
    have deeper := depth_of_extension value
    have deepest := depth_le_depth_unwrap base
    have level' := depth_of_mem_heritageParts held'
    omega

/-! ### The search for the superclass -/

/-- What the search takes the first part of a heritage for. -/
def partSuperclass (part : Node root) : Option (Node root) :=
  if part.name == "extends_clause" then part.extension.map unwrap else some part.unwrap

/-- The search looks at the first part of the heritage only. -/
theorem classSuperclass_eq (cls : Node root) :
    cls.classSuperclass = cls.heritageParts.head?.bind partSuperclass :=
  find?_filled_bind_head? cls.children _ children partSuperclass

theorem partSuperclass_of_extends (named : part.name = "extends_clause") :
    part.partSuperclass = part.extension.map unwrap :=
  if_pos (beq_iff_eq.2 named)

theorem partSuperclass_of_ne (other : part.name ≠ "extends_clause") :
    part.partSuperclass = some part.unwrap :=
  if_neg (by simpa using other)

theorem kind_of_implements (named : part.name = "implements_clause") : part.kind = .other := by
  rw [kind, part.label.kind_eq, show part.label.name = _ from named]
  decide +kernel

theorem unwrap_of_implements (named : part.name = "implements_clause") : part.unwrap = part :=
  unwrap_of_kind_ne (by rw [kind_of_implements named]; decide)

/-- A list of interfaces is taken for an expression. -/
theorem partSuperclass_of_implements (named : part.name = "implements_clause") :
    part.partSuperclass = some part := by
  rw [partSuperclass_of_ne (by rw [named]; decide), unwrap_of_implements named]

theorem classSuperclass_of_leads (first : cls.heritageParts.head? = some clause)
    (named : clause.name = "implements_clause") : cls.classSuperclass = some clause := by
  rw [classSuperclass_eq, first, Option.bind_some, partSuperclass_of_implements named]

/-- A heritage that is an expression is told from the expression. -/
theorem extends_iff_of_expression (parts : cls.heritageParts = [part])
    (free : ¬part.IsHeritageClause) : cls.Extends base ↔ part.partSuperclass = some base := by
  rw [partSuperclass_of_ne fun named => free (.inl named), Option.some.injEq]
  constructor
  · intro derived
    cases derived with
    | bare held _ =>
      rw [parts, List.mem_singleton] at held
      rw [held]
    | clause held named _ =>
      rw [parts, List.mem_singleton] at held
      exact absurd (.inl (held ▸ named)) free
  · rintro rfl
    exact .bare (parts ▸ List.mem_singleton_self part) free

/-- A heritage made of clauses is told from its `extends` clause, since it has no other. -/
theorem extends_iff_of_clauses (each : ∀ part ∈ cls.heritageParts, part.IsHeritageClause)
    (once : (cls.heritageParts.map name).Nodup) (held : part ∈ cls.heritageParts)
    (named : part.name = "extends_clause") :
    cls.Extends base ↔ part.partSuperclass = some base := by
  rw [partSuperclass_of_extends named, Option.map_eq_some_iff]
  constructor
  · intro derived
    cases derived with
    | bare held' free => exact absurd (each _ held') free
    | @clause other base held' named' value =>
      obtain rfl := List.inj_on_of_nodup_map once held' held (named'.trans named.symm)
      exact ⟨base, value, rfl⟩
  · rintro ⟨base, value, rfl⟩
    exact .clause held named value

/-- What the search finds is the superclass, unless a list of interfaces comes first. -/
theorem superclass_right_of_laidOut_iff (laidOut : cls.IsLaidOut) :
    (∀ base, cls.classSuperclass = some base ↔ cls.Extends base) ↔ ¬cls.LeadsWithInterfaces := by
  rw [classSuperclass_eq]
  cases laidOut with
  | @expression part parts free =>
    refine iff_of_true (fun base => ?_) ?_
    · rw [parts, List.head?_cons, Option.bind_some, extends_iff_of_expression parts free]
    · rintro ⟨clause, first, named⟩
      rw [parts, List.head?_cons, Option.some.injEq] at first
      exact free (.inr (first ▸ named))
  | clauses each once =>
    cases parts : cls.heritageParts with
    | nil =>
      refine iff_of_true (fun base => iff_of_false nofun fun derived => ?_) ?_
      · cases derived with
        | bare held _ | clause held _ _ => simp [parts] at held
      · rintro ⟨clause, first, -⟩
        simp [parts] at first
    | cons part rest =>
      have held : part ∈ cls.heritageParts := parts ▸ List.mem_cons_self
      have first : cls.heritageParts.head? = some part := by rw [parts, List.head?_cons]
      rw [List.head?_cons, Option.bind_some]
      rcases each part held with named | named
      · refine iff_of_true (fun base => (extends_iff_of_clauses each once held named).symm) ?_
        rintro ⟨clause, first', named'⟩
        rw [Option.some.inj (first'.symm.trans first), named] at named'
        exact absurd named' (by decide)
      · refine iff_of_false (fun right => ?_) (not_not_intro ⟨part, first, named⟩)
        have found := partSuperclass_of_implements named
        exact not_extends_of_mem each held ((right part).1 found)

/-- The search finds something where there is a superclass and no interfaces come first, and where
interfaces come first. -/
theorem classSuperclass_ne_none_iff (laidOut : cls.IsLaidOut) :
    cls.classSuperclass ≠ none ↔ cls.LeadsWithInterfaces ∨ ∃ base, cls.Extends base := by
  by_cases leads : cls.LeadsWithInterfaces
  · obtain ⟨clause, first, named⟩ := leads
    refine iff_of_true ?_ (.inl ⟨clause, first, named⟩)
    rw [classSuperclass_of_leads first named]
    exact Option.some_ne_none clause
  · have right := (superclass_right_of_laidOut_iff laidOut).2 leads
    rw [Option.ne_none_iff_exists']
    simp only [right, leads, false_or]

end Node

namespace Detectors

variable {root : Tree} {context : Context root} {cls : Node root}

/-! ### Inheritance -/

namespace Objects

/-- The first class with something that is taken for its superclass is reported, and no other. -/
theorem exists_classInheritance_iff :
    (∃ finding ∈ classInheritance context, finding.site = some cls) ↔
      ∃ before after, context.ofKinds Node.classKinds = before ++ cls :: after ∧
        cls.classSuperclass ≠ none ∧ ∀ earlier ∈ before, earlier.classSuperclass = none := by
  rw [classInheritance, List.take_one, List.head?_filterMap]
  simp only [Option.mem_toList, List.findSome?_eq_some_iff, Option.map_eq_none_iff]
  constructor
  · rintro ⟨finding, ⟨before, found, after, split, made, others⟩, site⟩
    obtain ⟨parent, superclass, rfl⟩ := Option.map_eq_some_iff.1 made
    cases site
    exact ⟨before, after, split, by simp [superclass], others⟩
  · rintro ⟨before, after, split, filled, others⟩
    obtain ⟨parent, superclass⟩ := Option.ne_none_iff_exists'.1 filled
    exact ⟨_, ⟨before, cls, after, split, by rw [superclass, Option.map_some], others⟩, rfl⟩

end Objects

/-- A list of interfaces has no name, and no property either. -/
theorem Components.not_leads_of_extendsComponent
    (component : Components.extendsComponent cls = true) : ¬cls.LeadsWithInterfaces := by
  rintro ⟨clause, first, named⟩
  rw [Components.extendsComponent, Node.classSuperclass_of_leads first named] at component
  simp [Node.identifierName, Node.memberProperty, Node.unwrap_of_implements named,
    Node.kind_of_implements named] at component

/-- Of a class whose heritage is laid out as in the grammars, what is found is the superclass,
unwrapped, and nothing if there is none, exactly unless a list of interfaces comes first; then this
list is found. So what passes for a component always extends something. The first class is reported
that extends something or has a list of interfaces come first. -/
theorem superclass_right_iff (root : Tree) :
    (∀ cls : Node root, cls.IsLaidOut →
      ((∀ base, cls.classSuperclass = some base ↔ cls.Extends base) ↔ ¬cls.LeadsWithInterfaces) ∧
      (∀ clause, cls.heritageParts.head? = some clause → clause.name = "implements_clause" →
        cls.classSuperclass = some clause) ∧
      (Components.extendsComponent cls = true → ∃ base, cls.Extends base)) ∧
    ∀ context : Context root, (∀ cls ∈ context.ofKinds Node.classKinds, cls.IsLaidOut) →
      ∀ cls, (∃ finding ∈ Objects.classInheritance context, finding.site = some cls) ↔
        ∃ before after, context.ofKinds Node.classKinds = before ++ cls :: after ∧
          (cls.LeadsWithInterfaces ∨ ∃ base, cls.Extends base) ∧
          ∀ earlier ∈ before, ¬(earlier.LeadsWithInterfaces ∨ ∃ base, earlier.Extends base) := by
  constructor
  · intro cls laidOut
    refine ⟨Node.superclass_right_of_laidOut_iff laidOut,
      fun clause => Node.classSuperclass_of_leads, fun component => ?_⟩
    have right := (Node.superclass_right_of_laidOut_iff laidOut).2
      (Components.not_leads_of_extendsComponent component)
    obtain ⟨base, found, -⟩ := (Option.any_eq_true _ _).1 component
    exact ⟨base, (right base).1 found⟩
  · intro context laidOut cls
    rw [Objects.exists_classInheritance_iff]
    refine exists_congr fun before => exists_congr fun after => and_congr_right fun split => ?_
    have among : ∀ other, other ∈ before ∨ other = cls → other.IsLaidOut := by
      intro other place
      refine laidOut other (split ▸ ?_)
      rcases place with earlier | rfl
      · exact List.mem_append_left _ earlier
      · exact List.mem_append_right _ List.mem_cons_self
    refine and_congr (Node.classSuperclass_ne_none_iff (among cls (.inr rfl))) ?_
    refine forall₂_congr fun earlier member => ?_
    rw [← Node.classSuperclass_ne_none_iff (among earlier (.inl member)), not_not]

/-- In `class A extends (B) implements I {}` the superclass is found inside the parentheses, and the
class is reported. -/
theorem superclass_right_before_interfaces :
    let root : Tree := .node { name := "program" }
      [.node { name := "class_declaration" }
        [.node { name := "type_identifier", role := some .name, text := "A" } [],
         .node { name := "class_heritage" }
          [.node { name := "extends_clause" }
            [.node { name := "parenthesized_expression", role := some .value }
              [.node { name := "identifier", text := "B" } []]],
           .node { name := "implements_clause" }
            [.node { name := "type_identifier", text := "I" } []]],
         .node { name := "class_body", role := some .body } []]]
    let context : Context root :=
      { index := Index.build root (.atMost 100), scanDepth := .int 20, treeDepth := .int 100 }
    (∀ cls ∈ context.ofKinds Node.classKinds, cls.IsLaidOut) ∧
      ∃ cls base, cls.classSuperclass = some base ∧ base.text = "B" ∧ cls.Extends base ∧
        ∃ finding ∈ Objects.classInheritance context, finding.site = some cls := by
  intro root context
  have computed : ∃ cls ∈ context.index.nodes, context.ofKinds Node.classKinds = [cls] ∧
      (∀ part ∈ cls.heritageParts,
        part.name = "extends_clause" ∨ part.name = "implements_clause") ∧
      (cls.heritageParts.map Node.name).Nodup ∧
      (∀ clause ∈ cls.heritageParts.head?, clause.name ≠ "implements_clause") ∧
      ∃ base ∈ context.index.nodes, cls.classSuperclass = some base ∧ base.text = "B" := by
    decide +kernel
  obtain ⟨cls, -, only, each, once, first, base, -, found, text⟩ := computed
  have laidOut : ∀ other ∈ context.ofKinds Node.classKinds, other.IsLaidOut := by
    rw [only, List.forall_mem_singleton]
    exact .clauses each once
  have leads : ¬cls.LeadsWithInterfaces := fun ⟨clause, leads, named⟩ => first clause leads named
  obtain ⟨right, reported⟩ := superclass_right_iff root
  have superclass : cls.Extends base := (((right cls (.clauses each once)).1.2 leads) base).1 found
  refine ⟨laidOut, cls, base, found, text, superclass, (reported context laidOut cls).2 ?_⟩
  exact ⟨[], [], only, .inr ⟨base, superclass⟩, nofun⟩

/-- In `class A implements I {}` nothing is extended. The list of interfaces is taken for the
superclass, and the class is reported. -/
theorem superclass_from_interfaces :
    let root : Tree := .node { name := "program" }
      [.node { name := "class_declaration" }
        [.node { name := "type_identifier", role := some .name, text := "A" } [],
         .node { name := "class_heritage" }
          [.node { name := "implements_clause" }
            [.node { name := "type_identifier", text := "I" } []]],
         .node { name := "class_body", role := some .body } []]]
    let context : Context root :=
      { index := Index.build root (.atMost 100), scanDepth := .int 20, treeDepth := .int 100 }
    ∃ cls : Node root, cls.IsLaidOut ∧ (¬∃ base, cls.Extends base) ∧
      (∃ clause, cls.classSuperclass = some clause ∧ clause.name = "implements_clause") ∧
      ∃ finding ∈ Objects.classInheritance context, finding.site = some cls := by
  intro root context
  have computed : ∃ cls ∈ context.index.nodes,
      (∀ part ∈ cls.heritageParts, part.name = "implements_clause") ∧
      (cls.heritageParts.map Node.name).Nodup ∧
      (∃ clause ∈ context.index.nodes,
        cls.classSuperclass = some clause ∧ clause.name = "implements_clause") ∧
      ∃ finding ∈ Objects.classInheritance context, finding.site = some cls := by
    decide +kernel
  obtain ⟨cls, -, each, once, ⟨clause, -, found, named⟩, reported⟩ := computed
  refine ⟨cls, .clauses (fun part held => .inr (each part held)) once, ?_, ⟨clause, found, named⟩,
    reported⟩
  rintro ⟨base, derived⟩
  cases derived with
  | bare held free => exact free (.inr (each _ held))
  | clause held named' _ =>
    rw [each _ held] at named'
    exact absurd named' (by decide)

end Detectors

end SnippetTutor
