import Mathlib.Logic.Relation
import SnippetTutor.Detectors.Pitfalls
import SnippetTutor.Proofs.Success

/-!
# Numbers that have a name

A number has a name if it is the value of a declarator or of a pair, or an element of an array, by
itself or with parentheses and minus signs around it. The search for numbers without a name looks at
what stands directly around a literal, so it takes a number behind a sign for one without a name.

* `Node.IsNamed` is the notion, and `Node.isNamed_iff` goes one step up: a literal is held itself, or
  is in something that has a name;
* `Detectors.Pitfalls.firstMagicNumber_eq_some_iff`: the first literal is found that is neither plain
  nor directly below a naming construct;
* `Detectors.Pitfalls.magicNumbers_right_iff`: what is reported has a name exactly if there is
  something around it, parentheses or a minus sign, that has one.
-/

namespace SnippetTutor

namespace Node

variable {root : Tree} {node : Node root}

/-! ### Names -/

/-- Parentheses, or a minus sign in front of something. -/
def IsWrapper (node : Node root) : Prop :=
  node.kind = .parenthesizedExpression ∨ node.kind = .unaryExpression ∧ node.operator = some "-"

/-- Only parentheses and minus signs stand between the first construct and the second, which is the
outermost of them, or the first construct itself. -/
def IsWrappedIn : Node root → Node root → Prop :=
  Relation.ReflTransGen fun inner outer => inner.parent? = some outer ∧ outer.IsWrapper

/-- A construct is the value of a declarator or of a pair, or an element of an array. -/
def IsHeld (node : Node root) : Prop :=
  ∃ holder, node.parent? = some holder ∧
    (holder.kind = .array ∨
      (holder.kind = .variableDeclarator ∨ holder.kind = .pair) ∧ holder.field .value = some node)

/-- A construct is held, by itself or with parentheses and minus signs around it. -/
def IsNamed (node : Node root) : Prop := ∃ outer, node.IsWrappedIn outer ∧ outer.IsHeld

/-- What has a name is held, or has something with a name around it. -/
theorem isNamed_iff :
    node.IsNamed ↔
      node.IsHeld ∨ ∃ wrapper, node.parent? = some wrapper ∧ wrapper.IsWrapper ∧ wrapper.IsNamed := by
  constructor
  · rintro ⟨outer, wrapped, held⟩
    rcases Relation.ReflTransGen.cases_head_iff.1 wrapped with rfl | ⟨wrapper, ⟨up, wraps⟩, further⟩
    · exact .inl held
    · exact .inr ⟨wrapper, up, wraps, outer, further, held⟩
  · rintro (held | ⟨wrapper, up, wraps, outer, further, held⟩)
    · exact ⟨node, .refl, held⟩
    · exact ⟨outer, .head ⟨up, wraps⟩ further, held⟩

end Node

namespace Detectors.Pitfalls

variable {root : Tree} {context : Context root} {literal : Node root}

/-! ### The search -/

/-- What holds a number names it. -/
theorem namingKinds_of_isHeld (held : literal.IsHeld) :
    Node.kindOf literal.parent? ∈ namingKinds := by
  obtain ⟨holder, up, holds⟩ := held
  have kind : Node.kindOf literal.parent? = holder.kind := by rw [up, Node.kindOf]
  rw [kind]
  rcases holds with array | ⟨declarator | pair, -⟩
  · rw [array]
    decide
  · rw [declarator]
    decide
  · rw [pair]
    decide

/-- A literal has a value that needs a name, and nothing directly around it gives one. -/
def IsMagic (literal : Node root) (value : Float) : Prop :=
  literal.numberValue = .ok (some value) ∧ isPlainNumber value = false ∧
    Node.kindOf literal.parent? ∉ namingKinds

/-- A literal has no value, one that needs no name, or one that is named by what is directly around
the literal. -/
def IsHarmless (literal : Node root) : Prop :=
  literal.numberValue = .ok none ∨ ∃ value, literal.numberValue = .ok (some value) ∧
    (isPlainNumber value = true ∨ Node.kindOf literal.parent? ∈ namingKinds)

/-- The search passes over literals that are harmless. -/
theorem firstMagicNumber_cons_of_isHarmless (harmless : IsHarmless literal)
    (rest : List (Node root)) : firstMagicNumber (literal :: rest) = firstMagicNumber rest := by
  rw [firstMagicNumber]
  rcases harmless with none | ⟨value, some, plain | named⟩
  · rw [none]
    rfl
  · rw [some]
    exact if_pos (by simp [plain])
  · rw [some]
    exact if_pos (by simp [named])

/-- The search ends at a literal that is not. -/
theorem firstMagicNumber_cons_of_isMagic {value : Float} (magic : IsMagic literal value)
    (rest : List (Node root)) : firstMagicNumber (literal :: rest) = .ok (some (literal, value)) := by
  obtain ⟨valued, needed, unnamed⟩ := magic
  rw [firstMagicNumber, valued]
  exact if_neg (by simp [needed, unnamed])

theorem isHarmless_or_isMagic_or (literal : Node root) :
    IsHarmless literal ∨ (∃ value, IsMagic literal value) ∨
      ∃ fault, literal.numberValue = .error fault := by
  cases valued : literal.numberValue with
  | error fault => exact .inr (.inr ⟨fault, rfl⟩)
  | ok value? =>
    cases value? with
    | none => exact .inl (.inl valued)
    | some value =>
      by_cases harmless : isPlainNumber value = true ∨ Node.kindOf literal.parent? ∈ namingKinds
      · exact .inl (.inr ⟨value, valued, harmless⟩)
      · obtain ⟨needed, unnamed⟩ := not_or.1 harmless
        exact .inr (.inl ⟨value, valued, Bool.eq_false_iff.2 needed, unnamed⟩)

/-- The first literal that is not harmless is found, if it has a value at all. -/
theorem firstMagicNumber_eq_some_iff {nodes : List (Node root)} {value : Float} :
    firstMagicNumber nodes = .ok (some (literal, value)) ↔
      ∃ before after, nodes = before ++ literal :: after ∧ IsMagic literal value ∧
        ∀ earlier ∈ before, IsHarmless earlier := by
  constructor
  · intro found
    induction nodes with
    | nil => cases found
    | cons node rest ih =>
      rcases isHarmless_or_isMagic_or node with harmless | ⟨value', magic⟩ | ⟨fault, failed⟩
      · rw [firstMagicNumber_cons_of_isHarmless harmless] at found
        obtain ⟨before, after, rfl, magic, others⟩ := ih found
        exact ⟨node :: before, after, rfl, magic, List.forall_mem_cons.2 ⟨harmless, others⟩⟩
      · rw [firstMagicNumber_cons_of_isMagic magic] at found
        cases found
        exact ⟨[], rest, rfl, magic, nofun⟩
      · rw [firstMagicNumber, failed] at found
        cases found
  · rintro ⟨before, after, rfl, magic, others⟩
    induction before with
    | nil => exact firstMagicNumber_cons_of_isMagic magic after
    | cons node before ih =>
      obtain ⟨harmless, others⟩ := List.forall_mem_cons.1 others
      rw [List.cons_append, firstMagicNumber_cons_of_isHarmless harmless]
      exact ih others

/-- A literal is reported as a number without a name. -/
def Reports (context : Context root) (literal : Node root) : Prop :=
  ∃ findings, noMagicNumbers context = .ok findings ∧
    ∃ finding ∈ findings, finding.site = some literal

theorem reports_iff_found :
    Reports context literal ↔
      ∃ value, firstMagicNumber (context.ofKind .number) = .ok (some (literal, value)) := by
  unfold Reports noMagicNumbers
  simp only [map_eq_ok]
  constructor
  · rintro ⟨-, ⟨found, searched, rfl⟩, finding, member, site⟩
    obtain ⟨⟨node, value⟩, first, rfl⟩ := List.mem_map.1 member
    cases site
    exact ⟨value, by rw [searched, Option.mem_toList.1 first]⟩
  · rintro ⟨value, searched⟩
    exact ⟨_, ⟨_, searched, rfl⟩, _, List.mem_singleton_self _, rfl⟩

/-- The first literal that is not harmless is reported, and no other. -/
theorem reports_iff :
    Reports context literal ↔
      ∃ before after, context.ofKind .number = before ++ literal :: after ∧
        (∃ value, IsMagic literal value) ∧ ∀ earlier ∈ before, IsHarmless earlier := by
  simp only [reports_iff_found, firstMagicNumber_eq_some_iff]
  constructor
  · rintro ⟨value, before, after, split, magic, others⟩
    exact ⟨before, after, split, ⟨value, magic⟩, others⟩
  · rintro ⟨before, after, split, ⟨value, magic⟩, others⟩
    exact ⟨value, before, after, split, magic, others⟩

/-- The first literal that is not harmless is reported. It has a name exactly if there are
parentheses or a minus sign around it that have one; a number that is held itself is never
reported. -/
theorem magicNumbers_right_iff (root : Tree) (context : Context root) (literal : Node root) :
    (Reports context literal ↔
      ∃ before after, context.ofKind .number = before ++ literal :: after ∧
        (∃ value, IsMagic literal value) ∧ ∀ earlier ∈ before, IsHarmless earlier) ∧
    (Reports context literal ∧ literal.IsNamed ↔
      Reports context literal ∧
        ∃ wrapper, literal.parent? = some wrapper ∧ wrapper.IsWrapper ∧ wrapper.IsNamed) ∧
    ¬(Reports context literal ∧ literal.IsHeld) := by
  have free : Reports context literal → ¬literal.IsHeld := by
    intro reports held
    obtain ⟨-, -, -, ⟨value, -, -, unnamed⟩, -⟩ := reports_iff.1 reports
    exact unnamed (namingKinds_of_isHeld held)
  refine ⟨reports_iff, and_congr_right fun reports => ?_, fun ⟨reports, held⟩ => free reports held⟩
  rw [Node.isNamed_iff, or_iff_right (free reports)]

/-- In `const OFFSET = -7;` the number is reported although it is the value of a constant. -/
theorem magicNumber_behind_sign :
    let root : Tree := .node { name := "program" }
      [.node { name := "lexical_declaration" }
        [.node { name := "variable_declarator" }
          [.node { name := "identifier", role := some .name, text := "OFFSET" } [],
           .node { name := "unary_expression", role := some .value }
            [.node { name := "-", role := some .operator, named := false } [],
             .node { name := "number", role := some .argument, text := "7" } []]]]]
    let context : Context root :=
      { index := Index.build root (.atMost 100), scanDepth := .int 20, treeDepth := .int 100 }
    ∃ literal, Reports context literal ∧ literal.IsNamed := by
  intro root context
  have searched : ((noMagicNumbers context).toOption.any fun findings =>
      findings.any fun finding => finding.site.isSome) = true := by
    decide +kernel
  have shape : ∀ literal ∈ context.ofKind .number, ∃ sign ∈ context.index.nodes,
      ∃ declarator ∈ context.index.nodes, literal.parent? = some sign ∧
        sign.kind = .unaryExpression ∧ sign.operator = some "-" ∧
        sign.parent? = some declarator ∧ declarator.kind = .variableDeclarator ∧
        declarator.field .value = some sign := by
    decide +kernel
  obtain ⟨findings, ran, any⟩ := exists_ok_of_any searched
  obtain ⟨finding, member, sited⟩ := List.any_eq_true.1 any
  obtain ⟨literal, site⟩ := Option.isSome_iff_exists.1 sited
  have reports : Reports context literal := ⟨findings, ran, finding, member, site⟩
  obtain ⟨before, after, split, -⟩ := reports_iff.1 reports
  obtain ⟨sign, -, declarator, -, up, unary, minus, upper, kind, value⟩ :=
    shape literal (split ▸ List.mem_append_right _ List.mem_cons_self)
  have held : sign.IsHeld := ⟨declarator, upper, .inr ⟨.inl kind, value⟩⟩
  exact ⟨literal, reports, sign, .single ⟨up, .inr ⟨unary, minus⟩⟩, held⟩

end Detectors.Pitfalls

end SnippetTutor
