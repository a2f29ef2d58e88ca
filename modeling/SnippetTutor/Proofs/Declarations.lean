import SnippetTutor.Detectors.Essentials
import SnippetTutor.Detectors.Pitfalls
import SnippetTutor.Detectors.Variables
import SnippetTutor.Proofs.SourceOrder

/-!
# Three checks of declarations

Declarations with `var` are looked for three times: one check lists them by their kind, one goes
through all declarations and reads the word that introduces each, and one stops at the first of
them. The last two praise the snippet if it declares something and never does so with `var`.

* `Node.declarationWord_eq_var_iff` and `Node.isBlockScoped_iff`: the word of a declaration goes
  with its kind;
* `perm_unscoped`: the declarations with the word `var` are those of the kind;
* `declaration_checks_agree` puts this together.
-/

namespace SnippetTutor

variable {root : Tree} {context : Context root} {node : Node root}

/-! ### Words of declarations -/

namespace Node

/-- Whether a construct is a declaration with `let` or `const`. -/
def isBlockScoped (node : Node root) : Bool :=
  node.declarationWord == some "let" || node.declarationWord == some "const"

theorem declarationWord_eq_var_iff :
    node.declarationWord = some "var" ↔ node.kind = .variableDeclaration := by
  unfold declarationWord
  split
  · rename_i kind
    exact iff_of_true rfl (eq_of_beq kind)
  · rename_i kind
    refine iff_of_false (fun word => ?_) fun same => kind (beq_iff_eq.2 same)
    split at word
    · -- A word that is looked for among the tokens is one of the other two.
      cases found : node.tokens.find? fun token => token == "let" || token == "const" with
      | none => simp [found] at word
      | some token =>
        have other := List.find?_some found
        rw [found, Option.getD_some, Option.some.injEq] at word
        rw [word] at other
        exact absurd other (by decide)
    · cases word

theorem isBlockScoped_iff : node.isBlockScoped = true ↔ node.kind = .lexicalDeclaration := by
  rw [isBlockScoped, Bool.or_eq_true, beq_iff_eq, beq_iff_eq]
  unfold declarationWord
  split
  · rename_i kind
    refine iff_of_false (by decide) fun same => ?_
    rw [eq_of_beq kind] at same
    cases same
  · split
    · rename_i kind
      refine iff_of_true ?_ (eq_of_beq kind)
      cases found : node.tokens.find? fun token => token == "let" || token == "const" with
      | none => exact .inl rfl
      | some token =>
        have word := List.find?_some found
        rw [Bool.or_eq_true, beq_iff_eq, beq_iff_eq] at word
        exact word.imp (congrArg some) (congrArg some)
    · rename_i kind
      exact iff_of_false (by simp) fun same => kind (beq_iff_eq.2 same)

end Node

/-- Something is declared, and nothing with `var`. -/
structure Index.IsBlockScoped (index : Index root) : Prop where
  declares : ∃ node ∈ index.nodes, node.isBlockScoped = true
  keeps : ∀ node ∈ index.nodes, node.declarationWord ≠ some "var"

namespace Detectors

/-! ### Declarations that are not block-scoped -/

/-- The declarations of a snippet. -/
def declared (context : Context root) : List (Node root) :=
  context.ofKinds [.variableDeclaration, .lexicalDeclaration]

/-- The declarations with `var`. -/
def unscoped (context : Context root) : List (Node root) :=
  (declared context).filter fun node => node.declarationWord == some "var"

/-- The declarations with the word `var` are those of the kind, in some order. -/
theorem perm_unscoped (context : Context root) :
    (unscoped context).Perm (context.ofKind .variableDeclaration) := by
  have own : (context.ofKind .variableDeclaration).filter
      (fun node => node.declarationWord == some "var") = context.ofKind .variableDeclaration :=
    List.filter_eq_self.2 fun node listed => beq_iff_eq.2
      (Node.declarationWord_eq_var_iff.2 (eq_of_beq (List.mem_filter.1 listed).2))
  have other : (context.ofKind .lexicalDeclaration).filter
      (fun node => node.declarationWord == some "var") = [] := by
    refine List.filter_eq_nil_iff.2 fun node listed word => ?_
    have kind : node.kind = .lexicalDeclaration := eq_of_beq (List.mem_filter.1 listed).2
    rw [Node.declarationWord_eq_var_iff.1 (eq_of_beq word)] at kind
    cases kind
  have gathered := context.index.perm_ofKinds [.variableDeclaration, .lexicalDeclaration]
  rw [List.flatMap_cons, List.flatMap_singleton] at gathered
  have selected := gathered.filter fun node => node.declarationWord == some "var"
  rw [List.filter_append] at selected
  exact selected.trans (.of_eq ((congrArg₂ (· ++ ·) own other).trans (List.append_nil _)))

theorem mem_declared_iff :
    node ∈ declared context ↔
      node ∈ context.index.nodes ∧
        (node.declarationWord = some "var" ∨ node.isBlockScoped = true) := by
  rw [declared, Context.ofKinds, Index.mem_ofKinds_iff, Node.declarationWord_eq_var_iff,
    Node.isBlockScoped_iff, List.mem_cons, List.mem_singleton]

theorem unscoped_eq_nil_iff :
    unscoped context = [] ↔
      ∀ node ∈ context.index.nodes, node.declarationWord ≠ some "var" := by
  rw [unscoped, List.filter_eq_nil_iff]
  constructor
  · intro absent node indexed word
    exact absent node (mem_declared_iff.2 ⟨indexed, .inl word⟩) (beq_iff_eq.2 word)
  · intro absent node listed word
    exact absent node (mem_declared_iff.1 listed).1 (eq_of_beq word)

/-- Something is declared, and nothing with `var`, exactly if this can be said of the index. -/
theorem isBlockScoped_index_iff :
    unscoped context = [] ∧ declared context ≠ [] ↔ context.index.IsBlockScoped := by
  rw [unscoped_eq_nil_iff]
  constructor
  · rintro ⟨absent, filled⟩
    obtain ⟨node, listed⟩ := List.exists_mem_of_ne_nil _ filled
    obtain ⟨indexed, word⟩ := mem_declared_iff.1 listed
    exact ⟨⟨node, indexed, word.resolve_left (absent node indexed)⟩, absent⟩
  · rintro ⟨⟨node, indexed, word⟩, absent⟩
    exact ⟨absent, List.ne_nil_of_mem (mem_declared_iff.2 ⟨indexed, .inr word⟩)⟩

/-! ### What is found -/

/-- The findings against the code. -/
def blames (findings : List (Finding root)) : List (Finding root) :=
  findings.filter fun finding => finding.verdict.negative

/-- There is one finding, and it is in favour of the snippet as a whole. -/
def OnlyPraises (findings : List (Finding root)) : Prop :=
  ∃ finding, findings = [finding] ∧ finding.site = none ∧ finding.verdict.positive = true

/-- There is one finding, and it is against the code. -/
def OnlyBlames (findings : List (Finding root)) : Prop :=
  ∃ finding, findings = [finding] ∧ finding.verdict.negative = true

/-- What is said of a snippet in which nothing is declared with `var`. -/
def overallPraise (context : Context root) (text : String) : List (Finding root) :=
  if (declared context).isEmpty then [] else [.overall .idiom text]

theorem onlyPraises_overallPraise_iff {text : String} :
    OnlyPraises (overallPraise context text) ↔ declared context ≠ [] := by
  unfold overallPraise
  split
  · rename_i empty
    refine iff_of_false ?_ fun filled => filled (List.isEmpty_iff.1 empty)
    rintro ⟨finding, only, -⟩
    cases only
  · rename_i filled
    exact iff_of_true ⟨_, rfl, rfl, rfl⟩ fun empty => filled (List.isEmpty_iff.2 empty)

theorem blames_overallPraise (context : Context root) (text : String) :
    blames (overallPraise context text) = [] := by
  unfold overallPraise
  split <;> rfl

theorem sites_varHoisting (context : Context root) :
    (Variables.varHoisting context).map Finding.site =
      (context.ofKind .variableDeclaration).map some := by
  rw [Variables.varHoisting, List.map_map]
  rfl

/-- The second check judges the declarations with `var`, or all declarations at once. -/
theorem letConstUsage_eq (context : Context root) :
    Essentials.letConstUsage context =
      if (unscoped context).isEmpty then
        overallPraise context "Using let/const instead of var"
      else (unscoped context).map fun node => .of .minorBad node "var used instead of let/const" :=
  rfl

/-- What is said against the code is said about the declarations with `var`. -/
theorem sites_blames_letConstUsage (context : Context root) :
    (blames (Essentials.letConstUsage context)).map Finding.site =
      (unscoped context).map some := by
  rw [letConstUsage_eq]
  split
  · rename_i absent
    rw [blames_overallPraise, List.isEmpty_iff.1 absent]
    rfl
  · rw [blames, List.filter_eq_self.2, List.map_map]
    · rfl
    · intro finding member
      obtain ⟨node, -, rfl⟩ := List.mem_map.1 member
      rfl

theorem onlyPraises_letConstUsage_iff :
    OnlyPraises (Essentials.letConstUsage context) ↔
      unscoped context = [] ∧ declared context ≠ [] := by
  rw [letConstUsage_eq, ← List.isEmpty_iff]
  split
  · rename_i absent
    rw [onlyPraises_overallPraise_iff, and_iff_right absent]
  · rename_i present
    refine iff_of_false ?_ fun empty => present empty.1
    rintro ⟨finding, only, -, positive⟩
    obtain ⟨node, -, rfl⟩ := List.mem_map.1 (only ▸ List.mem_singleton_self finding)
    cases positive

/-- The third check judges the first declaration with `var`, or all declarations at once. -/
theorem noVar_eq (context : Context root) :
    Pitfalls.noVar context =
      match (unscoped context).head? with
      | some node => [.of .minorBad node "var declaration found — use let or const instead"]
      | none => overallPraise context "No var declarations — using modern let/const" := by
  rw [unscoped, List.head?_filter]
  rfl

theorem onlyPraises_noVar_iff :
    OnlyPraises (Pitfalls.noVar context) ↔ unscoped context = [] ∧ declared context ≠ [] := by
  rw [noVar_eq]
  cases first : unscoped context with
  | nil => exact onlyPraises_overallPraise_iff.trans (and_iff_right rfl).symm
  | cons node rest =>
    refine iff_of_false ?_ fun empty => List.cons_ne_nil _ _ empty.1
    rintro ⟨finding, only, -, positive⟩
    cases only
    cases positive

theorem onlyBlames_noVar_iff : OnlyBlames (Pitfalls.noVar context) ↔ unscoped context ≠ [] := by
  rw [noVar_eq]
  cases unscoped context with
  | nil =>
    refine iff_of_false ?_ (absurd rfl)
    rintro ⟨finding, only, negative⟩
    have listed : finding ∈ blames (overallPraise context _) :=
      List.mem_filter.2 ⟨only ▸ List.mem_singleton_self finding, negative⟩
    rw [blames_overallPraise] at listed
    cases listed
  | cons node rest => exact iff_of_true ⟨_, rfl, rfl⟩ (List.cons_ne_nil _ _)

/-- What the third check says against the code is said about a declaration with `var`. -/
theorem exists_unscoped_of_mem_noVar {finding : Finding root}
    (member : finding ∈ Pitfalls.noVar context) (negative : finding.verdict.negative = true) :
    ∃ node ∈ unscoped context, finding.site = some node := by
  rw [noVar_eq] at member
  cases first : unscoped context with
  | nil =>
    rw [first] at member
    have listed : finding ∈ blames (overallPraise context _) := List.mem_filter.2 ⟨member, negative⟩
    rw [blames_overallPraise] at listed
    cases listed
  | cons node rest =>
    rw [first] at member
    cases List.mem_singleton.1 member
    exact ⟨node, List.mem_cons_self, rfl⟩

/-- The three checks agree. The first one lists the places that the second one blames, each as
often. The third one blames the code, with a single finding at one of these places, exactly if there
are any. The second one praises the snippet exactly if the third one does, and exactly if the index
has a declaration with `let` or `const` and none with `var`. -/
theorem declaration_checks_agree (root : Tree) (context : Context root) :
    ((Variables.varHoisting context).map Finding.site).Perm
      ((blames (Essentials.letConstUsage context)).map Finding.site) ∧
    (OnlyBlames (Pitfalls.noVar context) ↔ Variables.varHoisting context ≠ []) ∧
    (∀ finding ∈ blames (Pitfalls.noVar context),
      finding.site ∈ (Variables.varHoisting context).map Finding.site) ∧
    (OnlyPraises (Essentials.letConstUsage context) ↔ OnlyPraises (Pitfalls.noVar context)) ∧
    (OnlyPraises (Pitfalls.noVar context) ↔ context.index.IsBlockScoped) := by
  have same := perm_unscoped context
  refine ⟨?_, ?_, fun finding member => ?_, ?_, ?_⟩
  · rw [sites_varHoisting, sites_blames_letConstUsage]
    exact (same.map some).symm
  · rw [onlyBlames_noVar_iff, Variables.varHoisting, ne_eq, ne_eq, List.map_eq_nil_iff]
    exact not_congr ⟨fun empty => (empty ▸ same).nil_eq.symm, fun empty => (empty ▸ same).eq_nil⟩
  · obtain ⟨listed, negative⟩ := List.mem_filter.1 member
    obtain ⟨node, unscoped, site⟩ := exists_unscoped_of_mem_noVar listed negative
    rw [site, sites_varHoisting]
    exact List.mem_map_of_mem (same.mem_iff.1 unscoped)
  · rw [onlyPraises_letConstUsage_iff, onlyPraises_noVar_iff]
  · rw [onlyPraises_noVar_iff, isBlockScoped_index_iff]

end Detectors

end SnippetTutor
