import Mathlib.Data.List.DropRight
import SnippetTutor.Proofs.SyntaxErrors

/-!
# Excerpts in messages

The message about a construct that makes no sense quotes the start of its text: the first line of
what is left without the white space around it, cut short.

* `Text.trim_eq_iff` says what is left when a class of characters is removed at both ends, and
  `Text.lines` is the splitting into lines, whose first one is `Text.firstLine`
  (`Text.headD_lines`);
* `Diagnostic.prefix_excerpt_iff`: the beginnings of an excerpt are the beginnings of the stripped
  text that are short and have no line break. So the excerpt is the longest of them, and it is empty
  only for a blank text (`Diagnostic.excerpt_eq_nil_iff`): a stripped text begins with a character
  that is not blank, which is no line break either;
* `Diagnostic.unexpected_excerpted` says this of the messages, and that every syntax error that is
  not about a missing token has one of them.
-/

namespace SnippetTutor

namespace Text

/-! ### Stripped texts -/

/-- A text is what another one is without the characters of a class at its ends. -/
structure IsTrimmed (inClass : Char → Bool) (text core : List Char) : Prop where
  surrounded : ∃ before after, text = before ++ core ++ after ∧
    (∀ c ∈ before, inClass c = true) ∧ ∀ c ∈ after, inClass c = true
  first : ∀ c ∈ core.head?, inClass c = false
  last : ∀ c ∈ core.getLast?, inClass c = false

variable {inClass : Char → Bool} {text core : List Char}

/-- The two ends are trimmed one after the other. -/
theorem trim_eq_rdropWhile (inClass : Char → Bool) (text : List Char) :
    trim inClass text = (text.dropWhile inClass).rdropWhile inClass := rfl

theorem rdropWhile_append_of_pos {after : List Char} (within : ∀ c ∈ after, inClass c = true) :
    (core ++ after).rdropWhile inClass = core.rdropWhile inClass := by
  rw [List.rdropWhile, List.reverse_append, List.dropWhile_append_of_pos (by simpa using within)]
  rfl

theorem isTrimmed_trim (inClass : Char → Bool) (text : List Char) :
    IsTrimmed inClass text (trim inClass text) where
  surrounded := by
    refine ⟨text.takeWhile inClass, (text.dropWhile inClass).rtakeWhile inClass, ?_,
      fun c => List.mem_takeWhile_imp, fun c => List.mem_rtakeWhile_imp⟩
    rw [trim_eq_rdropWhile, List.append_assoc, List.rdropWhile_append_rtakeWhile,
      List.takeWhile_append_dropWhile]
  first c starts := by
    -- Trimming the end keeps the start, and there the first trimming stopped.
    obtain ⟨after, whole⟩ : trim inClass text <+: text.dropWhile inClass :=
      List.rdropWhile_prefix inClass _
    obtain ⟨later, left⟩ := List.head?_eq_some_iff.1 starts
    have stops := List.head?_dropWhile_not inClass text
    rw [← whole, left] at stops
    exact stops
  last c ends := by
    obtain ⟨filled, rfl⟩ := List.mem_getLast?_eq_getLast ends
    exact Bool.eq_false_iff.2 (List.rdropWhile_last_not inClass _ filled)

/-- Trimming leaves what stands between two runs of the class and neither begins nor ends in it. -/
theorem trim_eq_iff : trim inClass text = core ↔ IsTrimmed inClass text core := by
  refine ⟨fun same => same ▸ isTrimmed_trim inClass text, ?_⟩
  rintro ⟨⟨before, after, rfl, within, within'⟩, first, last⟩
  rw [trim_eq_rdropWhile, List.append_assoc, List.dropWhile_append_of_pos within]
  cases core with
  | nil => rw [List.nil_append, List.dropWhile_eq_nil_iff.2 within', List.rdropWhile_nil]
  | cons c rest =>
    have starts : (c :: rest ++ after).dropWhile inClass = c :: rest ++ after :=
      List.dropWhile_cons_of_neg (Bool.eq_false_iff.1 (first c rfl))
    have ends : (c :: rest).rdropWhile inClass = c :: rest :=
      List.rdropWhile_eq_self_iff.2 fun filled =>
        Bool.eq_false_iff.1 (last _ (List.getLast_mem_getLast? filled))
    rw [starts, rdropWhile_append_of_pos within', ends]

/-- Nothing is left of a text exactly when it is blank. -/
theorem strip_eq_nil_iff : strip text = [] ↔ ∀ c ∈ text, isBlank c = true := by
  rw [strip, trim_eq_iff]
  constructor
  · rintro ⟨⟨before, after, rfl, blank, blank'⟩, -, -⟩ c member
    rw [List.append_nil] at member
    exact (List.mem_append.1 member).elim (blank c) (blank' c)
  · intro blank
    exact ⟨⟨text, [], by simp, blank, by simp⟩, by simp, by simp⟩

/-! ### Lines -/

/-- The lines of a text without the characters that end them. A carriage return and a line feed
behind it end one line together. -/
def lines : List Char → List (List Char)
  | [] => []
  | '\r' :: '\n' :: rest => [] :: lines rest
  | c :: rest =>
    if isLineBreak c then [] :: lines rest
    else
      match lines rest with
      | line :: later => (c :: line) :: later
      | [] => [[c]]

/-- What stands before the first line break is the first line, if there is one. -/
theorem headD_lines (text : List Char) : (lines text).headD [] = firstLine text := by
  fun_induction lines text with
  | case1 => rfl
  | case2 rest ih => rfl
  | case3 c rest _ ends ih => simp [firstLine, ends]
  | case4 c rest _ stays line later split ih =>
    rw [split] at ih
    simpa [firstLine, stays] using ih
  | case5 c rest _ stays split ih =>
    rw [split] at ih
    simpa [firstLine, stays] using ih

example : lines "a\r\n\u2028b\n".toList = [['a'], [], ['b']] := by decide

/-- The beginnings of the first line are the beginnings of the text without a line break. -/
theorem prefix_firstLine_iff {near : List Char} :
    near <+: firstLine text ↔ near <+: text ∧ ∀ c ∈ near, isLineBreak c = false := by
  constructor
  · intro begins
    refine ⟨begins.trans (List.takeWhile_prefix _), fun c member => ?_⟩
    simpa only [Bool.not_eq_true'] using List.mem_takeWhile_imp (begins.subset member)
  · rintro ⟨⟨rest, rfl⟩, stays⟩
    rw [firstLine, List.takeWhile_append_of_pos (by simpa using stays)]
    exact List.prefix_append _ _

end Text

/-! ### Excerpts -/

namespace Diagnostic

variable {text near : List Char}

/-- The beginnings of an excerpt are the beginnings of the stripped text that are short and have no
line break in them. -/
theorem prefix_excerpt_iff :
    near <+: excerpt text ↔
      near <+: Text.strip text ∧ near.length ≤ excerptLength ∧
        ∀ c ∈ near, Text.isLineBreak c = false := by
  rw [excerpt, List.prefix_take_iff, Text.prefix_firstLine_iff, and_assoc,
    and_comm (b := near.length ≤ excerptLength)]

/-- An excerpt is empty exactly when the text is blank. -/
theorem excerpt_eq_nil_iff : excerpt text = [] ↔ ∀ c ∈ text, Text.isBlank c = true := by
  rw [← Text.strip_eq_nil_iff]
  constructor
  · intro empty
    cases stripped : Text.strip text with
    | nil => rfl
    | cons c rest =>
      -- Line breaks are blank, so the first line of what is left has this character in it.
      have outside : Text.isBlank c = false := (Text.trim_eq_iff.1 stripped).first c rfl
      have stays : Text.isLineBreak c = false := by
        rw [Bool.eq_false_iff] at outside ⊢
        exact fun ends => outside (Text.isBlank_of_isLineBreak ends)
      have quoted : [c] <+: excerpt text :=
        prefix_excerpt_iff.2 ⟨⟨rest, stripped.symm⟩, Nat.le_add_left 1 39, by simpa using stays⟩
      rw [empty, List.prefix_nil] at quoted
      cases quoted
  · intro stripped
    rw [excerpt, stripped]
    rfl

/-- The excerpt is the first line of the stripped text, cut short. -/
theorem exists_lines_strip (filled : excerpt text ≠ []) :
    ∃ line later, Text.lines (Text.strip text) = line :: later ∧
      excerpt text = line.take excerptLength := by
  have first := Text.headD_lines (Text.strip text)
  cases split : Text.lines (Text.strip text) with
  | nil =>
    rw [split] at first
    exact absurd (by rw [excerpt, ← first]; rfl) filled
  | cons line later =>
    rw [split] at first
    exact ⟨line, later, rfl, by rw [excerpt, ← first]; rfl⟩

/-- What a message quotes of a stripped text: the longest beginning that is short and has no line
break in it, which is the first line cut short. -/
structure IsExcerpt (stripped near : List Char) : Prop where
  filled : near ≠ []
  begins : near <+: stripped
  short : near.length ≤ 40
  single : ∀ c ∈ near, Text.isLineBreak c = false
  longest : ∀ other, other <+: stripped → other.length ≤ 40 →
    (∀ c ∈ other, Text.isLineBreak c = false) → other <+: near
  line : ∃ line later, Text.lines stripped = line :: later ∧ near = line.take 40

theorem isExcerpt_excerpt (filled : excerpt text ≠ []) :
    IsExcerpt (Text.strip text) (excerpt text) := by
  obtain ⟨begins, short, single⟩ := prefix_excerpt_iff.1 (List.prefix_refl (excerpt text))
  exact
    { filled, begins, short, single
      longest := fun other start few whole => prefix_excerpt_iff.2 ⟨start, few, whole⟩
      line := exists_lines_strip filled }

/-! ### Messages -/

theorem unexpected_of_excerpt_ne_nil {text : String} (filled : excerpt text.toList ≠ []) :
    unexpected text =
      "Unexpected token near '" ++ String.ofList (excerpt text.toList) ++ "'" := by
  unfold unexpected
  split
  · rename_i empty
    exact absurd empty filled
  · rfl

/-- A message quotes nothing exactly when there is nothing to quote. -/
theorem unexpected_eq_bare_iff {text : String} :
    unexpected text = "Unexpected token" ↔ excerpt text.toList = [] := by
  constructor
  · intro bare
    by_contra filled
    rw [unexpected_of_excerpt_ne_nil filled] at bare
    have long := congrArg String.length bare
    simp only [String.length_append] at long
    have quoting : "Unexpected token near '".length = 23 := by decide
    have plain : "Unexpected token".length = 16 := by decide
    omega
  · intro empty
    unfold unexpected
    rw [empty]

end Diagnostic

namespace Tree

/-- Every problem of a tree is that of a missing token or of an error in it. -/
theorem exists_part_of_mem_problems {tree : Tree} {diagnostic : Diagnostic}
    (member : diagnostic ∈ tree.problems) :
    ∃ part ∈ tree.parts,
      part.label.missing = true ∧ diagnostic = .ofMissing part.label ∨
      part.label.missing = false ∧ part.label.name = "ERROR" ∧
        diagnostic = .ofError part.label := by
  induction tree using subtreeInduction with
  | step tree ih =>
    cases missing : tree.label.missing with
    | true =>
      rw [problems_of_missing missing, List.mem_singleton] at member
      exact ⟨tree, tree.self_mem_parts, .inl ⟨missing, member⟩⟩
    | false =>
      rw [problems_of_not_missing missing, List.mem_append] at member
      rcases member with own | lower
      · split at own
        · rename_i error
          exact ⟨tree, tree.self_mem_parts, .inr ⟨missing, error, List.mem_singleton.1 own⟩⟩
        · cases own
      · obtain ⟨below, suspect, member⟩ := List.mem_flatMap.1 lower
        have child := (List.mem_filter.1 suspect).1
        obtain ⟨part, inside, source⟩ := ih below child member
        exact ⟨part, parts_of_mem_subtrees child inside, source⟩

end Tree

namespace Diagnostic

/-- The message about a construct that makes no sense quotes nothing exactly when the text of the
construct is blank. Otherwise it quotes, of the text without the white space around it, the longest
beginning of at most forty characters without a line break, and that is not empty. Every syntax
error of a tree is about a missing token or has such a message about the text of an error. -/
theorem unexpected_excerpted :
    (∀ text : String,
      (unexpected text = "Unexpected token" ↔ ∀ c ∈ text.toList, Text.isBlank c = true) ∧
      ((∃ c ∈ text.toList, Text.isBlank c = false) →
        ∃ stripped near, Text.IsTrimmed Text.isBlank text.toList stripped ∧
          IsExcerpt stripped near ∧
          unexpected text = "Unexpected token near '" ++ String.ofList near ++ "'")) ∧
    ∀ (limit : Nat) (root : Tree), ∀ diagnostic ∈ syntaxErrors limit root, ∃ part ∈ root.parts,
      part.label.missing = true ∧ diagnostic = ofMissing part.label ∨
      part.label.missing = false ∧ part.label.name = "ERROR" ∧
        diagnostic = ofError part.label := by
  refine ⟨fun text => ⟨?_, ?_⟩, fun limit root diagnostic listed => ?_⟩
  · rw [unexpected_eq_bare_iff, excerpt_eq_nil_iff]
  · rintro ⟨c, member, outside⟩
    have filled : excerpt text.toList ≠ [] := by
      intro empty
      rw [excerpt_eq_nil_iff.1 empty c member] at outside
      cases outside
    exact ⟨Text.strip text.toList, excerpt text.toList, Text.isTrimmed_trim _ _,
      isExcerpt_excerpt filled, unexpected_of_excerpt_ne_nil filled⟩
  · rw [syntaxErrors_eq] at listed
    split at listed
    · exact Tree.exists_part_of_mem_problems (List.mem_of_mem_take listed)
    · cases listed

/-- In a snippet of two errors the first one spans two lines of which the first is too long to be
quoted whole, and the second one is white space. -/
theorem unexpected_excerpted_two_errors :
    let outline : Outline :=
      .node "program" "" true false true 0 56
        [.node "identifier" "" true false false 0 1 [],
         .node "ERROR" "" true false true 1 51 [],
         .node "ERROR" "" true false true 52 56 []]
    let noise := "\u3000@@ nobody could make any sense of this here\u2028y"
    let root := outline.toTree ("x" ++ noise ++ "\n\u2029\x1c")
    let first : Diagnostic :=
      { message := "Unexpected token near '@@ nobody could make any sense of this h'"
        line := 1
        column := 1 }
    let second : Diagnostic := { message := "Unexpected token", line := 2, column := 0 }
    syntaxErrors 50 root = [first, second] ∧
      (∃ c ∈ noise.toList, Text.isBlank c = false) ∧
      (∃ stripped near, Text.IsTrimmed Text.isBlank noise.toList stripped ∧
        IsExcerpt stripped near ∧
        unexpected noise = "Unexpected token near '" ++ String.ofList near ++ "'") ∧
      ∃ part ∈ root.parts,
        part.label.missing = true ∧ first = ofMissing part.label ∨
        part.label.missing = false ∧ part.label.name = "ERROR" ∧
          first = ofError part.label := by
  intro outline noise root first second
  have listed : syntaxErrors 50 root = [first, second] := by decide +kernel
  have visible : ∃ c ∈ noise.toList, Text.isBlank c = false := ⟨'@', by decide, by decide⟩
  have member : first ∈ syntaxErrors 50 root := by
    rw [listed]
    exact List.mem_cons_self
  exact ⟨listed, visible, (unexpected_excerpted.1 noise).2 visible,
    unexpected_excerpted.2 50 root first member⟩

end Diagnostic

end SnippetTutor
