import Mathlib.Tactic.SplitIfs
import SnippetTutor.Proofs.Success
import SnippetTutor.Snippet.Reading

/-!
# What a reading complains about

All diagnostics of a reading are about reading: those of syntax errors, wherever in the tree they
are met, and the one that says why nothing was read or why the tree was cut. Only syntax errors have
a line.

* `Bound.printed_of_printable` and `Bound.printed_of_unprintable`: a limit is shown or is a fault;
* `Reading.ofParsed_cases` says what comes of a tree, `Reading.cases_of_ofParsed` and
  `Reading.cases_of_read` what a reading is a reading of;
* `Reading.kind_of_mem_read`: every diagnostic of a reading is about reading.
-/

namespace SnippetTutor

namespace Bound

theorem printed_of_printable {bound : Bound} (printable : bound.isPrintable = true) :
    bound.printed = .ok bound.shown := if_pos printable

theorem printed_of_unprintable {bound : Bound} (unprintable : bound.isPrintable = false) :
    bound.printed = .error .tooLong := if_neg (Bool.eq_false_iff.1 unprintable)

theorem printed_int_of_writable {value : Int} (writable : Number.isWritable value = true) :
    (int value).printed = .ok (toString value) := printed_of_printable writable

theorem printed_int_of_unwritable {value : Int} (unwritable : Number.isWritable value = false) :
    (int value).printed = .error .tooLong := printed_of_unprintable unwritable

end Bound

namespace Diagnostic

variable {root : Tree}

theorem kind_of_mem_own {node : Node root} {diagnostic : Diagnostic}
    (member : diagnostic ∈ own node) : diagnostic.kind = .parse := by
  unfold own at member
  split_ifs at member
  · rw [List.mem_singleton.1 member]
    rfl
  · rw [List.mem_singleton.1 member]
    rfl
  · exact absurd member List.not_mem_nil

theorem line_pos_of_mem_own {node : Node root} {diagnostic : Diagnostic}
    (member : diagnostic ∈ own node) : 0 < diagnostic.line := by
  have counted : 0 < node.line := by
    unfold Node.line
    omega
  unfold own at member
  split_ifs at member
  · rw [List.mem_singleton.1 member]
    exact counted
  · rw [List.mem_singleton.1 member]
    exact counted
  · exact absurd member List.not_mem_nil

/-- What is collected from suspect places is what some place says itself. -/
theorem exists_own_of_mem_collect {limit : Nat} {agenda : List (Node root)}
    {diagnostic : Diagnostic} (member : diagnostic ∈ collect limit agenda) :
    ∃ node : Node root, diagnostic ∈ own node := by
  -- The induction follows the agenda: what a place says itself, then what its suspects say.
  fun_induction collect limit agenda with
  | case1 => exact absurd member List.not_mem_nil
  | case2 node agenda => exact absurd member List.not_mem_nil
  | case3 limit node agenda _ ih =>
    rcases List.mem_append.1 member with here | later
    · exact ⟨node, here⟩
    · exact ih later

theorem exists_own_of_mem_syntaxErrors {limit : Nat} {root : Tree} {diagnostic : Diagnostic}
    (member : diagnostic ∈ syntaxErrors limit root) :
    ∃ node : Node root, diagnostic ∈ own node := by
  unfold syntaxErrors at member
  split_ifs at member
  · exact exists_own_of_mem_collect member
  · exact absurd member List.not_mem_nil

theorem kind_of_mem_syntaxErrors {limit : Nat} {root : Tree} {diagnostic : Diagnostic}
    (member : diagnostic ∈ syntaxErrors limit root) : diagnostic.kind = .parse := by
  obtain ⟨node, own⟩ := exists_own_of_mem_syntaxErrors member
  exact kind_of_mem_own own

/-- Syntax errors are told by line, and lines count from one. -/
theorem line_pos_of_mem_syntaxErrors {limit : Nat} {root : Tree} {diagnostic : Diagnostic}
    (member : diagnostic ∈ syntaxErrors limit root) : 0 < diagnostic.line := by
  obtain ⟨node, own⟩ := exists_own_of_mem_syntaxErrors member
  exact line_pos_of_mem_own own

end Diagnostic

namespace Reading

theorem kind_of_mem_failure {dialect : Dialect} {message : String}
    {diagnostics : List Diagnostic} {diagnostic : Diagnostic}
    (others : ∀ other ∈ diagnostics, other.kind = .parse)
    (member : diagnostic ∈ (failure dialect message diagnostics).diagnostics) :
    diagnostic.kind = .parse := by
  rcases List.mem_cons.1 member with rfl | member
  · rfl
  · exact others diagnostic member

/-- What is said about a tree that is cut. -/
def cutNotice (depth : Bound) (parsed : Parsed) : List Diagnostic :=
  if parsed.index.truncated then [.truncation depth.shown] else []

/-- What comes of an indexed tree: nothing is read if it is hopeless; otherwise it is read, unless
the limit that cut it cannot be shown. -/
theorem ofParsed_cases (dialect : Dialect) (depth : Bound) (parsed : Parsed) :
    let errors := Diagnostic.syntaxErrors Diagnostic.maxSyntaxErrors parsed.root
    (isHopeless parsed.root = true ∧
      ofParsed dialect depth parsed =
        .ok (failure dialect "No statement could be recovered" errors)) ∨
    (isHopeless parsed.root = false ∧
      ofParsed dialect depth parsed =
        .ok (ofUsable dialect parsed (errors ++ cutNotice depth parsed))) ∨
    (isHopeless parsed.root = false ∧ parsed.index.truncated = true ∧ depth.isPrintable = false ∧
      ofParsed dialect depth parsed = .error .tooLong) := by
  intro errors
  unfold ofParsed cutNotice
  cases hopeless : isHopeless parsed.root with
  | true => exact .inl ⟨rfl, rfl⟩
  | false =>
    cases cut : parsed.index.truncated with
    | false => exact .inr (.inl ⟨rfl, by simp [errors]⟩)
    | true =>
      cases printable : depth.isPrintable with
      | true =>
        rw [Bound.printed_of_printable printable]
        exact .inr (.inl ⟨rfl, rfl⟩)
      | false =>
        rw [Bound.printed_of_unprintable printable]
        exact .inr (.inr ⟨rfl, rfl, rfl, rfl⟩)

section

variable {dialect : Dialect} {depth : Bound} {parsed : Parsed} {reading : Reading}
  (ended : ofParsed dialect depth parsed = .ok reading)

include ended

/-- The reading of a tree is of nothing, or of the tree. -/
theorem cases_of_ofParsed :
    let errors := Diagnostic.syntaxErrors Diagnostic.maxSyntaxErrors parsed.root
    (isHopeless parsed.root = true ∧
      reading = failure dialect "No statement could be recovered" errors) ∨
    (isHopeless parsed.root = false ∧
      reading = ofUsable dialect parsed (errors ++ cutNotice depth parsed)) := by
  intro errors
  rcases ofParsed_cases dialect depth parsed with
    ⟨hopeless, made⟩ | ⟨usable, made⟩ | ⟨-, -, -, failed⟩
  · cases made.symm.trans ended
    exact .inl ⟨hopeless, rfl⟩
  · cases made.symm.trans ended
    exact .inr ⟨usable, rfl⟩
  · cases failed.symm.trans ended

theorem kind_of_mem_ofParsed {diagnostic : Diagnostic}
    (member : diagnostic ∈ reading.diagnostics) : diagnostic.kind = .parse := by
  rcases cases_of_ofParsed ended with ⟨-, rfl⟩ | ⟨-, rfl⟩
  · exact kind_of_mem_failure (fun _ listed => Diagnostic.kind_of_mem_syntaxErrors listed) member
  · rcases List.mem_append.1 member with error | notice
    · exact Diagnostic.kind_of_mem_syntaxErrors error
    · unfold cutNotice at notice
      split at notice
      · rw [List.mem_singleton.1 notice]
        rfl
      · exact absurd notice List.not_mem_nil

end

section

variable {limits : ReadingLimits} {parses : Parses} {hint : Option Dialect} {source : Source}
  {reading : Reading} (ended : read limits parses hint source = .ok reading)

include ended

/-- A reading is of a tree that was parsed, or of nothing. -/
theorem cases_of_read :
    (∃ dialect message, message.toList.head? ≠ some 'T' ∧ reading = failure dialect message []) ∨
      ∃ dialect parsed, parse parses limits.treeDepth hint = .ok (dialect, parsed) ∧
        ofParsed dialect limits.treeDepth parsed = .ok reading := by
  unfold read at ended
  split at ended
  · cases ended
    exact .inl ⟨_, _, by simp, rfl⟩
  · obtain ⟨long, -, ended⟩ := bind_eq_ok.1 ended
    split at ended
    · obtain ⟨bytes, -, rfl⟩ := map_eq_ok.1 ended
      exact .inl ⟨_, _, by simp, rfl⟩
    · split at ended
      · cases ended
        exact .inl ⟨_, _, by simp, rfl⟩
      · rename_i dialect parsed found
        exact .inr ⟨dialect, parsed, found, ended⟩

/-- Every diagnostic of a reading is about reading. -/
theorem kind_of_mem_read {diagnostic : Diagnostic} (member : diagnostic ∈ reading.diagnostics) :
    diagnostic.kind = .parse := by
  rcases cases_of_read ended with ⟨dialect, message, -, rfl⟩ | ⟨dialect, parsed, -, made⟩
  · exact kind_of_mem_failure (fun _ absent => absurd absent List.not_mem_nil) member
  · exact kind_of_mem_ofParsed made member

end

end Reading

end SnippetTutor
