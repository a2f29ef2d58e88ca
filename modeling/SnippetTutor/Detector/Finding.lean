import SnippetTutor.Detection.Basic

/-!
# Findings

What a detector says about a construct, before it is tied to a topic. A finding stands at a node
of the tree it was made for, so its location is that of a real construct. A verdict is four marks
that a detector sets one by one, with the proof that it does not praise and blame an idiom in one
breath: what is marked as an idiom is in order, and neither wrong nor of little weight.
-/

namespace SnippetTutor

/-- How a finding is judged. -/
structure Verdict where
  positive : Bool := false
  negative : Bool := false
  /-- An idiom worth imitating. -/
  idiomatic : Bool := false
  trivial : Bool := false
  /-- Nothing is said against an idiom. -/
  praised : idiomatic = true → positive = true ∧ negative = false ∧ trivial = false := by decide
  deriving DecidableEq, Repr

namespace Verdict

/-- In order. -/
def good : Verdict := { positive := true }

/-- In order, and of little weight. -/
def minorGood : Verdict := { positive := true, trivial := true }

/-- Wrong. -/
def bad : Verdict := { negative := true }

/-- Wrong, but of little weight. -/
def minorBad : Verdict := { negative := true, trivial := true }

/-- In order, yet worth a note on style, of little weight. -/
def minorMixed : Verdict := { positive := true, negative := true, trivial := true }

/-- An idiom. -/
def idiom : Verdict := { positive := true, idiomatic := true }

/-- An idiom when a test is passed, and wrong when it is not. -/
def idiomOrBad (passed : Bool) : Verdict where
  positive := passed
  negative := !passed
  idiomatic := passed
  praised := by simp

/-- An idiom when a test is passed, and wrong in a small way when it is not. -/
def idiomOrMinorBad (passed : Bool) : Verdict where
  positive := passed
  negative := !passed
  idiomatic := passed
  trivial := !passed
  praised := by simp

/-- In order, and an idiom when a test is passed. -/
def idiomOrGood (passed : Bool) : Verdict where
  positive := true
  idiomatic := passed
  praised := by simp

end Verdict

/-- What a detector says about a construct of the tree `root`. -/
structure Finding (root : Tree) where
  verdict : Verdict
  /-- The construct; none for a finding about the snippet as a whole. -/
  site : Option (Node root) := none
  details : Option String := none

namespace Finding

variable {root : Tree}

/-- A finding about a construct. -/
def of (verdict : Verdict) (site : Node root) (details : String) : Finding root :=
  { verdict := verdict, site := some site, details := some details }

/-- A finding about a construct that passed a test or failed it, with a text for either case. -/
def tested (verdict : Bool → Verdict) (passed : Bool) (site : Node root) (praise blame : String) :
    Finding root :=
  .of (verdict passed) site (if passed then praise else blame)

/-- A finding about the snippet as a whole. -/
def overall (verdict : Verdict) (details : String) : Finding root :=
  { verdict := verdict, details := some details }

/-- The detection that a finding is for a given topic. -/
def toDetection (finding : Finding root) (topic : String) : Detection where
  topic := topic
  positive := finding.verdict.positive
  negative := finding.verdict.negative
  idiomatic := finding.verdict.idiomatic
  trivial := finding.verdict.trivial
  mark := finding.site.map fun site => site.location.mark
  details := finding.details

end Finding

end SnippetTutor
