import SnippetTutor.Analysis.Basic

/-!
# Performance by topic

How well a snippet does on each of its topics, as a score from 0 to 1.
-/

namespace SnippetTutor

/-- How often a topic was met, and with what verdict. -/
structure TopicPerformance where
  topic : String
  total : Nat
  positive : Nat
  negative : Nat
  idiomatic : Nat
  deriving DecidableEq, Repr

namespace TopicPerformance

/-- The performance on a topic, given all detections of it. -/
def ofDetections (topic : String) (detections : List Detection) : TopicPerformance where
  topic := topic
  total := detections.length
  positive := (Analysis.positivesOf detections).length
  negative := detections.countP Detection.negative
  idiomatic := detections.countP Detection.idiomatic

/-- A value moved into the range from 0 to 1. -/
def clamp (x : Float) : Float := if x < 0 then 0 else if 1 < x then 1 else x

/-- The share of a count. -/
def share (count total : Nat) : Float := Float.ofNat count / Float.ofNat total

/-- The share of what is right, less half the share of what is wrong, and a tenth more for an
idiom. -/
def score (performance : TopicPerformance) : Float :=
  if performance.total == 0 then 0.5
  else
    let base := share performance.positive performance.total -
      0.5 * share performance.negative performance.total
    clamp (if performance.idiomatic == 0 then base else base + 0.1)

/-- The performance on every topic, in order of first mention. -/
def ofAll (detections : List Detection) : List TopicPerformance :=
  (Keyed.groupBy Detection.topic detections).map fun group => ofDetections group.1 group.2

end TopicPerformance

end SnippetTutor
