import Mathlib.Algebra.GroupWithZero.Nat
import Mathlib.Data.List.Basic
import SnippetTutor.Analysis.Wire
import SnippetTutor.Proofs.StableOrder
import SnippetTutor.Proofs.Success

/-!
# Views of one analysis

What an analysis found is told several times: as counts, as a list of issues, topic by topic, as
topics worth feedback and in wire form. All of these are read off one list of detections, and they
agree.

* `Tally` holds the counts and the topics. It can be taken from the detections, from their wire form
  (`Tally.ofWire_map_toJson`) and from the performance by topic (`Tally.ofPerformances_ofAll`):
  the detections are grouped by topic (`TopicPerformance.ofAll_eq`), and the groups of a list by
  distinct keys are the list again (`perm_flatMap_filter`);
* `Analysis.issuesOf_eq_mergeSort`: the issues are the negative detections, sorted stably by weight;
* `Bound.firstItems_eq_take`: a limit below zero counts from the end;
* `Analysis.topicsOf_append`: topics mentioned first are listed first;
* `Analysis.views_agree` is all of it.
-/

namespace SnippetTutor

/-! ### Groups -/

/-- The groups of a list by distinct keys are the list again. -/
theorem perm_flatMap_filter {α β : Type} [DecidableEq β] (key : α → β) {keys : List β}
    (distinct : keys.Nodup) {items : List α} (listed : ∀ item ∈ items, key item ∈ keys) :
    (keys.flatMap fun k => items.filter fun item => key item == k).Perm items := by
  induction keys generalizing items with
  | nil =>
    cases items with
    | nil => exact .refl _
    | cons item rest => cases listed item List.mem_cons_self
  | cons first keys ih =>
    obtain ⟨absent, distinct⟩ := List.nodup_cons.1 distinct
    have others : (keys.flatMap fun k => items.filter fun item => key item == k) =
        keys.flatMap fun k =>
          (items.filter fun item => !(key item == first)).filter fun item => key item == k := by
      refine List.flatMap_congr fun k member => ?_
      rw [List.filter_filter]
      refine List.filter_congr fun item _ => Bool.eq_iff_iff.2 ?_
      have apart : key item = k → key item ≠ first := by
        rintro rfl rfl
        exact absent member
      simpa using apart
    rw [List.flatMap_cons, others]
    refine List.Perm.trans ((ih distinct ?_).append_left _)
      (List.filter_append_perm (fun item => key item == first) items)
    intro item member
    obtain ⟨member, apart⟩ := List.mem_filter.1 member
    rcases List.mem_cons.1 (listed item member) with equal | later
    · simp [equal] at apart
    · exact later

/-! ### Tallies -/

/-- How many detections there are, how many of each kind, and which topics they are about. -/
@[ext]
structure Tally where
  total : Nat
  positive : Nat
  negative : Nat
  idiomatic : Nat
  topics : List String
  deriving DecidableEq, Repr

/-- Whether a flag is set in the wire form of a detection. -/
def Json.hasFlag (json : Json) (key : String) : Bool := json.get? key = some (.bool true)

theorem Json.hasFlag_of_get? {json : Json} {key : String} {value : Bool}
    (found : json.get? key = some (.bool value)) : json.hasFlag key = value := by
  rw [hasFlag, found]
  cases value <;> simp

namespace Tally

/-- The tally of a list of detections: what is both right and wrong counts as wrong only. -/
def ofDetections (detections : List Detection) : Tally where
  total := detections.length
  positive := detections.countP fun detection => detection.positive && !detection.negative
  negative := detections.countP Detection.negative
  idiomatic := detections.countP Detection.idiomatic
  topics := (detections.map Detection.topic).eraseDups

/-- The tally of a list of detections in wire form. -/
def ofWire (detections : List Json) : Tally where
  total := detections.length
  positive := detections.countP fun detection =>
    detection.hasFlag "isPositive" && !detection.hasFlag "isNegative"
  negative := detections.countP fun detection => detection.hasFlag "isNegative"
  idiomatic := detections.countP fun detection => detection.hasFlag "isIdiomatic"
  topics := (detections.filterMap fun detection =>
    (detection.get? "topicSlug").bind Json.asText?).eraseDups

/-- The tally of the performances on all topics. -/
def ofPerformances (performances : List TopicPerformance) : Tally where
  total := (performances.map TopicPerformance.total).sum
  positive := (performances.map TopicPerformance.positive).sum
  negative := (performances.map TopicPerformance.negative).sum
  idiomatic := (performances.map TopicPerformance.idiomatic).sum
  topics := performances.map TopicPerformance.topic

/-- The wire form of a tally. -/
def toJson (tally : Tally) : Json :=
  .object
    [("totalDetections", .count tally.total),
     ("positiveCount", .count tally.positive),
     ("negativeCount", .count tally.negative),
     ("idiomaticCount", .count tally.idiomatic),
     ("topicsCovered", .texts tally.topics)]

/-- The wire form of detections tells as much as the detections. -/
theorem ofWire_map_toJson (detections : List Detection) :
    ofWire (detections.map Detection.toJson) = ofDetections detections := by
  have positive (detection : Detection) :
      detection.toJson.hasFlag "isPositive" = detection.positive := Json.hasFlag_of_get? rfl
  have negative (detection : Detection) :
      detection.toJson.hasFlag "isNegative" = detection.negative := Json.hasFlag_of_get? rfl
  have idiomatic (detection : Detection) :
      detection.toJson.hasFlag "isIdiomatic" = detection.idiomatic := Json.hasFlag_of_get? rfl
  have topic (detection : Detection) :
      (detection.toJson.get? "topicSlug").bind Json.asText? = some detection.topic := rfl
  unfold ofWire ofDetections
  simp only [List.length_map, List.countP_map, List.filterMap_map, Function.comp_def, positive,
    negative, idiomatic, topic, List.filterMap_eq_map']

end Tally

namespace Analysis

/-- The topics are those of all detections, each at its first mention. -/
theorem topicsOf_eq (detections : List Detection) :
    topicsOf detections = (detections.map Detection.topic).eraseDups := by
  have keys := map_key_keepFirst id (detections.map Detection.topic)
  rwa [List.map_id, List.map_id] at keys

theorem nodup_topicsOf (detections : List Detection) : (topicsOf detections).Nodup := by
  have keys := nodup_map_keepFirst id (detections.map Detection.topic)
  rwa [List.map_id] at keys

theorem mem_topicsOf {detections : List Detection} {topic : String} :
    topic ∈ topicsOf detections ↔ ∃ detection ∈ detections, detection.topic = topic := by
  rw [topicsOf_eq, List.mem_eraseDups, List.mem_map]

/-- Topics that are mentioned first are listed first. -/
theorem topicsOf_append (first second : List Detection) :
    topicsOf first <+: topicsOf (first ++ second) := by
  rw [topicsOf_eq, topicsOf_eq, List.map_append, List.eraseDups_append]
  exact List.prefix_append _ _

end Analysis

theorem TopicPerformance.positive_ofDetections (topic : String) (detections : List Detection) :
    (ofDetections topic detections).positive =
      detections.countP fun detection => detection.positive && !detection.negative :=
  List.countP_eq_length_filter.symm

/-- The performances are those on the topics, each with its detections. -/
theorem TopicPerformance.ofAll_eq (detections : List Detection) :
    ofAll detections = (Analysis.topicsOf detections).map fun topic =>
      ofDetections topic (detections.filter fun detection => detection.topic == topic) := by
  rw [ofAll, Keyed.groupBy_eq, Keyed.grouped, Keyed.namesOf, List.map_map, Analysis.topicsOf_eq]
  rfl

/-- The performances are listed in the order of their topics. -/
theorem TopicPerformance.map_topic_ofAll (detections : List Detection) :
    (ofAll detections).map topic = Analysis.topicsOf detections := by
  rw [ofAll_eq, List.map_map]
  exact List.map_id _

/-- The counts by topic sum up to the counts of all detections. -/
theorem Tally.ofPerformances_ofAll (detections : List Detection) :
    ofPerformances (TopicPerformance.ofAll detections) = ofDetections detections := by
  have groups := perm_flatMap_filter Detection.topic (Analysis.nodup_topicsOf detections)
    fun detection member => Analysis.mem_topicsOf.2 ⟨detection, member, rfl⟩
  have sums (test : Detection → Bool) :
      ((Analysis.topicsOf detections).map fun topic =>
        (detections.filter fun detection => detection.topic == topic).countP test).sum =
      detections.countP test := by
    rw [← groups.countP_eq test, List.countP_flatMap]
    rfl
  have lengths :
      ((Analysis.topicsOf detections).map fun topic =>
        (detections.filter fun detection => detection.topic == topic).length).sum =
      detections.length := by
    rw [← groups.length_eq, List.length_flatMap]
  have topics := (TopicPerformance.map_topic_ofAll detections).trans
    (Analysis.topicsOf_eq detections)
  unfold ofPerformances ofDetections
  rw [topics, TopicPerformance.ofAll_eq]
  simp only [List.map_map, Function.comp_def, TopicPerformance.positive_ofDetections]
  exact Tally.ext lengths (sums _) (sums _) (sums _) rfl

namespace Analysis

/-! ### Issues -/

/-- Whether a detection may stand before another one: what has weight stands first. -/
def outweighs (first second : Detection) : Bool := !first.trivial || second.trivial

theorem tied_outweighs (first second : Detection) :
    tied outweighs first second = (second.trivial == first.trivial) := by
  unfold tied outweighs
  cases first.trivial <;> cases second.trivial <;> rfl

/-- The issues are the negative detections, sorted stably by weight. -/
theorem issuesOf_eq_mergeSort (detections : List Detection) :
    issuesOf detections = (detections.filter Detection.negative).mergeSort outweighs := by
  refine (mergeSort_eq_of_stable ?_ ?_ ?_ ?_).symm
  · intro first second third
    unfold outweighs
    cases first.trivial <;> cases second.trivial <;> simp
  · intro first second
    unfold outweighs
    cases first.trivial <;> simp
  · -- What has weight may stand before anything, and anything before what has none.
    have weighty : ∀ first ∈ (detections.filter Detection.negative).filter (!·.trivial),
        ∀ second, outweighs first second = true := by
      intro first member second
      rw [outweighs, (List.mem_filter.1 member).2, Bool.true_or]
    have slight : ∀ second ∈ (detections.filter Detection.negative).filter Detection.trivial,
        ∀ first, outweighs first second = true := by
      intro second member first
      rw [outweighs, (List.mem_filter.1 member).2, Bool.or_true]
    rw [issuesOf, List.pairwise_append]
    exact ⟨List.pairwise_of_forall_mem_list fun first member second _ =>
        weighty first member second,
      List.pairwise_of_forall_mem_list fun first _ second member => slight second member first,
      fun first member second _ => weighty first member second⟩
  · intro item
    rw [issuesOf, List.filter_append]
    simp only [List.filter_filter, tied_outweighs]
    cases item.trivial with
    | false => simp +contextual
    | true => simp +contextual

theorem mem_issuesOf {detections : List Detection} {detection : Detection} :
    detection ∈ issuesOf detections ↔ detection ∈ detections ∧ detection.negative = true := by
  rw [issuesOf_eq_mergeSort, List.mem_mergeSort, List.mem_filter]

theorem length_issuesOf (detections : List Detection) :
    (issuesOf detections).length = detections.countP Detection.negative := by
  rw [issuesOf_eq_mergeSort, List.length_mergeSort, List.countP_eq_length_filter]

theorem mem_positivesOf {detections : List Detection} {detection : Detection} :
    detection ∈ positivesOf detections ↔
      detection ∈ detections ∧ detection.positive = true ∧ detection.negative = false := by
  simp [positivesOf]

end Analysis

/-- The first items up to a limit; a limit below zero counts from the end. -/
theorem Bound.firstItems_eq_take {α : Type} (count : Int) (items : List α) :
    firstItems count items =
      items.take (if 0 ≤ count then count.toNat else (items.length + count).toNat) := by
  unfold firstItems
  split
  · rfl
  · congr 1
    omega

/-! ### Analyses -/

namespace Analysis

/-- The counts of an analysis are the tally of its detections. -/
theorem toJson_tally (analysis : Analysis) :
    (Tally.ofDetections analysis.detections).toJson =
      .object (analysis.counts ++ [("topicsCovered", .texts analysis.topics)]) := by
  have positive : analysis.positives.length = (Tally.ofDetections analysis.detections).positive :=
    List.countP_eq_length_filter.symm
  rw [counts, positive, topics, topicsOf_eq, issues, length_issuesOf]
  rfl

/-- A topic is worth feedback if something right or something wrong was found about it. -/
theorem mem_feedbackTopics {analysis : Analysis} {topic : String} :
    topic ∈ analysis.feedbackTopics ↔
      ∃ detection ∈ analysis.detections,
        (detection.negative = true ∨ detection.positive = true) ∧ detection.topic = topic := by
  unfold feedbackTopics issues positives
  rw [mem_topicsOf]
  refine exists_congr fun detection => ?_
  rw [List.mem_append, mem_issuesOf, mem_positivesOf, ← and_or_left, and_assoc]
  refine and_congr_right fun _ => and_congr_left fun _ => ?_
  cases detection.negative <;> simp

/-- However much of it is told to a writer of feedback, the issues come with their topics. -/
theorem exists_feedbackContext (analysis : Analysis) (limit : Int) :
    ∃ context, FeedbackContext.ofAnalysis analysis (.int limit) = .ok context ∧
      context.topics = topicsOf analysis.issues := by
  have told (detections : List Detection) (fallback nothing : String) :
      ∃ text, FeedbackContext.bullets detections fallback nothing (.int limit) = .ok text := by
    unfold FeedbackContext.bullets
    split
    · exact ⟨_, rfl⟩
    · exact ⟨_, rfl⟩
  obtain ⟨issues, first⟩ :=
    told analysis.issues "Issue detected" "No significant issues detected"
  obtain ⟨positives, second⟩ :=
    told analysis.positives "Good usage" "Limited positive patterns detected"
  refine ⟨⟨FeedbackContext.frameworkOf analysis.reading.profile, issues, positives,
    topicsOf analysis.issues⟩, ?_, rfl⟩
  unfold FeedbackContext.ofAnalysis
  rw [first, second]
  rfl

/-- An analysis can be made of any detections and whole limit. The counts in its wire form are those
of the detections listed there and the sums of the performances by topic; its issues are the
negative detections, sorted stably by weight and cut to the limit; its topics are listed in one
order throughout, and the topics of the issues, which a writer of feedback is given, come first
among those worth feedback. -/
theorem views_agree (reading : Reading) (detections : List Detection)
    (diagnostics : List Diagnostic) (limit : Int) :
    ∃ analysis, summarize reading detections diagnostics (.int limit) = .ok analysis ∧
      (∃ listed, analysis.toJson.get? "detections" = some (.list listed) ∧
        listed = detections.map Detection.toJson ∧
        analysis.toJson.get? "summary" = some (Tally.ofWire listed).toJson ∧
        analysis.toJson.get? "topicsDetected" = some (.texts (Tally.ofWire listed).topics) ∧
        Tally.ofPerformances (TopicPerformance.ofAll detections) = Tally.ofWire listed) ∧
      analysis.issues = (detections.filter Detection.negative).mergeSort outweighs ∧
      firstIssues detections (.int limit) = .ok analysis.topIssues ∧
      analysis.topIssues = analysis.issues.take
        (if 0 ≤ limit then limit.toNat else (analysis.issues.length + limit).toNat) ∧
      (TopicPerformance.ofAll detections).map TopicPerformance.topic = analysis.topics ∧
      analysis.feedbackTopics.Nodup ∧
      (∀ topic, topic ∈ analysis.feedbackTopics ↔
        ∃ detection ∈ detections,
          (detection.negative = true ∨ detection.positive = true) ∧ detection.topic = topic) ∧
      ∀ items : Int, ∃ context, FeedbackContext.ofAnalysis analysis (.int items) = .ok context ∧
        context.topics = topicsOf analysis.issues ∧
        context.topics <+: analysis.feedbackTopics := by
  refine ⟨⟨reading, detections, diagnostics, Bound.firstItems limit (issuesOf detections)⟩, rfl,
    ⟨_, rfl, rfl, ?_, ?_, ?_⟩, issuesOf_eq_mergeSort detections, rfl,
    Bound.firstItems_eq_take limit _, ?_, nodup_topicsOf _, fun topic => mem_feedbackTopics, ?_⟩
  · rw [Tally.ofWire_map_toJson, toJson_tally]
    rfl
  · rw [Tally.ofWire_map_toJson, Tally.ofDetections, ← topicsOf_eq]
    rfl
  · rw [Tally.ofWire_map_toJson, Tally.ofPerformances_ofAll]
  · exact TopicPerformance.map_topic_ofAll detections
  · intro items
    obtain ⟨context, told, topics⟩ := exists_feedbackContext
      ⟨reading, detections, diagnostics, Bound.firstItems limit (issuesOf detections)⟩ items
    refine ⟨context, told, topics, ?_⟩
    rw [topics]
    exact topicsOf_append _ _

end Analysis

end SnippetTutor
