import Mathlib.Data.List.Nodup
import Mathlib.Data.List.Perm.Subperm
import SnippetTutor.Proofs.Assembly
import SnippetTutor.Proofs.Layers

/-!
# Topics of detectors and topics of the curriculum

Every topic that a detector reports on is a topic of the bundled curriculum, and no two detectors
share one. So each detection of an analysis has its place in the curriculum, and a snippet that
does not belong to React is told nothing about React.

* `Curriculum.topicsAgree` compares the two lists of names once and for all, and
  `Detectors.nodup_topics`, `Detectors.exists_topic_of_mem` and `Linter.exists_topic_of_mem` say
  what follows;
* `Curriculum.eq_of_slugText_eq`: the bundled curriculum has one topic for every detection;
* `Curriculum.isSome_layerFor?_topicOf` places the detections of the linter, with the help of
  the topics they share with detectors.
-/

namespace SnippetTutor

/-! ### Comparing names -/

namespace Text

/-- The number whose digits are the bytes of a text. Names are compared by their numbers first:
texts with different numbers differ, and numbers are compared much faster. -/
def number (text : String) : Nat :=
  text.toByteArray.data.toList.foldl (fun number byte => 256 * number + byte.toNat) 0

/-- Whether two texts are the same. -/
def same (first second : String) : Bool :=
  Nat.beq (number first) (number second) && first == second

theorem same_iff {first second : String} : same first second = true ↔ first = second := by
  constructor
  · intro agree
    exact beq_iff_eq.1 (Bool.and_eq_true_iff.1 agree).2
  · rintro rfl
    exact Bool.and_eq_true_iff.2 ⟨Nat.beq_refl _, beq_self_eq_true first⟩

/-- Whether no text occurs twice. -/
def allDistinct : List String → Bool
  | [] => true
  | text :: rest => rest.all (fun other => !same text other) && allDistinct rest

theorem nodup_of_allDistinct {texts : List String} (distinct : allDistinct texts = true) :
    texts.Nodup := by
  induction texts with
  | nil => exact List.nodup_nil
  | cons text rest ih =>
    obtain ⟨apart, others⟩ := Bool.and_eq_true_iff.1 distinct
    refine List.nodup_cons.2 ⟨fun member => ?_, ih others⟩
    have differs := List.all_eq_true.1 apart text member
    rw [same_iff.2 rfl] at differs
    cases differs

end Text

/-! ### The bundled curriculum -/

namespace Topic

/-- The name of a topic. -/
def slugText (topic : Topic) : String := topic.slug.asText?.getD ""

/-- Whether a topic is about React only. -/
def isAboutReact (topic : Topic) : Bool := isText "react-specific" topic.framework

/-- Whether a topic is the one with the given name, and not about React unless it may be. -/
def suits (forReact : Bool) (slug : String) (topic : Topic) : Bool :=
  Text.same topic.slugText slug && (forReact || !topic.isAboutReact)

theorem isText_iff {text : String} {json : Json} : isText text json = true ↔ json = .text text := by
  cases json <;> simp [isText]

end Topic

namespace Curriculum

/-- A topic that is triggered by its own name and by nothing else. -/
def TriggeredByName (topic : Topic) : Prop :=
  topic.slug = .text topic.slugText ∧ topic.triggers = [.text topic.slugText]

theorem triggeredByName_topicsOf {layer : Layer} {category : String}
    {entries : List Bundled.Entry} :
    ∀ topic ∈ Bundled.topicsOf layer category entries, TriggeredByName topic := by
  intro topic member
  obtain ⟨entry, -, rfl⟩ := List.mem_map.1 member
  exact ⟨rfl, rfl⟩

/-- Every topic of the bundled curriculum is triggered by its own name. -/
theorem triggeredByName_bundled : ∀ topic ∈ Catalog.bundled.topics, TriggeredByName topic := by
  show ∀ topic ∈ Bundled.topics, TriggeredByName topic
  unfold Bundled.topics
  -- The curriculum is a sum of categories, and each of them is a list of entries.
  iterate 45 refine List.forall_mem_append.2 ⟨?_, triggeredByName_topicsOf⟩
  exact triggeredByName_topicsOf

theorem isTriggeredBy_iff {topic : Topic} (member : topic ∈ Catalog.bundled.topics)
    {slug : String} : topic.isTriggeredBy slug = true ↔ topic.slugText = slug := by
  obtain ⟨-, triggers⟩ := triggeredByName_bundled topic member
  simp [Topic.isTriggeredBy, triggers, Topic.isText]

/-- There is one way to mean a topic of the bundled curriculum. -/
theorem slug_eq_or_isTriggeredBy_iff {topic : Topic} (member : topic ∈ Catalog.bundled.topics)
    {slug : String} :
    topic.slug = .text slug ∨ topic.isTriggeredBy slug = true ↔ topic.slugText = slug := by
  obtain ⟨own, -⟩ := triggeredByName_bundled topic member
  rw [isTriggeredBy_iff member, own, Json.text.injEq, or_self]

end Curriculum

/-! ### The two lists of names -/

namespace Detectors

/-- Every detector. -/
def all : List Detector := allCollections.flatMap Collection.detectors

/-- The topics of all detectors, each with whether it is reported for React only. -/
def usedTopics : List (Bool × String) :=
  allCollections.flatMap fun collection => collection.detectors.flatMap fun detector =>
    detector.topics.map fun topic => (collection.suite.requiresReact, topic)

theorem mem_usedTopics {collection : Collection} (known : collection ∈ allCollections)
    {detector : Detector} (held : detector ∈ collection.detectors) {topic : String}
    (listed : topic ∈ detector.topics) :
    (collection.suite.requiresReact, topic) ∈ usedTopics := by
  refine List.mem_flatMap.2 ⟨collection, known, List.mem_flatMap.2 ⟨detector, held, ?_⟩⟩
  exact List.mem_map.2 ⟨topic, listed, rfl⟩

theorem map_snd_usedTopics : usedTopics.map Prod.snd = all.flatMap Detector.topics := by
  simp [usedTopics, all, List.map_flatMap, List.flatMap_assoc, Function.comp_def]

end Detectors

namespace Curriculum

/-- Whether the topics of the detectors are distinct and in the bundled curriculum, with those about
React reported for React only, and the topics that the linter shares are topics of detectors. -/
def topicsAgree : Bool :=
  Text.allDistinct (Detectors.usedTopics.map Prod.snd) &&
    Detectors.usedTopics.all (fun used =>
      Catalog.bundled.topics.any (Topic.suits used.1 used.2)) &&
    Linter.sharedTopics.all fun shared =>
      Detectors.usedTopics.any fun used => Text.same used.2 shared.2

theorem topicsAgree_eq : topicsAgree = true := by decide +kernel

end Curriculum

/-- No topic is listed twice, neither by one detector nor by two. -/
theorem Detectors.nodup_topics : (all.flatMap Detector.topics).Nodup := by
  have agree := (Bool.and_eq_true_iff.1 Curriculum.topicsAgree_eq).1
  rw [← map_snd_usedTopics]
  exact Text.nodup_of_allDistinct (Bool.and_eq_true_iff.1 agree).1

/-- A topic of a detector is in the bundled curriculum, and is about React only if the detector
is. -/
theorem Detectors.exists_topic_of_mem {forReact : Bool} {slug : String}
    (used : (forReact, slug) ∈ usedTopics) :
    ∃ topic ∈ Catalog.bundled.topics,
      topic.slugText = slug ∧ (forReact = true ∨ topic.isAboutReact = false) := by
  have agree := (Bool.and_eq_true_iff.1 Curriculum.topicsAgree_eq).1
  have covered := List.all_eq_true.1 (Bool.and_eq_true_iff.1 agree).2 _ used
  obtain ⟨topic, member, suits⟩ := List.any_eq_true.1 covered
  obtain ⟨same, scope⟩ := Bool.and_eq_true_iff.1 suits
  refine ⟨topic, member, Text.same_iff.1 same, ?_⟩
  rcases Bool.or_eq_true_iff.1 scope with react | free
  · exact .inl react
  · exact .inr (Bool.not_eq_true' _ ▸ free)

/-- A topic that the linter shares is in the bundled curriculum. -/
theorem Linter.exists_topic_of_mem {shared : String × String} (member : shared ∈ sharedTopics) :
    ∃ topic ∈ Catalog.bundled.topics, topic.slugText = shared.2 := by
  have agree := (Bool.and_eq_true_iff.1 Curriculum.topicsAgree_eq).2
  obtain ⟨used, listed, same⟩ := List.any_eq_true.1 (List.all_eq_true.1 agree shared member)
  obtain ⟨topic, known, name, -⟩ := Detectors.exists_topic_of_mem listed
  exact ⟨topic, known, name.trans (Text.same_iff.1 same)⟩

theorem Curriculum.length_bundled : Catalog.bundled.topics.length = 195 := by decide +kernel

theorem Detectors.length_usedTopics : usedTopics.length = 195 := by decide +kernel

/-- The topics of the detectors are those of the bundled curriculum, in another order. -/
theorem Detectors.perm_topics :
    (all.flatMap Detector.topics).Perm (Catalog.bundled.topics.map Topic.slugText) := by
  have covered : all.flatMap Detector.topics ⊆ Catalog.bundled.topics.map Topic.slugText := by
    rw [← map_snd_usedTopics]
    intro slug listed
    obtain ⟨used, member, rfl⟩ := List.mem_map.1 listed
    obtain ⟨topic, known, name, -⟩ := exists_topic_of_mem member
    exact List.mem_map.2 ⟨topic, known, name⟩
  refine (nodup_topics.subperm covered).perm_of_length_le ?_
  refine Nat.le_of_eq ?_
  rw [← map_snd_usedTopics, List.length_map, List.length_map, length_usedTopics,
    Curriculum.length_bundled]

namespace Curriculum

/-- The bundled curriculum has one topic for every name. -/
theorem eq_of_slugText_eq {first second : Topic} (member : first ∈ Catalog.bundled.topics)
    (member' : second ∈ Catalog.bundled.topics) (same : first.slugText = second.slugText) :
    first = second :=
  List.inj_on_of_nodup_map (Detectors.perm_topics.nodup_iff.1 Detectors.nodup_topics) member
    member' same

/-! ### Places for detections -/

theorem isSome_layerFor?_slugText {topic : Topic} (member : topic ∈ Catalog.bundled.topics) :
    (Catalog.bundled.layerFor? topic.slugText).isSome = true := by
  have found : (Catalog.bundled.topics.find? fun other =>
      other.isTriggeredBy topic.slugText).isSome = true :=
    List.find?_isSome.2 ⟨topic, member, (isTriggeredBy_iff member).2 rfl⟩
  obtain ⟨first, found⟩ := Option.isSome_iff_exists.1 found
  rw [layerFor?, found]
  rfl

/-- The topic of a rule of the linter has a place. -/
theorem isSome_layerFor?_topicOf (rule : String) :
    (Catalog.bundled.layerFor? (Linter.topicOf rule)).isSome = true := by
  unfold Linter.topicOf
  cases shared : Keyed.get? Linter.sharedTopics rule with
  | some slug =>
    obtain ⟨topic, known, name⟩ := Linter.exists_topic_of_mem (Keyed.mem_of_get? shared)
    have same : topic.slugText = slug := name
    rw [Option.getD_some, ← same]
    exact isSome_layerFor?_slugText known
  | none =>
    have begins : (Linter.ownTopic rule).startsWith "eslint-" = true := by
      rw [String.startsWith_string_iff, Linter.ownTopic, String.toList_append]
      exact List.prefix_append _ _
    rw [Option.getD_none, layerFor?]
    split
    · rfl
    · rw [if_pos begins]
      rfl

end Curriculum

/-- However a detection came about, the bundled curriculum has a place for it. -/
theorem Detection.MadeIn.isSome_layerFor? {reading : Reading} {detection : Detection}
    (made : detection.MadeIn reading) :
    (Catalog.bundled.layerFor? detection.topic).isSome = true := by
  cases made with
  | byLinter reported =>
    obtain ⟨rule, topic⟩ := reported.topic
    rw [topic]
    exact Curriculum.isSome_layerFor?_topicOf rule
  | byDetector read known held fits ran made =>
    have listed := Detector.topic_mem_of_run ran made
    obtain ⟨topic, member, name, -⟩ :=
      Detectors.exists_topic_of_mem (Detectors.mem_usedTopics known held listed)
    rw [Detection.topic_filedUnder, ← name]
    exact Curriculum.isSome_layerFor?_slugText member

/-- Outside of React, detectors do not report on topics about React. -/
theorem Detection.MadeIn.isAboutReact_eq {reading : Reading} {detection : Detection}
    (made : detection.MadeIn reading) (plain : reading.profile.isReact = false)
    (own : detection.origin ≠ .eslint) {topic : Topic} (member : topic ∈ Catalog.bundled.topics)
    (named : topic.slugText = detection.topic) : topic.isAboutReact = false := by
  cases made with
  | byLinter reported => exact absurd reported.origin own
  | byDetector read known held fits ran made =>
    have listed := Detector.topic_mem_of_run ran made
    obtain ⟨used, member', name, scope⟩ :=
      Detectors.exists_topic_of_mem (Detectors.mem_usedTopics known held listed)
    have same : topic = used :=
      Curriculum.eq_of_slugText_eq member member' (named.trans name.symm)
    rcases fits with react | free
    · rw [plain] at react
      cases react
    · rcases scope with react | about
      · rw [free] at react
        cases react
      · rw [same]
        exact about

namespace LayeredDetections

variable {detections : List Detection}
  (placed : ∀ detection ∈ detections, (Catalog.bundled.layerFor? detection.topic).isSome = true)

include placed

/-- The bundled curriculum leaves nothing out for which it has a place. -/
theorem unclassified_classify_bundled :
    (classify Catalog.bundled detections).unclassified = [] := by
  have bundled : Catalog.orBundled Catalog.bundled = Catalog.bundled := by
    unfold Catalog.orBundled
    split <;> rfl
  rw [classify, bundled, unclassified_sortBy, List.filter_eq_nil_iff]
  intro detection member nowhere
  have somewhere := placed detection member
  rw [of_decide_eq_true nowhere] at somewhere
  cases somewhere

/-- So its layers hold everything. -/
theorem total_classify_bundled :
    (classify Catalog.bundled detections).total = detections.length := by
  have parts := total_sortBy (Catalog.orBundled Catalog.bundled).layerFor? detections
  have nothing := unclassified_classify_bundled placed
  unfold classify at nothing ⊢
  rw [nothing] at parts
  exact parts

end LayeredDetections

/-! ### Main statement -/

/-- Every detector reports on topics of its own, all of them in the bundled curriculum. So every
detection of an analysis has a layer, and without React none is about React. -/
theorem Detectors.topics_catalogued :
    all.length = 194 ∧ Catalog.bundled.topics.length = 195 ∧
    (∀ detector ∈ all, ∀ subject found, detector.run subject = .ok found →
      ∀ detection ∈ found, detection.topic ∈ detector.topics) ∧
    (all.Pairwise fun first second => first.topics.Disjoint second.topics) ∧
    (∀ detector ∈ all, ∀ topic ∈ detector.topics,
      ∃ entry ∈ Catalog.bundled.topics, entry.isTriggeredBy topic = true) ∧
    ∀ (task : Task) (analysis : Analysis), task.analyze = .ok analysis →
      let layered := LayeredDetections.classify Catalog.bundled analysis.detections
      layered.unclassified = [] ∧
      layered.total = analysis.detections.length ∧
      (analysis.reading.profile.isReact = false →
        ∀ detection ∈ analysis.detections, detection.origin ≠ .eslint →
          ∀ topic ∈ Catalog.bundled.topics,
            topic.slug = .text detection.topic ∨ topic.isTriggeredBy detection.topic = true →
              topic.framework ≠ .text "react-specific") := by
  refine ⟨by decide +kernel, Curriculum.length_bundled, ?_, ?_, ?_, ?_⟩
  · intro detector _ subject found ran detection member
    exact Detector.topic_mem_of_run ran member
  · exact (List.nodup_flatMap.1 nodup_topics).2
  · intro detector member topic listed
    obtain ⟨collection, known, held⟩ := List.mem_flatMap.1 member
    obtain ⟨entry, catalogued, name, -⟩ :=
      exists_topic_of_mem (mem_usedTopics known held listed)
    exact ⟨entry, catalogued, (Curriculum.isTriggeredBy_iff catalogued).2 name⟩
  · intro task analysis ended layered
    have made : ∀ detection ∈ analysis.detections, detection.MadeIn analysis.reading :=
      fun _ member => Task.madeIn_of_mem_analysis ended member
    have placed : ∀ detection ∈ analysis.detections,
        (Catalog.bundled.layerFor? detection.topic).isSome = true :=
      fun detection member => (made detection member).isSome_layerFor?
    refine ⟨LayeredDetections.unclassified_classify_bundled placed,
      LayeredDetections.total_classify_bundled placed, ?_⟩
    intro plain detection member own topic catalogued about react
    have named := (Curriculum.slug_eq_or_isTriggeredBy_iff catalogued).1 about
    have free := (made detection member).isAboutReact_eq plain own catalogued named
    rw [Topic.isAboutReact, Topic.isText_iff.2 react] at free
    cases free

/-- A declaration that three detectors report on and the linter complains about. -/
theorem Detectors.topics_catalogued_declaration :
    let task : Task :=
      { source := .text "var x"
        parses := fun _ => some (.node { name := "program", stop := 5 }
          [.node { name := "variable_declaration", stop := 5, text := "var x" } []])
        linting := some true
        execution := .finished "[\x7b\"messages\": [\x7b\"ruleId\": \"no-var\"\x7d]\x7d]" "" 1 }
    ∃ analysis, task.analyze = .ok analysis ∧
      let layered := LayeredDetections.classify Catalog.bundled analysis.detections
      layered.unclassified = [] ∧ layered.total = 4 := by
  intro task
  have computed :
      (task.analyze.toOption.any fun analysis => analysis.detections.length == 4) = true := by
    decide +kernel
  obtain ⟨analysis, ended, four⟩ := exists_ok_of_any computed
  obtain ⟨-, -, -, -, -, placed⟩ := topics_catalogued
  obtain ⟨unclassified, total, -⟩ := placed task analysis ended
  exact ⟨analysis, ended, unclassified, total.trans (eq_of_beq four)⟩

end SnippetTutor
