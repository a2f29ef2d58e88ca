import SnippetTutor.Proofs.Catalogs
import SnippetTutor.Proofs.Topics

/-!
# Looking topics up

A curriculum can be asked for the topic with a name, for the topics of a layer, for the layer of a
detection and for the topics that a detection triggers. For a curriculum that was loaded the answers
agree.

* `Curriculum.IsDistinct`: no two topics have the same name. `Curriculum.IsLoaded.isDistinct` has it
  from the reader, which refuses a name that it has seen, and for the bundled curriculum from
  the topics of the detectors;
* `Curriculum.find?_slug`: a topic is found under its name;
* `Curriculum.perm_inLayer`: the layers are the whole again;
* `Curriculum.layerFor?_of_first` and `Curriculum.mem_triggered` say what a detection triggers, and
  `Catalog.topicsFor_eq_nil_iff` when it triggers nothing: a curriculum without topics has no say,
  its place is taken by the bundled one;
* `Curriculum.lookups_agree` is all of it.
-/

namespace SnippetTutor

/-! ### Names -/

theorem Json.alike_text {first second : String} :
    (Json.text first).alike (.text second) = true ↔ first = second := by
  simp [alike_iff, normal]

theorem Topic.isTriggeredBy_iff_mem {topic : Topic} {slug : String} :
    topic.isTriggeredBy slug = true ↔ .text slug ∈ topic.triggers := by
  simp [isTriggeredBy, isText_iff]

namespace Curriculum

/-- No two topics have the same name. -/
def IsDistinct (curriculum : Curriculum) : Prop :=
  curriculum.topics.Pairwise fun first second => first.slug.alike second.slug = false

/-- A topic is found under its name. -/
theorem find?_slug {curriculum : Curriculum} (distinct : curriculum.IsDistinct) {topic : Topic}
    (member : topic ∈ curriculum.topics) : curriculum.find? topic.slug = some topic := by
  obtain ⟨topics⟩ := curriculum
  unfold IsDistinct at distinct
  unfold find?
  simp only at distinct member ⊢
  induction topics with
  | nil => cases member
  | cons first rest ih =>
    obtain ⟨apart, distinct⟩ := List.pairwise_cons.1 distinct
    rcases List.mem_cons.1 member with rfl | later
    · simp
    · have other : topic.slug.alike first.slug = false := by
        rw [Json.alike_comm]
        exact apart topic later
      rw [List.find?_cons, other]
      exact ih distinct later

/-! ### Layers -/

/-- The layers are the whole again: no topic is lost, and none is in two of them. -/
theorem perm_inLayer (curriculum : Curriculum) :
    (Layer.all.flatMap curriculum.inLayer).Perm curriculum.topics := by
  obtain ⟨topics⟩ := curriculum
  have parts : ∀ topics : List Topic, Layer.all.flatMap (inLayer ⟨topics⟩) =
      inLayer ⟨topics⟩ .fundamentals ++
        (inLayer ⟨topics⟩ .intermediate ++ inLayer ⟨topics⟩ .patterns) := by
    simp [Layer.all]
  rw [parts]
  induction topics with
  | nil => exact .refl _
  | cons topic rest ih =>
    have filed : ∀ layer, inLayer ⟨topic :: rest⟩ layer =
        if topic.layer = layer then topic :: inLayer ⟨rest⟩ layer else inLayer ⟨rest⟩ layer := by
      intro layer
      simp [inLayer, List.filter_cons]
    rw [filed, filed, filed]
    -- The topic stands first in its layer, and moves to the front past the layers before.
    cases topic.layer with
    | fundamentals => exact ih.cons topic
    | intermediate => exact List.perm_middle.trans (ih.cons topic)
    | patterns =>
      refine List.Perm.trans ?_ (ih.cons topic)
      simp only [reduceCtorEq, if_false, if_true]
      rw [← List.append_assoc, ← List.append_assoc]
      exact List.perm_middle

theorem mem_inLayer {curriculum : Curriculum} {layer : Layer} {topic : Topic} :
    topic ∈ curriculum.inLayer layer ↔ topic ∈ curriculum.topics ∧ topic.layer = layer := by
  simp [inLayer]

/-! ### Triggers -/

theorem mem_triggered {curriculum : Curriculum} {slug : String} {layer : Layer} {topic : Topic} :
    topic ∈ curriculum.triggered [slug] layer ↔
      topic ∈ curriculum.topics ∧ topic.layer = layer ∧ .text slug ∈ topic.triggers := by
  simp [triggered, mem_inLayer, Topic.isTriggeredBy_iff_mem, and_assoc]

/-- The first topic that lists a detection decides about its layer. -/
theorem layerFor?_of_first {curriculum : Curriculum} {slug : String} {before after : List Topic}
    {first : Topic} (split : curriculum.topics = before ++ first :: after)
    (unlisted : ∀ topic ∈ before, .text slug ∉ topic.triggers)
    (listed : .text slug ∈ first.triggers) : curriculum.layerFor? slug = some first.layer := by
  have found : (curriculum.topics.find? fun topic => topic.isTriggeredBy slug) = some first := by
    refine List.find?_eq_some_iff_append.2
      ⟨Topic.isTriggeredBy_iff_mem.2 listed, before, after, split, fun topic member => ?_⟩
    rw [Bool.not_eq_true', ← Bool.not_eq_true, Topic.isTriggeredBy_iff_mem]
    exact unlisted topic member
  rw [layerFor?, found]

/-- A detection that no topic lists has a layer only if it is one of the linter. -/
theorem layerFor?_of_unlisted {curriculum : Curriculum} {slug : String}
    (unlisted : ∀ topic ∈ curriculum.topics, .text slug ∉ topic.triggers) :
    curriculum.layerFor? slug = none ↔ ¬slug.startsWith "eslint-" = true := by
  have found : (curriculum.topics.find? fun topic => topic.isTriggeredBy slug) = none := by
    refine List.find?_eq_none.2 fun topic member => ?_
    rw [Topic.isTriggeredBy_iff_mem]
    exact unlisted topic member
  rw [layerFor?, found]
  by_cases own : slug.startsWith "eslint-" = true
  · simp [own]
  · simp [own]

theorem triggered_eq_nil_iff {curriculum : Curriculum} {slug : String} :
    (∀ layer, curriculum.triggered [slug] layer = []) ↔
      ∀ topic ∈ curriculum.topics, .text slug ∉ topic.triggers := by
  constructor
  · intro nothing topic member listed
    have triggered : topic ∈ curriculum.triggered [slug] topic.layer :=
      mem_triggered.2 ⟨member, rfl, listed⟩
    rw [nothing] at triggered
    cases triggered
  · intro unlisted layer
    refine List.eq_nil_iff_forall_not_mem.2 fun topic triggered => ?_
    obtain ⟨member, -, listed⟩ := mem_triggered.1 triggered
    exact unlisted topic member listed

/-! ### Loaded curricula -/

/-- A curriculum that comes with the program or was read from a file. -/
inductive IsLoaded : Curriculum → Prop where
  | bundled : IsLoaded Catalog.bundled
  | read {file : Catalog.File} {curriculum : Curriculum}
    (read : Catalog.read file = .ok curriculum) : IsLoaded curriculum

theorem isDistinct_bundled : Catalog.bundled.IsDistinct := by
  have names : (Catalog.bundled.topics.map Topic.slugText).Nodup :=
    Detectors.perm_topics.nodup_iff.1 Detectors.nodup_topics
  refine (List.pairwise_map.1 names).imp_of_mem fun {first second} member member' apart => ?_
  obtain ⟨own, -⟩ := triggeredByName_bundled first member
  obtain ⟨own', -⟩ := triggeredByName_bundled second member'
  -- Both names are texts, so being alike is being equal.
  rw [own, own', ← Bool.not_eq_true, Json.alike_text]
  exact apart

/-- The topics have the names of the entries they come from. -/
theorem map_slug_of_comesFrom {entries : List Json} {topics : List Topic}
    (come : List.Forall₂ Catalog.ComesFrom entries topics) :
    topics.map Topic.slug = entries.map fun entry => Catalog.valueIn entry "slug" := by
  induction come with
  | nil => rfl
  | cons made _ ih => rw [List.map_cons, List.map_cons, made.slug, ih]

theorem isDistinct_of_read {file : Catalog.File} {curriculum : Curriculum}
    (read : Catalog.read file = .ok curriculum) : curriculum.IsDistinct := by
  cases file with
  | missing => cases read
  | unreadable reason => cases read
  | holding data =>
    rcases Catalog.read_cases data with
      ⟨-, other, read', entries, accepted, come⟩ | ⟨-, fault, read', -⟩ | ⟨-, read'⟩ |
      ⟨-, -, -, problem, read'⟩
    · rw [read] at read'
      cases read'
      have distinct : (entries.map fun entry => Catalog.valueIn entry "slug").Pairwise
          fun first second => first.alike second = false :=
        List.pairwise_map.2 accepted.distinct
      rw [← map_slug_of_comesFrom come] at distinct
      exact List.pairwise_map.1 distinct
    · rw [read] at read'
      cases read'
    · rw [read] at read'
      cases read'
    · rw [read] at read'
      cases read'

theorem IsLoaded.isDistinct {curriculum : Curriculum} (loaded : curriculum.IsLoaded) :
    curriculum.IsDistinct := by
  cases loaded with
  | bundled => exact isDistinct_bundled
  | read read => exact isDistinct_of_read read

end Curriculum

namespace Catalog

variable {curriculum : Curriculum}

theorem orBundled_of_topics (stocked : curriculum.topics ≠ []) :
    orBundled curriculum = curriculum := by
  rw [orBundled, if_neg (mt List.isEmpty_iff.1 stocked)]

theorem orBundled_of_no_topics (bare : curriculum.topics = []) :
    orBundled curriculum = bundled := by
  rw [orBundled, if_pos (List.isEmpty_iff.2 bare)]

/-- A detection that no topic lists triggers nothing, unless there are no topics and one of the
bundled ones lists it. -/
theorem topicsFor_eq_nil_iff {slug : String}
    (unlisted : ∀ topic ∈ curriculum.topics, .text slug ∉ topic.triggers) :
    (∀ layer, topicsFor curriculum [slug] layer = []) ↔
      curriculum.topics ≠ [] ∨ ∀ topic ∈ bundled.topics, .text slug ∉ topic.triggers := by
  unfold topicsFor
  rw [Curriculum.triggered_eq_nil_iff]
  by_cases bare : curriculum.topics = []
  · rw [orBundled_of_no_topics bare]
    simp [bare]
  · rw [orBundled_of_topics bare]
    exact iff_of_true unlisted (.inl bare)

end Catalog

namespace Curriculum

/-- In a curriculum that was loaded every topic is found under its name, the layers share out the
topics in their order, and a detection belongs to the layer of the first topic that lists it, where
that topic is triggered. A detection that no topic lists triggers nothing, unless the curriculum has
no topics and a bundled one lists it. -/
theorem lookups_agree {curriculum : Curriculum} (loaded : curriculum.IsLoaded) (slug : String) :
    curriculum.IsDistinct ∧
    (∀ topic ∈ curriculum.topics, curriculum.find? topic.slug = some topic) ∧
    (Layer.all.flatMap curriculum.inLayer).Perm curriculum.topics ∧
    (∀ layer, (curriculum.inLayer layer).Sublist curriculum.topics ∧
      ∀ topic ∈ curriculum.inLayer layer, topic.layer = layer) ∧
    (∀ before first after, curriculum.topics = before ++ first :: after →
      (∀ topic ∈ before, .text slug ∉ topic.triggers) → .text slug ∈ first.triggers →
        curriculum.layerFor? slug = some first.layer ∧
        first ∈ Catalog.topicsFor curriculum [slug] first.layer) ∧
    ((∀ topic ∈ curriculum.topics, .text slug ∉ topic.triggers) →
      (curriculum.layerFor? slug = none ↔ ¬slug.startsWith "eslint-" = true) ∧
      ((∀ layer, Catalog.topicsFor curriculum [slug] layer = []) ↔
        curriculum.topics ≠ [] ∨
          ∀ topic ∈ Catalog.bundled.topics, .text slug ∉ topic.triggers)) := by
  have distinct := loaded.isDistinct
  refine ⟨distinct, fun topic member => find?_slug distinct member, perm_inLayer curriculum,
    fun layer => ⟨List.filter_sublist, fun topic member => (mem_inLayer.1 member).2⟩, ?_, ?_⟩
  · intro before first after split unlisted listed
    have member : first ∈ curriculum.topics := by simp [split]
    refine ⟨layerFor?_of_first split unlisted listed, ?_⟩
    rw [Catalog.topicsFor, Catalog.orBundled_of_topics (List.ne_nil_of_mem member)]
    exact mem_triggered.2 ⟨member, rfl, listed⟩
  · intro unlisted
    exact ⟨layerFor?_of_unlisted unlisted, Catalog.topicsFor_eq_nil_iff unlisted⟩

/-- Two topics of different layers share a trigger, and the first of them is not triggered by its
own name. -/
theorem lookups_agree_shared_trigger :
    let caching : Topic :=
      { slug := .text "caching", name := .text "Caching", layer := .patterns,
        category := .text "speed", description := .text "Keep results",
        triggers := [.text "memo"] }
    let memo : Topic :=
      { slug := .text "memo", name := .text "Memo", layer := .fundamentals,
        category := .text "speed", description := .text "Remember", triggers := [.text "memo"] }
    let curriculum : Curriculum := ⟨[caching, memo]⟩
    Catalog.read (.holding (.object [("topics", .list [caching.toJson, memo.toJson])])) =
      .ok curriculum ∧
    curriculum.find? (.text "memo") = some memo ∧ curriculum.layerFor? "memo" = some .patterns ∧
    caching ∈ Catalog.topicsFor curriculum ["memo"] .patterns ∧
    curriculum.layerFor? "caching" = none ∧
    ∀ layer, Catalog.topicsFor curriculum ["caching"] layer = [] := by
  intro caching memo curriculum
  have read : Catalog.read (.holding (.object [("topics", .list [caching.toJson, memo.toJson])])) =
      .ok curriculum := rfl
  obtain ⟨-, found, -, -, listed, -⟩ := lookups_agree (.read read) "memo"
  obtain ⟨-, -, -, -, -, unlisted⟩ := lookups_agree (.read read) "caching"
  obtain ⟨layer, triggered⟩ := listed [] caching [memo] rfl (by simp) (by simp [caching])
  obtain ⟨nowhere, nothing⟩ := unlisted (by simp [curriculum, caching, memo])
  exact ⟨read, found memo (by simp [curriculum]), layer, triggered, nowhere.2 (by decide +kernel),
    nothing.2 (.inl (by simp [curriculum]))⟩

/-- A catalog without topics is read, and still something is triggered. -/
theorem triggered_despite_no_topics :
    Catalog.read (.holding (.object [("topics", .list [])])) = .ok ⟨[]⟩ ∧
    layerFor? ⟨[]⟩ "no-var-usage" = none ∧
    (Catalog.topicsFor ⟨[]⟩ ["no-var-usage"] .fundamentals).map Topic.slug =
      [.text "no-var-usage"] := by
  refine ⟨rfl, by decide +kernel, by decide +kernel⟩

end Curriculum

end SnippetTutor
