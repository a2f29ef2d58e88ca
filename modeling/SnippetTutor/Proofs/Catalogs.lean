import Mathlib.Data.List.Forall2
import SnippetTutor.Curriculum.Catalog
import SnippetTutor.Proofs.Success

/-!
# Which catalogs can be read

The entries of a catalog are read in order. An entry that is incomplete, or has the name of an
earlier one, is a problem that is told. An entry can also be complete and still have something in
the wrong place: prerequisites or triggers that cannot be gone through, or a list or an object as
its name or as a trigger. That is no problem that is told but a fault. And a problem cannot be told
if its message would show a number that is too long: this is a fault, too.

* `Catalog.IsSound`, `Catalog.IsMistyped` and `Catalog.IsUntoldLayer` are told from an entry alone;
* `Catalog.Accepts` and `Catalog.Refuses` are told from the entries and the names before them, and
  `Catalog.accepts_cons_iff` and `Catalog.refuses_cons_iff` take one entry off;
* `Catalog.topicOf_cases` and `Catalog.topicsFrom_cases` say what comes of one entry and of all of
  them;
* `Catalog.read_answers_iff`: reading gives a curriculum or tells a problem unless the catalog is
  mistyped or untold.
-/

namespace SnippetTutor.Catalog

/-! ### Entries -/

/-- What stands under a key of an entry. -/
def valueIn (entry : Json) (key : String) : Json := (entry.get? key).getD .null

/-- What triggers the topic of an entry: its own name, unless something else is set. -/
def triggersIn (entry : Json) : List Json :=
  if (valueIn entry "triggers").isSet then ((valueIn entry "triggers").items?).getD []
  else [valueIn entry "slug"]

/-- An entry that has every field that it must have, and one of the layers. -/
structure IsComplete (entry : Json) : Prop where
  object : ∃ members, entry = .object members
  required : ∀ key ∈ requiredFields, (valueIn entry key).isSet = true
  layer : ∃ layer, layerOf? (valueIn entry "layer") = some layer

/-- What is set under a key can be gone through. -/
def IsListed (entry : Json) (key : String) : Prop :=
  (valueIn entry key).isSet = true → (valueIn entry key).items? ≠ none

/-- A complete entry with names where names belong. -/
structure IsSound (entry : Json) : Prop where
  complete : IsComplete entry
  prerequisites : IsListed entry "prerequisites"
  triggers : IsListed entry "triggers"
  slug : (valueIn entry "slug").isPlain = true

/-- A complete entry without that. -/
structure IsMistyped (entry : Json) : Prop where
  complete : IsComplete entry
  unsound : ¬IsSound entry

/-- An entry with every field that it must have but none of the layers, and with a name or a layer
that the message about it cannot show. -/
structure IsUntoldLayer (entry : Json) : Prop where
  object : ∃ members, entry = .object members
  required : ∀ key ∈ requiredFields, (valueIn entry key).isSet = true
  unknown : layerOf? (valueIn entry "layer") = none
  unprintable : (valueIn entry "slug").isPrintable = false ∨
    (valueIn entry "layer").isPrintable = false

theorem IsUntoldLayer.not_isComplete {entry : Json} (untold : IsUntoldLayer entry) :
    ¬IsComplete entry := by
  intro complete
  obtain ⟨layer, placed⟩ := complete.layer
  rw [untold.unknown] at placed
  cases placed

theorem Problem.tell_of_printable {problem : Problem} (printable : problem.isPrintable = true) :
    problem.tell = .problem problem := if_pos printable

theorem Problem.tell_of_unprintable {problem : Problem}
    (unprintable : problem.isPrintable = false) : problem.tell = .fault .tooLong := if_neg (Bool.eq_false_iff.1 unprintable)

theorem Problem.unknownLayer_unprintable_iff {slug layer : Json} :
    (unknownLayer slug layer).isPrintable = false ↔
      slug.isPrintable = false ∨ layer.isPrintable = false :=
  Bool.and_eq_false_iff

/-- A topic has its name and its triggers from an entry. -/
structure ComesFrom (entry : Json) (topic : Topic) : Prop where
  slug : topic.slug = valueIn entry "slug"
  triggers : topic.triggers = triggersIn entry

theorem valueIn_object (members : Keyed Json) (key : String) :
    valueIn (.object members) key = fieldOf members key := rfl

/-- Names can be read where they are listed. -/
theorem namesOf_cases (members : Keyed Json) (key : String) (fallback : List Json) :
    (IsListed (.object members) key ∧
      namesOf members key fallback =
        .ok (if (fieldOf members key).isSet then ((fieldOf members key).items?).getD []
          else fallback)) ∨
    (¬IsListed (.object members) key ∧
      ∃ fault, namesOf members key fallback = .error (.fault fault) ∧ fault.cls = .mismatch) := by
  simp only [namesOf, IsListed, valueIn_object]
  cases set : (fieldOf members key).isSet with
  | false => simp
  | true => cases listed : (fieldOf members key).items? <;> simp

theorem missing_eq_nil_iff (members : Keyed Json) :
    (requiredFields.filter fun key => !(fieldOf members key).isSet) = [] ↔
      ∀ key ∈ requiredFields, (valueIn (.object members) key).isSet = true := by
  simp [List.filter_eq_nil_iff, valueIn_object]

/-- The topic of an entry, when its layer and its lists of names have been read. -/
def topicWith (members : Keyed Json) (layer : Layer) (prerequisites triggers : List Json) : Topic :=
  { slug := fieldOf members "slug"
    name := fieldOf members "name"
    layer := layer
    category := fieldOf members "category"
    description := fieldOf members "description"
    framework := (members.get? "framework").getD (.text "shared")
    criticality := (members.get? "criticality").getD (.text "medium")
    prerequisites := prerequisites
    triggers := triggers }

/-- Of a complete entry only the two lists of names are left to be read. -/
theorem topicOf_of_isComplete (position : Nat) {members : Keyed Json} {layer : Layer}
    (required : ∀ key ∈ requiredFields, (valueIn (.object members) key).isSet = true)
    (placed : layerOf? (fieldOf members "layer") = some layer) :
    topicOf position (.object members) =
      (namesOf members "prerequisites" [] >>= fun prerequisites =>
        namesOf members "triggers" [fieldOf members "slug"] >>= fun triggers =>
          .ok (topicWith members layer prerequisites triggers)) := by
  unfold topicOf
  simp only [(missing_eq_nil_iff members).2 required, placed, List.isEmpty_nil, Bool.not_true,
    Bool.false_eq_true, if_false]
  rfl

/-- With an unknown layer only the message about it is in question. -/
theorem topicOf_of_unknown (position : Nat) {members : Keyed Json}
    (required : ∀ key ∈ requiredFields, (valueIn (.object members) key).isSet = true)
    (unknown : layerOf? (fieldOf members "layer") = none) :
    topicOf position (.object members) =
      .error (Problem.unknownLayer (fieldOf members "slug") (fieldOf members "layer")).tell := by
  unfold topicOf
  simp only [(missing_eq_nil_iff members).2 required, unknown]
  rfl

/-- A lack of fields can always be told. -/
theorem topicOf_of_lacking (position : Nat) {members : Keyed Json}
    (lacking : ¬∀ key ∈ requiredFields, (valueIn (.object members) key).isSet = true) :
    ∃ problem, topicOf position (.object members) = .error (.problem problem) := by
  have missing : (requiredFields.filter fun key => !(fieldOf members key).isSet).isEmpty =
      false := by
    rw [List.isEmpty_eq_false_iff]
    exact mt (missing_eq_nil_iff members).1 lacking
  simp only [topicOf, missing]
  exact ⟨_, rfl⟩

/-- What comes of an entry by itself. -/
theorem topicOf_cases (position : Nat) (entry : Json) :
    (IsComplete entry ∧ IsListed entry "prerequisites" ∧ IsListed entry "triggers" ∧
      ∃ topic, topicOf position entry = .ok topic ∧ ComesFrom entry topic) ∨
    (IsComplete entry ∧ ¬(IsListed entry "prerequisites" ∧ IsListed entry "triggers") ∧
      ∃ fault, topicOf position entry = .error (.fault fault) ∧ fault.cls = .mismatch) ∨
    (IsUntoldLayer entry ∧ topicOf position entry = .error (.fault .tooLong)) ∨
    (¬IsComplete entry ∧ ¬IsUntoldLayer entry ∧
      ∃ problem, topicOf position entry = .error (.problem problem)) := by
  cases entry with
  | object members =>
    by_cases required : ∀ key ∈ requiredFields, (valueIn (.object members) key).isSet = true
    · cases placed : layerOf? (fieldOf members "layer") with
      | none =>
        rw [topicOf_of_unknown position required placed]
        cases printable : (Problem.unknownLayer (fieldOf members "slug")
            (fieldOf members "layer")).isPrintable with
        | false =>
          have untold : IsUntoldLayer (.object members) :=
            ⟨⟨members, rfl⟩, required, placed, Problem.unknownLayer_unprintable_iff.1 printable⟩
          rw [Problem.tell_of_unprintable printable]
          exact .inr (.inr (.inl ⟨untold, rfl⟩))
        | true =>
          rw [Problem.tell_of_printable printable]
          refine .inr (.inr (.inr ⟨fun complete => ?_, fun untold => ?_, _, rfl⟩))
          · obtain ⟨layer, found⟩ := complete.layer
            cases placed.symm.trans found
          · have unprintable := Problem.unknownLayer_unprintable_iff.2 untold.unprintable
            cases printable.symm.trans unprintable
      | some layer =>
        have complete : IsComplete (.object members) := ⟨⟨members, rfl⟩, required, layer, placed⟩
        rw [topicOf_of_isComplete position required placed]
        rcases namesOf_cases members "prerequisites" [] with
          ⟨prerequisites, read⟩ | ⟨prerequisites, fault, read, mismatch⟩
        · rcases namesOf_cases members "triggers" [fieldOf members "slug"] with
            ⟨triggers, read'⟩ | ⟨triggers, fault, read', mismatch⟩
          · rw [read, read']
            exact .inl ⟨complete, prerequisites, triggers, _, rfl, rfl, rfl⟩
          · rw [read, read']
            exact .inr (.inl ⟨complete, fun both => triggers both.2, fault, rfl, mismatch⟩)
        · rw [read]
          exact .inr (.inl ⟨complete, fun both => prerequisites both.1, fault, rfl, mismatch⟩)
    · exact .inr (.inr (.inr ⟨fun complete => required complete.required,
        fun untold => required untold.required, topicOf_of_lacking position required⟩))
  | null | bool _ | int _ | real _ | text _ | list _ =>
    refine .inr (.inr (.inr ⟨fun complete => ?_, fun untold => ?_, _, rfl⟩))
    · obtain ⟨members, same⟩ := complete.object
      cases same
    · obtain ⟨members, same⟩ := untold.object
      cases same

/-! ### Entries after each other -/

/-- The name of an entry is none of the given ones. -/
def IsNew (seen : List Json) (entry : Json) : Prop :=
  ∀ slug ∈ seen, (valueIn entry "slug").alike slug = false

/-- Entries that are accepted after the given names: they are sound, and no two names are alike. -/
structure Accepts (seen entries : List Json) : Prop where
  sound : ∀ entry ∈ entries, IsSound entry
  new : ∀ entry ∈ entries, IsNew seen entry
  distinct : entries.Pairwise fun first second =>
    (valueIn first "slug").alike (valueIn second "slug") = false

/-- The given names and those of further entries. -/
def namesAfter (seen before : List Json) : List Json :=
  before.foldl (fun names entry => valueIn entry "slug" :: names) seen

/-- Entries of which the first that is not accepted is of some kind, which may depend on the names
before it. -/
def Refuses (kind : List Json → Json → Prop) (seen entries : List Json) : Prop :=
  ∃ before entry after, entries = before ++ entry :: after ∧ Accepts seen before ∧
    kind (namesAfter seen before) entry

/-- A sound entry with a name that is known, and that the message about it cannot show. -/
structure IsUntoldName (seen : List Json) (entry : Json) : Prop where
  sound : IsSound entry
  known : ¬IsNew seen entry
  unprintable : (valueIn entry "slug").isPrintable = false

/-- An entry with a problem that cannot be told. -/
def IsUntold (seen : List Json) (entry : Json) : Prop :=
  IsUntoldLayer entry ∨ IsUntoldName seen entry

/-- Entries of which the first that is not accepted is mistyped. -/
def Breaks : List Json → List Json → Prop := Refuses fun _ entry => IsMistyped entry

/-- Entries of which the first that is not accepted cannot be told. -/
def Stalls : List Json → List Json → Prop := Refuses IsUntold

theorem accepts_nil (seen : List Json) : Accepts seen [] := ⟨by simp, by simp, .nil⟩

theorem accepts_cons_iff {seen rest : List Json} {entry : Json} :
    Accepts seen (entry :: rest) ↔
      IsSound entry ∧ IsNew seen entry ∧ Accepts (valueIn entry "slug" :: seen) rest := by
  constructor
  · rintro ⟨sound, new, distinct⟩
    obtain ⟨apart, distinct⟩ := List.pairwise_cons.1 distinct
    refine ⟨sound _ List.mem_cons_self, new _ List.mem_cons_self, ?_, ?_, distinct⟩
    · exact fun other member => sound other (List.mem_cons_of_mem _ member)
    · intro other member
      refine List.forall_mem_cons.2 ⟨?_, new other (List.mem_cons_of_mem _ member)⟩
      rw [Json.alike_comm]
      exact apart other member
  · rintro ⟨sound, new, ⟨sounds, news, distinct⟩⟩
    refine ⟨List.forall_mem_cons.2 ⟨sound, sounds⟩, List.forall_mem_cons.2 ⟨new, ?_⟩,
      List.pairwise_cons.2 ⟨?_, distinct⟩⟩
    · exact fun other member slug listed => news other member slug (List.mem_cons_of_mem _ listed)
    · intro other member
      rw [Json.alike_comm]
      exact news other member _ List.mem_cons_self

theorem refuses_cons_iff {kind : List Json → Json → Prop} {seen rest : List Json} {entry : Json} :
    Refuses kind seen (entry :: rest) ↔
      kind seen entry ∨
        IsSound entry ∧ IsNew seen entry ∧ Refuses kind (valueIn entry "slug" :: seen) rest := by
  constructor
  · rintro ⟨before, other, after, split, accepted, refused⟩
    cases before with
    | nil =>
      cases split
      exact .inl refused
    | cons first before =>
      cases split
      obtain ⟨sound, new, accepted⟩ := accepts_cons_iff.1 accepted
      exact .inr ⟨sound, new, before, other, after, rfl, accepted, refused⟩
  · rintro (refused | ⟨sound, new, before, other, after, rfl, accepted, refused⟩)
    · exact ⟨[], entry, rest, rfl, accepts_nil seen, refused⟩
    · exact ⟨entry :: before, other, after, rfl, accepts_cons_iff.2 ⟨sound, new, accepted⟩,
        refused⟩

/-- Nothing is refused among entries that are accepted. -/
theorem Accepts.not_refuses {kind : List Json → Json → Prop}
    (apart : ∀ {seen entry}, kind seen entry → IsSound entry → ¬IsNew seen entry)
    {seen entries : List Json} (accepted : Accepts seen entries) : ¬Refuses kind seen entries := by
  induction entries generalizing seen with
  | nil =>
    rintro ⟨before, entry, after, split, -⟩
    simp at split
  | cons entry rest ih =>
    obtain ⟨sound, new, accepted⟩ := accepts_cons_iff.1 accepted
    rw [refuses_cons_iff]
    rintro (refused | ⟨-, -, later⟩)
    · exact apart refused sound new
    · exact ih accepted later

theorem Accepts.not_breaks {seen entries : List Json} (accepted : Accepts seen entries) :
    ¬Breaks seen entries :=
  accepted.not_refuses fun mistyped sound => absurd sound mistyped.unsound

theorem Accepts.not_stalls {seen entries : List Json} (accepted : Accepts seen entries) :
    ¬Stalls seen entries := by
  refine accepted.not_refuses fun untold sound => ?_
  rcases untold with layer | name
  · exact absurd sound.complete layer.not_isComplete
  · exact name.known

theorem any_alike_eq_false_iff {seen : List Json} {entry : Json} :
    seen.any (valueIn entry "slug").alike = false ↔ IsNew seen entry := by
  simp [IsNew]

section Step

variable {position : Nat} {seen rest : List Json} {entry : Json} {topic : Topic}
  (read : topicOf position entry = .ok topic)

include read

/-- A topic whose name is new is kept, and its name is one of those seen from then on. -/
theorem topicsFrom_cons (plain : topic.slug.isPlain = true)
    (new : seen.any topic.slug.alike = false) :
    topicsFrom position seen (entry :: rest) =
      (topicsFrom (position + 1) (topic.slug :: seen) rest >>= fun others =>
        .ok (topic :: others)) := by
  simp only [topicsFrom, read, bind, Except.bind, plain, new]
  rfl

theorem topicsFrom_cons_of_compound (compound : topic.slug.isPlain = false) :
    topicsFrom position seen (entry :: rest) = .error (noName topic.slug) := by
  simp only [topicsFrom, read, bind, Except.bind, compound]
  rfl

theorem topicsFrom_cons_of_known (plain : topic.slug.isPlain = true)
    (known : seen.any topic.slug.alike = true) :
    topicsFrom position seen (entry :: rest) = .error (Problem.duplicate topic.slug).tell := by
  simp only [topicsFrom, read, bind, Except.bind, plain, known]
  rfl

end Step

/-- What comes of the entries after the given names. -/
theorem topicsFrom_cases (position : Nat) (seen entries : List Json) :
    (Accepts seen entries ∧
      ∃ topics, topicsFrom position seen entries = .ok topics ∧
        List.Forall₂ ComesFrom entries topics) ∨
    (Breaks seen entries ∧ ∃ fault,
      topicsFrom position seen entries = .error (.fault fault) ∧ fault.cls = .mismatch) ∨
    (Stalls seen entries ∧ topicsFrom position seen entries = .error (.fault .tooLong)) ∨
    (¬Accepts seen entries ∧ ¬Breaks seen entries ∧ ¬Stalls seen entries ∧
      ∃ problem, topicsFrom position seen entries = .error (.problem problem)) := by
  induction entries generalizing position seen with
  | nil => exact .inl ⟨accepts_nil seen, [], rfl, .nil⟩
  | cons entry rest ih =>
    rw [accepts_cons_iff, Breaks, Stalls, refuses_cons_iff, refuses_cons_iff]
    rcases topicOf_cases position entry with
      ⟨complete, prerequisites, triggers, topic, read, made⟩ |
      ⟨complete, unlisted, fault, read, mismatch⟩ | ⟨untold, read⟩ |
      ⟨incomplete, told, problem, read⟩
    · cases plain : topic.slug.isPlain with
      | false =>
        have unsound : ¬IsSound entry := fun sound => by
          rw [made.slug, sound.slug] at plain
          cases plain
        rw [topicsFrom_cons_of_compound read plain]
        exact .inr (.inl ⟨.inl ⟨complete, unsound⟩, _, rfl, rfl⟩)
      | true =>
        have sound : IsSound entry := ⟨complete, prerequisites, triggers, made.slug ▸ plain⟩
        have typed : ¬IsMistyped entry := fun mistyped => mistyped.unsound sound
        have placed : ¬IsUntoldLayer entry := fun untold => untold.not_isComplete complete
        cases known : seen.any topic.slug.alike with
        | true =>
          have old : ¬IsNew seen entry := fun new => by
            rw [made.slug, any_alike_eq_false_iff.2 new] at known
            cases known
          rw [topicsFrom_cons_of_known read plain known, made.slug]
          cases printable : (Problem.duplicate (valueIn entry "slug")).isPrintable with
          | false =>
            rw [Problem.tell_of_unprintable printable]
            exact .inr (.inr (.inl ⟨.inl (.inr ⟨sound, old, printable⟩), rfl⟩))
          | true =>
            have told : ¬IsUntold seen entry := by
              rintro (layer | name)
              · exact placed layer
              · cases printable.symm.trans name.unprintable
            rw [Problem.tell_of_printable printable]
            exact .inr (.inr (.inr ⟨fun accepted => old accepted.2.1,
              not_or.2 ⟨typed, fun later => old later.2.1⟩,
              not_or.2 ⟨told, fun later => old later.2.1⟩, _, rfl⟩))
        | false =>
          have new : IsNew seen entry := any_alike_eq_false_iff.1 (made.slug ▸ known)
          have told : ¬IsUntold seen entry := by
            rintro (layer | name)
            · exact placed layer
            · exact name.known new
          -- The rest is read after one more name, so the induction applies to it.
          rw [topicsFrom_cons read plain known, made.slug]
          rcases ih (position + 1) (valueIn entry "slug" :: seen) with
            ⟨accepted, topics, others, come⟩ | ⟨broken, fault, others, mismatch⟩ |
            ⟨stalled, others⟩ | ⟨refused, unbroken, unstalled, problem, others⟩
          · rw [others]
            exact .inl ⟨⟨sound, new, accepted⟩, _, rfl, .cons made come⟩
          · rw [others]
            exact .inr (.inl ⟨.inr ⟨sound, new, broken⟩, fault, rfl, mismatch⟩)
          · rw [others]
            exact .inr (.inr (.inl ⟨.inr ⟨sound, new, stalled⟩, rfl⟩))
          · rw [others]
            exact .inr (.inr (.inr ⟨fun accepted => refused accepted.2.2,
              not_or.2 ⟨typed, fun later => unbroken later.2.2⟩,
              not_or.2 ⟨told, fun later => unstalled later.2.2⟩, problem, rfl⟩))
    · have unsound : ¬IsSound entry := fun sound => unlisted ⟨sound.prerequisites, sound.triggers⟩
      rw [topicsFrom, read]
      exact .inr (.inl ⟨.inl ⟨complete, unsound⟩, fault, rfl, mismatch⟩)
    · rw [topicsFrom, read]
      exact .inr (.inr (.inl ⟨.inl (.inl untold), rfl⟩))
    · have unsound : ¬IsSound entry := fun sound => incomplete sound.complete
      have typed : ¬IsMistyped entry := fun mistyped => incomplete mistyped.complete
      have named : ¬IsUntold seen entry := by
        rintro (layer | name)
        · exact told layer
        · exact unsound name.sound
      rw [topicsFrom, read]
      exact .inr (.inr (.inr ⟨fun accepted => unsound accepted.1,
        not_or.2 ⟨typed, fun later => unsound later.1⟩,
        not_or.2 ⟨named, fun later => unsound later.1⟩, problem, rfl⟩))

/-! ### Catalogs -/

/-- Data that is a catalog: the entries are accepted, and what triggers them are names. -/
def IsCatalog (data : Json) : Prop :=
  ∃ entries, data.get? "topics" = some (.list entries) ∧ Accepts [] entries ∧
    ∀ entry ∈ entries, ∀ trigger ∈ triggersIn entry, trigger.isPlain = true

/-- Data with something in the wrong place: an entry that is mistyped, with nothing before it that
is told as a problem, or a trigger that is no name, with no such problem at all. -/
def IsMistypedCatalog (data : Json) : Prop :=
  ∃ entries, data.get? "topics" = some (.list entries) ∧
    (Breaks [] entries ∨
      Accepts [] entries ∧ ∃ entry ∈ entries, ∃ trigger ∈ triggersIn entry, trigger.isPlain = false)

/-- Data with a problem that cannot be told, and nothing before it that is told or mistyped. -/
def IsUntoldCatalog (data : Json) : Prop :=
  ∃ entries, data.get? "topics" = some (.list entries) ∧ Stalls [] entries

theorem flatMap_triggers {entries : List Json} {topics : List Topic}
    (come : List.Forall₂ ComesFrom entries topics) :
    topics.flatMap Topic.triggers = entries.flatMap triggersIn := by
  induction come with
  | nil => rfl
  | cons made _ ih => rw [List.flatMap_cons, List.flatMap_cons, made.triggers, ih]

theorem not_isCatalog_of_get? {data : Json}
    (unlisted : ∀ entries, data.get? "topics" ≠ some (.list entries)) :
    ¬IsCatalog data ∧ ¬IsMistypedCatalog data ∧ ¬IsUntoldCatalog data :=
  ⟨fun ⟨entries, listed, _⟩ => unlisted entries listed,
    fun ⟨entries, listed, _⟩ => unlisted entries listed,
    fun ⟨entries, listed, _⟩ => unlisted entries listed⟩

theorem read_of_unlisted {data : Json}
    (unlisted : ∀ entries, data.get? "topics" ≠ some (.list entries)) :
    read (.holding data) = .error (.problem .noTopics) := by
  simp only [read]
  rfl

/-- The curriculum with the given topics, if what triggers them are names. -/
def ofTopics (topics : List Topic) : Except Failure Curriculum :=
  match (topics.flatMap Topic.triggers).find? fun trigger => !trigger.isPlain with
  | some trigger => .error (noName trigger)
  | none => .ok ⟨topics⟩

theorem read_of_listed {data : Json} {entries : List Json}
    (listed : data.get? "topics" = some (.list entries)) :
    read (.holding data) = (topicsFrom 1 [] entries >>= ofTopics) := by
  simp only [read, listed]
  rfl

theorem ofTopics_cases {entries : List Json} {topics : List Topic}
    (come : List.Forall₂ ComesFrom entries topics) :
    ((∀ entry ∈ entries, ∀ trigger ∈ triggersIn entry, trigger.isPlain = true) ∧
      ofTopics topics = .ok ⟨topics⟩) ∨
    ((∃ entry ∈ entries, ∃ trigger ∈ triggersIn entry, trigger.isPlain = false) ∧
      ∃ fault, ofTopics topics = .error (.fault fault) ∧ fault.cls = .mismatch) := by
  unfold ofTopics
  rw [flatMap_triggers come]
  cases found : (entries.flatMap triggersIn).find? fun trigger => !trigger.isPlain with
  | none =>
    have plain := List.find?_eq_none.1 found
    refine .inl ⟨fun entry member trigger listed => ?_, rfl⟩
    simpa using plain trigger (List.mem_flatMap.2 ⟨entry, member, listed⟩)
  | some trigger =>
    obtain ⟨entry, member, listed⟩ := List.mem_flatMap.1 (List.mem_of_find?_eq_some found)
    have compound : trigger.isPlain = false := by simpa using List.find?_some found
    exact .inr ⟨⟨entry, member, trigger, listed, compound⟩, _, rfl, rfl⟩

/-- What comes of the data in a file. -/
theorem read_cases (data : Json) :
    (IsCatalog data ∧ ∃ curriculum, read (.holding data) = .ok curriculum ∧
      ∃ entries, Accepts [] entries ∧ List.Forall₂ ComesFrom entries curriculum.topics) ∨
    (IsMistypedCatalog data ∧
      ∃ fault, read (.holding data) = .error (.fault fault) ∧ fault.cls = .mismatch) ∨
    (IsUntoldCatalog data ∧ read (.holding data) = .error (.fault .tooLong)) ∨
    (¬IsCatalog data ∧ ¬IsMistypedCatalog data ∧ ¬IsUntoldCatalog data ∧
      ∃ problem, read (.holding data) = .error (.problem problem)) := by
  by_cases listed : ∃ entries, data.get? "topics" = some (.list entries)
  · obtain ⟨entries, listed⟩ := listed
    have entries_eq : ∀ others, data.get? "topics" = some (.list others) → others = entries := by
      intro others listed'
      rw [listed] at listed'
      cases listed'
      rfl
    rw [read_of_listed listed]
    rcases topicsFrom_cases 1 [] entries with
      ⟨accepted, topics, read, come⟩ | ⟨broken, fault, read, mismatch⟩ | ⟨stalled, read⟩ |
      ⟨refused, unbroken, unstalled, problem, read⟩
    · rw [read]
      rcases ofTopics_cases come with
        ⟨plain, made⟩ | ⟨⟨entry, member, trigger, given, compound⟩, fault, made, mismatch⟩
      · exact .inl ⟨⟨entries, listed, accepted, plain⟩, ⟨topics⟩, made, entries, accepted, come⟩
      · have wrong : IsMistypedCatalog data :=
          ⟨entries, listed, .inr ⟨accepted, entry, member, trigger, given, compound⟩⟩
        exact .inr (.inl ⟨wrong, fault, made, mismatch⟩)
    · rw [read]
      exact .inr (.inl ⟨⟨entries, listed, .inl broken⟩, fault, rfl, mismatch⟩)
    · rw [read]
      exact .inr (.inr (.inl ⟨⟨entries, listed, stalled⟩, rfl⟩))
    · rw [read]
      refine .inr (.inr (.inr ⟨?_, ?_, ?_, problem, rfl⟩))
      · rintro ⟨others, listed', accepted, -⟩
        exact refused (entries_eq others listed' ▸ accepted)
      · rintro ⟨others, listed', broken | ⟨accepted, -⟩⟩
        · exact unbroken (entries_eq others listed' ▸ broken)
        · exact refused (entries_eq others listed' ▸ accepted)
      · rintro ⟨others, listed', stalled⟩
        exact unstalled (entries_eq others listed' ▸ stalled)
  · have unlisted : ∀ entries, data.get? "topics" ≠ some (.list entries) :=
      fun entries found => listed ⟨entries, found⟩
    obtain ⟨uncatalogued, typed, told⟩ := not_isCatalog_of_get? unlisted
    exact .inr (.inr (.inr ⟨uncatalogued, typed, told, _, read_of_unlisted unlisted⟩))

theorem IsCatalog.not_isMistypedCatalog {data : Json} (catalog : IsCatalog data) :
    ¬IsMistypedCatalog data := by
  obtain ⟨entries, listed, accepted, plain⟩ := catalog
  rintro ⟨others, listed', wrong⟩
  rw [listed] at listed'
  cases listed'
  rcases wrong with broken | ⟨-, entry, member, trigger, given, compound⟩
  · exact accepted.not_breaks broken
  · rw [plain entry member trigger given] at compound
    cases compound

theorem IsCatalog.not_isUntoldCatalog {data : Json} (catalog : IsCatalog data) :
    ¬IsUntoldCatalog data := by
  obtain ⟨entries, listed, accepted, -⟩ := catalog
  rintro ⟨others, listed', stalled⟩
  rw [listed] at listed'
  cases listed'
  exact accepted.not_stalls stalled

/-- Reading a catalog gives a curriculum or tells a problem, unless something in it is in the wrong
place or a problem cannot be told, and these are the two faults that there are; and it gives a
curriculum for exactly the data that is a catalog. -/
theorem read_answers_iff (file : File) :
    (((∃ curriculum, read file = .ok curriculum) ∨
        ∃ problem, read file = .error (.problem problem)) ↔
      ∀ data, file = .holding data → ¬IsMistypedCatalog data ∧ ¬IsUntoldCatalog data) ∧
    ((∃ curriculum, read file = .ok curriculum) ↔ ∃ data, file = .holding data ∧ IsCatalog data) ∧
    ∀ fault, read file = .error (.fault fault) → ∃ data, file = .holding data ∧
      (fault.cls = .mismatch ∧ IsMistypedCatalog data ∨
        fault = .tooLong ∧ IsUntoldCatalog data) := by
  cases file with
  | missing =>
    have told : read .missing = .error (.problem .notFound) := rfl
    simp [told]
  | unreadable reason =>
    have told : read (.unreadable reason) = .error (.problem (.unreadable reason)) := rfl
    simp [told]
  | holding data =>
    rcases read_cases data with
      ⟨catalog, curriculum, read, -⟩ | ⟨mistyped, fault, read, mismatch⟩ | ⟨untold, read⟩ |
      ⟨uncatalogued, typed, told, problem, read⟩
    · have typed := catalog.not_isMistypedCatalog
      have told := catalog.not_isUntoldCatalog
      simp [read, catalog, typed, told]
    · have uncatalogued : ¬IsCatalog data := fun catalog => catalog.not_isMistypedCatalog mistyped
      simp [read, mistyped, uncatalogued, mismatch]
    · have uncatalogued : ¬IsCatalog data := fun catalog => catalog.not_isUntoldCatalog untold
      simp [read, untold, uncatalogued]
    · simp [read, typed, told, uncatalogued]

/-- A topic that is to be triggered by a number of things. -/
theorem read_faults_on_numbered_triggers :
    let entry := Json.object
      [("slug", .text "loops"), ("name", .text "Loops"), ("layer", .text "intermediate"),
        ("category", .text "control"), ("description", .text "loops"), ("triggers", .int 5)]
    ∃ fault, read (.holding (.object [("topics", .list [entry])])) = .error (.fault fault) :=
  ⟨_, rfl⟩

end SnippetTutor.Catalog
