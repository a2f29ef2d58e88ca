import SnippetTutor.Config.Loading
import SnippetTutor.Json.Equality
import SnippetTutor.Proofs.Members

/-!
# Which value a setting gets

A setting should get the value in the environment, else the one in the file, else the default, and a
value counts only if it is of the type of the default. Truth values and numbers are different types
here, but the file may put a truth value in the place of a number, and from then on the environment
is read as one too.

* `SettingType.preferred` is the value that a setting should get;
* `Config.settingAt_settle` and `Config.settingAt_applyEnvironment` say what the file and the
  environment do to one setting, and nothing they do adds or removes a setting
  (`Config.layout_applyFile`, `Config.layout_applyEnvironment`);
* `Config.load_eq_ok_iff`: a configuration is loaded unless the file holds a number with too many
  digits;
* `Config.load_prefers_iff`: a setting gets the value that it should get exactly if the file does
  not hold a truth value in the place of a number.
-/

namespace SnippetTutor

/-- The types of settings. -/
inductive SettingType where
  | truth
  | number
  | text
  deriving DecidableEq, Repr

namespace SettingType

/-- The type of a value. A truth value is no number. -/
def of? : Json → Option SettingType
  | .bool _ => some truth
  | .int _ => some number
  | .text _ => some text
  | _ => none

/-- The value of a type that a text stands for. -/
def read? (type : SettingType) (written : String) : Option Json :=
  match type with
  | truth =>
    if (Config.stripped written).toLower ∈ Config.trueWords then some (.bool true)
    else if (Config.stripped written).toLower ∈ Config.falseWords then some (.bool false)
    else none
  | number => (Number.integer? written.toList).map .int
  | text => some (.text written)

/-- The value that a setting should get: the one that the given text stands for, else the held one
if it is of the type, else the initial one. -/
def preferred (type : SettingType) (given : Option String) (held : Option Json) (initial : Json) :
    Json :=
  ((given.bind type.read?).or (held.filter fun value => of? value = some type)).getD initial

variable {type : SettingType} {sample value initial : Json}

theorem preferred_eq_getD (given : Option String) (held : Option Json) :
    type.preferred given held initial =
      (given.bind type.read?).getD (type.preferred none held initial) :=
  Option.getD_or

theorem of?_of_read? {written : String} (read : type.read? written = some value) :
    of? value = some type := by
  cases type with
  | truth =>
    unfold read? at read
    simp only at read
    split at read
    · cases read
      rfl
    · split at read
      · cases read
        rfl
      · cases read
  | number =>
    obtain ⟨n, -, rfl⟩ := Option.map_eq_some_iff.1 read
    rfl
  | text =>
    cases read
    rfl

theorem of?_preferred {held : Option Json}
    (left : of? (type.preferred none held initial) = some type) (given : Option String) :
    of? (type.preferred given held initial) = some type := by
  rw [preferred_eq_getD]
  cases read : given.bind type.read? with
  | none => exact left
  | some value =>
    obtain ⟨written, -, read⟩ := Option.bind_eq_some_iff.1 read
    exact of?_of_read? read

/-- The value that a setting should get is of the type of the initial one. -/
theorem of?_preferred_of_initial (known : of? initial = some type) (given : Option String)
    (held : Option Json) : of? (type.preferred given held initial) = some type := by
  refine of?_preferred ?_ given
  show of? ((held.filter fun value => of? value = some type).getD initial) = some type
  cases fit : held.filter fun value => of? value = some type with
  | none => exact known
  | some value => exact of_decide_eq_true (Option.filter_eq_some_iff.1 fit).2

theorem preferred_none_some (fit : of? value = some type) :
    type.preferred none (some value) initial = value := by
  simp [preferred, Option.filter, fit]

/-- It is of the type of the held one, if this is a value of the type. -/
theorem of?_preferred_of_held {held : Option Json} (fit : held.bind of? = some type)
    (given : Option String) : of? (type.preferred given held initial) = some type := by
  obtain ⟨value, rfl, fit⟩ := Option.bind_eq_some_iff.1 fit
  refine of?_preferred ?_ given
  rw [preferred_none_some fit]
  exact fit

/-- A text is converted by the type of the sample alone. -/
theorem convert_eq_read? (known : of? sample = some type) (written : String) :
    Config.convert written sample = type.read? written := by
  cases sample with
  | bool value =>
    cases known
    simp [Config.convert, read?]
  | int value =>
    cases known
    rfl
  | text value =>
    cases known
    rfl
  | null => cases known
  | real value => cases known
  | list items => cases known
  | object members => cases known

/-- A value can stand for a sample if it is of the same type, or a truth value for a number. -/
theorem fits_iff (known : of? sample = some type) :
    Config.fits sample value = true ↔
      of? value = some type ∨ type = number ∧ of? value = some truth := by
  cases sample with
  | bool _ | int _ | text _ => cases known; cases value <;> simp [Config.fits, of?]
  | null | real _ | list _ | object _ => cases known

/-- Among the values that do not put a truth value in the place of a number, those of the type can
stand for a sample. -/
theorem filter_fits (known : of? sample = some type) {held : Option Json}
    (apart : ¬(type = number ∧ held.bind of? = some truth)) :
    held.filter (Config.fits sample) = held.filter fun value => of? value = some type := by
  cases held with
  | none => rfl
  | some value =>
    have same : Config.fits sample value = decide (of? value = some type) := by
      rw [Bool.eq_iff_iff, decide_eq_true_iff, fits_iff known]
      exact or_iff_left apart
    simp only [Option.filter, same]

/-- A truth value can stand for a number. -/
theorem filter_fits_truth (known : of? sample = some number) {held : Option Json}
    (truthful : held.bind of? = some truth) : held.filter (Config.fits sample) = held := by
  obtain ⟨value, rfl, truthful⟩ := Option.bind_eq_some_iff.1 truthful
  simp only [Option.filter, (fits_iff known).2 (.inr ⟨rfl, truthful⟩), if_true]

end SettingType

namespace Config

/-- The value of a setting. -/
def settingAt (config : Config) (name key : String) : Option Json :=
  (config.get? name).bind fun values => values.get? key

/-- The sections and the keys in them. -/
def layout (config : Config) : Keyed (List String) :=
  config.map fun entry => (entry.1, entry.2.keys)

/-- What stands in a value at the place of a setting. -/
def memberAt (json : Json) (name key : String) : Option Json :=
  (json.get? name).bind fun values => values.get? key

/-- What a file holds at the place of a setting. -/
def heldAt (file : Option String) (name key : String) : Option Json :=
  (file.bind Json.parse?).bind fun json => memberAt json name key

/-- A file holds a whole number with too many digits, and no flaw before it. -/
def HoldsHugeNumber (file : Option String) : Prop :=
  ∃ text count left, file = some text ∧ Json.parse text = .error ⟨.tooManyDigits count, left⟩

/-! ### The file -/

theorem keys_setKnown (values : Keyed Json) (entry : String × Json) :
    (setKnown values entry).keys = values.keys := by
  unfold setKnown
  split
  · rename_i sample found
    have known : entry.1 ∈ values.keys := (Keyed.get?_isSome_iff values entry.1).1 (by simp [found])
    split
    · rw [Keyed.keys_put, if_pos known]
    · rfl
  · rfl

theorem get?_setKnown_of_ne {values : Keyed Json} {entry : String × Json} {key : String}
    (apart : entry.1 ≠ key) : (setKnown values entry).get? key = values.get? key := by
  unfold setKnown
  split
  · split
    · rw [Keyed.get?_put, if_neg apart]
    · rfl
  · rfl

theorem get?_setKnown_self {values : Keyed Json} {key : String} {sample : Json}
    (known : values.get? key = some sample) (value : Json) :
    (setKnown values (key, value)).get? key =
      some (if fits sample value then value else sample) := by
  simp only [setKnown, known]
  split
  · rw [Keyed.get?_put, if_pos rfl]
  · exact known

theorem get?_foldl_setKnown_of_not_mem {members values : Keyed Json} {key : String}
    (absent : key ∉ members.keys) : (members.foldl setKnown values).get? key = values.get? key := by
  induction members generalizing values with
  | nil => rfl
  | cons entry rest ih =>
    obtain ⟨apart, absent⟩ := not_or.1 (mt List.mem_cons.2 absent)
    rw [List.foldl_cons, ih absent, get?_setKnown_of_ne (Ne.symm apart)]

/-- A section gives a setting the value of its member, if this fits. -/
theorem get?_foldl_setKnown {members values : Keyed Json} (distinct : members.keys.Nodup)
    {key : String} {sample : Json} (known : values.get? key = some sample) :
    (members.foldl setKnown values).get? key =
      some (((members.get? key).filter (fits sample)).getD sample) := by
  induction members generalizing values with
  | nil => exact known
  | cons entry rest ih =>
    obtain ⟨absent, distinct⟩ := List.nodup_cons.1 distinct
    rw [List.foldl_cons, Keyed.get?_cons]
    by_cases same : entry.1 = key
    · -- No later member is about the same key.
      subst same
      rw [get?_foldl_setKnown_of_not_mem absent, get?_setKnown_self known, if_pos rfl]
      by_cases fit : fits sample entry.2 = true
      · simp [Option.filter, fit]
      · simp [Option.filter, fit]
    · rw [if_neg same]
      exact ih distinct ((get?_setKnown_of_ne same).trans known)

theorem keys_foldl_setKnown (members values : Keyed Json) :
    (members.foldl setKnown values).keys = values.keys := by
  induction members generalizing values with
  | nil => rfl
  | cons entry rest ih => rw [List.foldl_cons, ih, keys_setKnown]

theorem keys_applySection (sections : Keyed Json) (name : String) (values : Keyed Json) :
    (applySection sections name values).keys = values.keys := by
  unfold applySection
  split
  · exact keys_foldl_setKnown _ _
  · rfl

theorem get?_applySection {sections : Keyed Json} (regular : (Json.object sections).IsRegular)
    {name key : String} {values : Keyed Json} {sample : Json}
    (known : values.get? key = some sample) :
    (applySection sections name values).get? key =
      some (((memberAt (.object sections) name key).filter (fits sample)).getD sample) := by
  have found : (Json.object sections).get? name = sections.get? name := rfl
  rw [applySection, memberAt, found]
  cases held : sections.get? name with
  | none => exact known
  | some value =>
    cases value with
    | object members =>
      have inner := (Json.isRegular_object_iff.1 regular).2 _ (Keyed.mem_of_get? held)
      exact get?_foldl_setKnown (Json.isRegular_object_iff.1 inner).1 known
    | null | bool _ | int _ | real _ | text _ | list _ => exact known

/-- A file gives a setting the value that it holds, if this fits. -/
theorem settingAt_applyFile {json : Json} (regular : json.IsRegular) {config : Config}
    {name key : String} {sample : Json} (known : config.settingAt name key = some sample) :
    (applyFile json config).settingAt name key =
      some (((memberAt json name key).filter (fits sample)).getD sample) := by
  cases json with
  | object sections =>
    obtain ⟨values, found, known⟩ := Option.bind_eq_some_iff.1 known
    have changed : (applyFile (.object sections) config).get? name =
        some (applySection sections name values) := by
      rw [applyFile]
      exact (Keyed.get?_map (applySection sections) config name).trans (by rw [found]; rfl)
    rw [settingAt, changed]
    exact get?_applySection regular known
  | null | bool _ | int _ | real _ | text _ | list _ => exact known

theorem layout_applyFile (json : Json) (config : Config) :
    (applyFile json config).layout = config.layout := by
  unfold applyFile
  split
  · rw [layout, List.map_map]
    exact List.map_congr_left fun entry _ =>
      congrArg (Prod.mk entry.1) (keys_applySection _ entry.1 entry.2)
  · rfl

theorem layout_settle (json? : Option Json) : (settle json?).layout = defaults.layout := by
  cases json? with
  | none => rfl
  | some json => exact layout_applyFile json defaults

theorem settingAt_settle (file : Option String) {name key : String} {initial : Json}
    (known : defaults.settingAt name key = some initial) :
    (settle (file.bind Json.parse?)).settingAt name key =
      some (((heldAt file name key).filter (fits initial)).getD initial) := by
  unfold heldAt
  cases read : file.bind Json.parse? with
  | none => exact known
  | some json =>
    obtain ⟨text, -, parsed⟩ := Option.bind_eq_some_iff.1 read
    exact settingAt_applyFile (Json.isRegular_of_parse (Json.parse?_eq_some_iff.1 parsed)) known

/-! ### The environment -/

/-- The environment gives a setting the value that its variable stands for, if there is one. -/
theorem settingAt_applyEnvironment (environment : Keyed String) {config : Config}
    {name key : String} {value : Json} (known : config.settingAt name key = some value) :
    (applyEnvironment environment config).settingAt name key =
      some (applyVariable environment name key value) := by
  obtain ⟨values, found, known⟩ := Option.bind_eq_some_iff.1 known
  have changed : (applyEnvironment environment config).get? name =
      some (values.map fun entry => (entry.1, applyVariable environment name entry.1 entry.2)) := by
    rw [applyEnvironment]
    exact (Keyed.get?_map (fun name (values : Keyed Json) => values.map fun entry =>
      (entry.1, applyVariable environment name entry.1 entry.2)) config name).trans (by rw [found])
  rw [settingAt, changed]
  exact (Keyed.get?_map (applyVariable environment name) values key).trans (by rw [known]; rfl)

theorem layout_applyEnvironment (environment : Keyed String) (config : Config) :
    (applyEnvironment environment config).layout = config.layout := by
  rw [layout, applyEnvironment, List.map_map]
  refine List.map_congr_left fun entry _ => congrArg (Prod.mk entry.1) ?_
  exact List.map_map

theorem applyVariable_eq {type : SettingType} {value : Json}
    (known : SettingType.of? value = some type) (environment : Keyed String) (name key : String) :
    applyVariable environment name key value =
      ((environment.get? (variableName name key)).bind type.read?).getD value := by
  unfold applyVariable
  cases environment.get? (variableName name key) with
  | none => rfl
  | some written =>
    show (convert written value).getD value = _
    rw [SettingType.convert_eq_read? known]
    rfl

/-! ### Loading -/

/-- A file is read unless it holds a number with too many digits. -/
theorem readFile_eq_ok_iff {text : String} {json? : Option Json} :
    readFile text = .ok json? ↔ ¬HoldsHugeNumber (some text) ∧ json? = Json.parse? text := by
  unfold readFile HoldsHugeNumber Json.parse?
  cases read : Json.parse text with
  | ok json => simp [read, Except.toOption, eq_comm]
  | error misreading =>
    obtain ⟨flaw, left⟩ := misreading
    cases flaw <;> simp [read, Except.toOption, Json.Flaw.isMalformation, eq_comm]

/-- A configuration is loaded unless the file holds a number with too many digits. -/
theorem load_eq_ok_iff {file : Option String} {environment : Keyed String} {config : Config} :
    load file environment = .ok config ↔
      ¬HoldsHugeNumber file ∧
        config = applyEnvironment environment (settle (file.bind Json.parse?)) := by
  cases file with
  | none =>
    show pure _ = Except.ok config ↔ _
    simp [pure, Except.pure, HoldsHugeNumber, eq_comm]
  | some text =>
    unfold load
    rw [bind_eq_ok]
    constructor
    · rintro ⟨json?, read, loaded⟩
      obtain ⟨fine, rfl⟩ := readFile_eq_ok_iff.1 read
      exact ⟨fine, (Except.ok.inj loaded).symm⟩
    · rintro ⟨fine, rfl⟩
      exact ⟨_, readFile_eq_ok_iff.2 ⟨fine, rfl⟩, rfl⟩

/-- Every default has a type. -/
theorem exists_type {name key : String} {initial : Json}
    (known : defaults.settingAt name key = some initial) :
    ∃ type, SettingType.of? initial = some type := by
  have typed : ∀ part ∈ defaults, ∀ entry ∈ part.2, (SettingType.of? entry.2).isSome := by
    decide
  obtain ⟨values, found, known⟩ := Option.bind_eq_some_iff.1 known
  exact Option.isSome_iff_exists.1
    (typed _ (Keyed.mem_of_get? found) _ (Keyed.mem_of_get? known))

section

variable {file : Option String} {environment : Keyed String} {config : Config}
  {name key : String} {initial : Json} {type : SettingType}

/-- The value that the file leaves in the place of a setting decides the type by which the
environment is read. -/
theorem settingAt_load (loaded : load file environment = .ok config)
    (known : defaults.settingAt name key = some initial)
    (left : ((heldAt file name key).filter (fits initial)).getD initial =
      type.preferred none (heldAt file name key) initial)
    (typed : SettingType.of? (type.preferred none (heldAt file name key) initial) = some type) :
    config.settingAt name key = some (type.preferred (environment.get? (variableName name key))
      (heldAt file name key) initial) := by
  have settled := settingAt_settle file known
  rw [left] at settled
  rw [(load_eq_ok_iff.1 loaded).2, settingAt_applyEnvironment environment settled,
    applyVariable_eq typed, ← SettingType.preferred_eq_getD]

/-- Where no truth value stands for a number, the value left is of the type of the default. -/
theorem settingAt_load_of_not_truth (loaded : load file environment = .ok config)
    (known : defaults.settingAt name key = some initial)
    (typed : SettingType.of? initial = some type)
    (apart : ¬(type = .number ∧ (heldAt file name key).bind SettingType.of? = some .truth)) :
    config.settingAt name key = some (type.preferred (environment.get? (variableName name key))
      (heldAt file name key) initial) := by
  refine settingAt_load loaded known ?_ (SettingType.of?_preferred_of_initial typed none _)
  rw [SettingType.filter_fits typed apart]
  rfl

/-- A truth value that stands for a number is left, and the environment is read as one. -/
theorem settingAt_load_of_truth (loaded : load file environment = .ok config)
    (known : defaults.settingAt name key = some initial)
    (typed : SettingType.of? initial = some .number)
    (truthful : (heldAt file name key).bind SettingType.of? = some .truth) :
    config.settingAt name key =
      some (SettingType.truth.preferred (environment.get? (variableName name key))
        (heldAt file name key) initial) := by
  refine settingAt_load loaded known ?_ (SettingType.of?_preferred_of_held truthful none)
  rw [SettingType.filter_fits_truth typed truthful]
  obtain ⟨value, held, fit⟩ := Option.bind_eq_some_iff.1 truthful
  rw [held, SettingType.preferred_none_some fit]
  rfl

end

/-- A configuration is loaded unless the file holds a number with too many digits, and it has the
sections and keys of the defaults. A setting gets the value that it should get exactly if the file
does not hold a truth value in the place of a number; if it does, the setting gets what a truth
value should get. -/
theorem load_prefers_iff (file : Option String) (environment : Keyed String) :
    ((∃ config, load file environment = .ok config) ↔ ¬HoldsHugeNumber file) ∧
    ∀ config, load file environment = .ok config →
      config.layout = defaults.layout ∧
      ∀ name key initial, defaults.settingAt name key = some initial →
        ∃ type, SettingType.of? initial = some type ∧
          let given := environment.get? (variableName name key)
          let held := heldAt file name key
          let truthForNumber := type = .number ∧ held.bind SettingType.of? = some .truth
          (config.settingAt name key = some (type.preferred given held initial) ↔
            ¬truthForNumber) ∧
          (truthForNumber → config.settingAt name key =
            some (SettingType.truth.preferred given held initial)) := by
  refine ⟨by simp [load_eq_ok_iff], fun config loaded => ⟨?_, ?_⟩⟩
  · rw [(load_eq_ok_iff.1 loaded).2, layout_applyEnvironment, layout_settle]
  · intro name key initial known
    obtain ⟨type, typed⟩ := exists_type known
    refine ⟨type, typed, ⟨?_, settingAt_load_of_not_truth loaded known typed⟩, ?_⟩
    · -- A number should be there, but a truth value is.
      rintro preferred ⟨rfl, truthful⟩
      have same := Option.some.inj
        ((settingAt_load_of_truth loaded known typed truthful).symm.trans preferred)
      have number := SettingType.of?_preferred_of_initial typed
        (environment.get? (variableName name key)) (heldAt file name key)
      rw [← same, SettingType.of?_preferred_of_held truthful] at number
      cases number
    · rintro ⟨rfl, truthful⟩
      exact settingAt_load_of_truth loaded known typed truthful

/-- A truth value in the file hides the number in the environment. -/
theorem load_hides_number :
    let file := "\x7b\"limits\": \x7b\"max_top_issues\": true\x7d\x7d"
    let environment := [("CODECOACH_LIMITS_MAX_TOP_ISSUES", "5")]
    defaults.settingAt "limits" "max_top_issues" = some (.int 3) ∧
      SettingType.number.read? "5" = some (.int 5) ∧
      ∃ config, load (some file) environment = .ok config ∧
        config.settingAt "limits" "max_top_issues" = some (.bool true) := by
  intro file environment
  refine ⟨by decide, by decide +kernel, ?_⟩
  have computed : ((load (some file) environment).toOption.any fun config =>
      config.settingAt "limits" "max_top_issues" = some (.bool true)) = true := by decide +kernel
  obtain ⟨config, loaded, left⟩ := exists_ok_of_any computed
  exact ⟨config, loaded, of_decide_eq_true left⟩

end Config

end SnippetTutor
