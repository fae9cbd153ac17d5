import DocHighlight.Proofs.Settings.Aliases

/-!
# Which value of a setting is in force

A value can be given for a setting in two places and has a default besides, and only one of these
three is in force: the first there is of override, environment and default. The settings that are
loaded are made from the values in force, each setting from its own. If some of these values are
refused, the first one of them is what the failure tells. Nothing else that an environment or
overrides hold can be seen in what is loaded.

`InForce` is the value in force for a setting. What such a value stands for is said for each setting
apart, as is which values are `Refused`; `MadeFrom` puts together what settings are loaded.
-/

namespace DocHighlight

namespace Setting

/-- The default of a setting, as a value that could be given for it. -/
def standard : Setting → Json
  | .languages => .array (Registry.defaultLanguages.map .string)
  | .aliases => .object (Registry.defaultAliases.map fun (key, name) => (key, .string name))
  | .logLevel => .string Settings.defaultLogLevel

/-- The place of a setting in the order in which settings are checked. -/
def place : Setting → Nat
  | .languages => 0
  | .aliases => 1
  | .logLevel => 2

end Setting

namespace Settings

/-- The value that is in force for a setting. -/
inductive InForce (environment : String → Option String) (overrides : List (String × Json))
    (setting : Setting) : (value : Json) → Prop where
  | fromOverride {value : Json} (given : Keyed.get? overrides setting.name = some value)
      (notNull : value ≠ .null) : InForce environment overrides setting value
  | fromEnvironment {text : String}
      (notGiven : ∀ value, Keyed.get? overrides setting.name = some value → value = .null)
      (given : environment setting.environmentName = some text) (notEmpty : text ≠ "") :
      InForce environment overrides setting (.string text)
  | fromDefault
      (notGiven : ∀ value, Keyed.get? overrides setting.name = some value → value = .null)
      (notSet : ∀ text, environment setting.environmentName = some text → text = "") :
      InForce environment overrides setting setting.standard

def NoText (value : Json) : Prop :=
  ∀ text, value ≠ .string text

/-- The list of languages that a value stands for. -/
inductive MeansLanguages : Json → (languages : List String) → Prop where
  | text (text : String) : MeansLanguages (.string text) (splitLanguages text)
  | list (languages : List String) : MeansLanguages (.array (languages.map .string)) languages

/-- The aliases that a value stands for. -/
inductive MeansAliases : Json → (aliases : List (String × String)) → Prop where
  | text {text : String} {aliases : List (String × String)}
      (split : splitAliases text = .ok aliases) : MeansAliases (.string text) aliases
  | dictionary (aliases : List (String × String)) :
      MeansAliases (.object (aliases.map fun (key, name) => (key, .string name))) aliases

/-- The level that a value stands for. -/
inductive MeansLogLevel : Json → (level : String) → Prop where
  | text {text : String} (known : Text.upper text ∈ Diagnostics.levelNames.map Prod.fst) :
      MeansLogLevel (.string text) (Text.upper text)

/-- The values that are refused for a setting, and what is said about them. -/
inductive Refused : Setting → (value : Json) → SettingFault → Prop where
  | notList {value : Json} (noText : NoText value)
      (noList : ∀ elements, value ≠ .array elements) : Refused .languages value .notList
  | notLanguage {elements : List Json} (noText : ∃ element ∈ elements, NoText element) :
      Refused .languages (.array elements) .notText
  | notDictionary {value : Json} (noText : NoText value)
      (noDictionary : ∀ members, value ≠ .object members) : Refused .aliases value .notDictionary
  | notName {members : List (String × Json)} (noText : ∃ member ∈ members, NoText member.2) :
      Refused .aliases (.object members) .notText
  | notPairs {text : String} (noPair : ∃ entry ∈ Text.entries text.toList, '=' ∉ entry) :
      Refused .aliases (.string text) (.notPairs text)
  | notLevel {value : Json} (noText : NoText value) : Refused .logLevel value .notText
  | unknownLevel {text : String}
      (unknown : Text.upper text ∉ Diagnostics.levelNames.map Prod.fst) :
      Refused .logLevel (.string text) (.unknownLevel text)

/-- The value in force for a setting is not refused. -/
def Accepted (environment : String → Option String) (overrides : List (String × Json))
    (setting : Setting) : Prop :=
  ∀ value fault, InForce environment overrides setting value → ¬ Refused setting value fault

/-- Each of the settings is what its own value in force stands for. -/
structure MadeFrom (environment : String → Option String) (overrides : List (String × Json))
    (settings : Settings) : Prop where
  languages : ∃ value, InForce environment overrides .languages value ∧
    MeansLanguages value settings.languages
  aliases : ∃ value, InForce environment overrides .aliases value ∧
    MeansAliases value settings.aliases
  logLevel : ∃ value, InForce environment overrides .logLevel value ∧
    MeansLogLevel value settings.logLevel

section Steps

variable {ε α β : Type}

theorem bind_eq_ok_iff {first : Except ε α} {next : α → Except ε β} {result : β} :
    (first >>= next) = .ok result ↔ ∃ value, first = .ok value ∧ next value = .ok result := by
  cases first <;> simp [bind, Except.bind]

theorem bind_eq_error_iff {first : Except ε α} {next : α → Except ε β} {problem : ε} :
    (first >>= next) = .error problem ↔
      first = .error problem ∨ ∃ value, first = .ok value ∧ next value = .error problem := by
  cases first <;> simp [bind, Except.bind]

theorem exists_ok_iff {result : Except ε α} :
    (∃ value, result = .ok value) ↔ ∀ problem, result ≠ .error problem := by
  cases result <;> simp

theorem mapM_eq_ok_iff {read : α → Except ε β} {write : β → α}
    (reads : ∀ given value, read given = .ok value ↔ given = write value) {givens : List α}
    {values : List β} : givens.mapM read = .ok values ↔ givens = values.map write := by
  induction givens generalizing values with
  | nil => cases values <;> simp [pure, Except.pure]
  | cons given others ih =>
      simp only [List.mapM_cons, bind_eq_ok_iff, reads, ih]
      cases values <;> simp [pure, Except.pure]

theorem mapM_eq_error_iff {read : α → Except ε β} {bad : α → Prop} {fault : ε}
    (refuses : ∀ given problem, read given = .error problem ↔ problem = fault ∧ bad given)
    {givens : List α} {problem : ε} :
    givens.mapM read = .error problem ↔ problem = fault ∧ ∃ given ∈ givens, bad given := by
  induction givens with
  | nil => simp [pure, Except.pure]
  | cons given others ih =>
      simp only [List.mapM_cons, bind_eq_error_iff, refuses, ih, List.exists_mem_cons_iff]
      -- There is but one fault, so it makes no difference which of the bad ones comes first.
      by_cases refused : bad given
      · have noValue : ∀ value, read given ≠ .ok value := by
          intro value accepted
          rw [(refuses given fault).mpr ⟨rfl, refused⟩] at accepted
          cases accepted
        simp [refused, noValue]
      · have accepted : ∃ value, read given = .ok value := by
          simp [exists_ok_iff, refuses, refused]
        rcases accepted with ⟨value, accepted⟩
        simp [refused, accepted, pure, Except.pure]

end Steps

theorem readText_eq_ok_iff (value : Json) (text : String) :
    readText value = .ok text ↔ value = .string text := by
  cases value <;> simp [readText]

theorem readText_eq_error_iff (value : Json) (fault : SettingFault) :
    readText value = .error fault ↔ fault = .notText ∧ NoText value := by
  cases value <;> simp [readText, NoText, eq_comm]

/-- One pair of a dictionary of aliases, as it is read. -/
def readMember (member : String × Json) : Except SettingFault (String × String) :=
  (readText member.2).map fun name => (member.1, name)

theorem readMember_eq_ok_iff (member : String × Json) (entry : String × String) :
    readMember member = .ok entry ↔ member = (entry.1, .string entry.2) := by
  rcases member with ⟨key, value⟩
  rcases entry with ⟨other, name⟩
  cases value <;> simp [readMember, readText, Except.map]

theorem readMember_eq_error_iff (member : String × Json) (fault : SettingFault) :
    readMember member = .error fault ↔ fault = .notText ∧ NoText member.2 := by
  rcases member with ⟨key, value⟩
  cases value <;> simp [readMember, readText, Except.map, NoText, eq_comm]

/-- What it takes to read the values of a setting. -/
structure Reads {α : Type} (setting : Setting) (read : Json → Except SettingFault α) (default : α)
    (means : Json → α → Prop) : Prop where
  ok : ∀ value result, read value = .ok result ↔ means value result
  error : ∀ value fault, read value = .error fault ↔ Refused setting value fault
  standard : read setting.standard = .ok default

theorem reads_languages :
    Reads .languages readLanguages Registry.defaultLanguages MeansLanguages where
  ok value languages := by
    constructor
    · intro read
      cases value with
      | string text =>
          cases read
          exact .text text
      | array elements =>
          rcases (mapM_eq_ok_iff readText_eq_ok_iff).mp read with rfl
          exact .list languages
      | _ => cases read
    · rintro (⟨text⟩ | ⟨languages⟩)
      · rfl
      · exact (mapM_eq_ok_iff readText_eq_ok_iff).mpr rfl
  error value fault := by
    constructor
    · intro refused
      cases value with
      | string text => cases refused
      | array elements =>
          rcases (mapM_eq_error_iff readText_eq_error_iff).mp refused with ⟨rfl, noText⟩
          exact .notLanguage noText
      | _ =>
          cases refused
          exact .notList nofun nofun
    · intro refused
      cases refused with
      | notList noText noList =>
          cases value with
          | string text => exact absurd rfl (noText text)
          | array elements => exact absurd rfl (noList elements)
          | _ => rfl
      | notLanguage noText => exact (mapM_eq_error_iff readText_eq_error_iff).mpr ⟨rfl, noText⟩
  standard := (mapM_eq_ok_iff readText_eq_ok_iff).mpr rfl

theorem reads_aliases : Reads .aliases readAliases Registry.defaultAliases MeansAliases where
  ok value aliases := by
    constructor
    · intro read
      cases value with
      | string text => exact .text read
      | object members =>
          rcases (mapM_eq_ok_iff readMember_eq_ok_iff).mp read with rfl
          exact .dictionary aliases
      | _ => cases read
    · rintro (split | ⟨aliases⟩)
      · exact split
      · exact (mapM_eq_ok_iff readMember_eq_ok_iff).mpr rfl
  error value fault := by
    constructor
    · intro refused
      cases value with
      | string text =>
          rcases splitAliases_eq_error_iff.mp refused with ⟨rfl, noPair⟩
          exact .notPairs noPair
      | object members =>
          rcases (mapM_eq_error_iff readMember_eq_error_iff).mp refused with ⟨rfl, noText⟩
          exact .notName noText
      | _ =>
          cases refused
          exact .notDictionary nofun nofun
    · intro refused
      cases refused with
      | notDictionary noText noDictionary =>
          cases value with
          | string text => exact absurd rfl (noText text)
          | object members => exact absurd rfl (noDictionary members)
          | _ => rfl
      | notName noText => exact (mapM_eq_error_iff readMember_eq_error_iff).mpr ⟨rfl, noText⟩
      | notPairs noPair => exact splitAliases_eq_error_iff.mpr ⟨rfl, noPair⟩
  standard := (mapM_eq_ok_iff readMember_eq_ok_iff).mpr rfl

theorem isSome_levelNamed?_iff {name : String} :
    (Diagnostics.levelNamed? name).isSome ↔ name ∈ Diagnostics.levelNames.map Prod.fst := by
  rw [Diagnostics.levelNamed?, List.lookup_isSome_iff, List.mem_map]
  exact exists_congr fun entry => and_congr_right fun _ => by rw [beq_iff_eq, eq_comm]

theorem MeansLogLevel.known {value : Json} {level : String} (meant : MeansLogLevel value level) :
    level ∈ Diagnostics.levelNames.map Prod.fst := by
  cases meant with
  | text known => exact known

theorem reads_logLevel : Reads .logLevel readLogLevel defaultLogLevel MeansLogLevel where
  ok value level := by
    constructor
    · intro read
      cases value with
      | string text =>
          simp only [readLogLevel, isSome_levelNamed?_iff] at read
          split at read
          · rename_i known
            cases read
            exact .text known
          · cases read
      | _ => cases read
    · rintro ⟨known⟩
      simp only [readLogLevel, isSome_levelNamed?_iff, if_pos known]
  error value fault := by
    constructor
    · intro refused
      cases value with
      | string text =>
          simp only [readLogLevel, isSome_levelNamed?_iff] at refused
          split at refused
          · cases refused
          · rename_i unknown
            cases refused
            exact .unknownLevel unknown
      | _ =>
          cases refused
          exact .notLevel nofun
    · intro refused
      cases refused with
      | notLevel noText =>
          cases value with
          | string text => exact absurd rfl (noText text)
          | _ => rfl
      | unknownLevel unknown =>
          simp only [readLogLevel, isSome_levelNamed?_iff, if_neg unknown]
  standard := by
    decide

section InForce

variable {environment : String → Option String} {overrides : List (String × Json)}
  {setting : Setting}

/-- Without an override, what the environment has is given. -/
theorem given?_of_not_given
    (notGiven : ∀ value, Keyed.get? overrides setting.name = some value → value = .null) :
    given? environment overrides setting =
      match environment setting.environmentName with
      | some "" | none => none
      | some text => some (.string text) := by
  rw [given?]
  cases found : Keyed.get? overrides setting.name with
  | none => rfl
  | some value =>
      cases notGiven value found
      rfl

theorem InForce.eq {value : Json} (inForce : InForce environment overrides setting value) :
    value = (given? environment overrides setting).getD setting.standard := by
  cases inForce with
  | fromOverride given notNull => simp [given?, given]
  | fromEnvironment notGiven given notEmpty => simp [given?_of_not_given notGiven, given]
  | fromDefault notGiven notSet =>
      rw [given?_of_not_given notGiven]
      cases given : environment setting.environmentName with
      | none => rfl
      | some text =>
          rw [notSet text given]
          rfl

theorem exists_inForce (environment : String → Option String) (overrides : List (String × Json))
    (setting : Setting) : ∃ value, InForce environment overrides setting value := by
  by_cases notGiven : ∀ value, Keyed.get? overrides setting.name = some value → value = .null
  · by_cases notSet : ∀ text, environment setting.environmentName = some text → text = ""
    · exact ⟨_, .fromDefault notGiven notSet⟩
    · push Not at notSet
      rcases notSet with ⟨text, given, notEmpty⟩
      exact ⟨_, .fromEnvironment notGiven given notEmpty⟩
  · push Not at notGiven
    rcases notGiven with ⟨value, given, notNull⟩
    exact ⟨value, .fromOverride given notNull⟩

theorem inForce_iff {value : Json} :
    InForce environment overrides setting value ↔
      value = (given? environment overrides setting).getD setting.standard := by
  constructor
  · exact InForce.eq
  · rintro rfl
    rcases exists_inForce environment overrides setting with ⟨value, inForce⟩
    rw [← inForce.eq]
    exact inForce

section Settle

variable {α : Type} {read : Json → Except SettingFault α} {default : α} {means : Json → α → Prop}

/-- What is settled on is the value in force, read: to read the default gives the default. -/
theorem Reads.settle_eq (reads : Reads setting read default means) :
    settle environment overrides setting read default =
      (read ((given? environment overrides setting).getD setting.standard)).mapError
        fun fault => ⟨setting, fault⟩ := by
  rw [settle]
  cases given? environment overrides setting with
  | none =>
      rw [Option.getD_none, reads.standard]
      rfl
  | some given => rfl

theorem Reads.settle_eq_ok_iff (reads : Reads setting read default means) {result : α} :
    settle environment overrides setting read default = .ok result ↔
      ∃ value, InForce environment overrides setting value ∧ means value result := by
  simp only [reads.settle_eq, inForce_iff, exists_eq_left, ← reads.ok]
  cases read _ <;> simp [Except.mapError]

theorem Reads.settle_eq_error_iff (reads : Reads setting read default means)
    {problem : InvalidSetting} :
    settle environment overrides setting read default = .error problem ↔
      problem.setting = setting ∧
        ∃ value, InForce environment overrides setting value ∧
          Refused setting value problem.fault := by
  rcases problem with ⟨other, fault⟩
  simp only [reads.settle_eq, inForce_iff, exists_eq_left, ← reads.error]
  cases read _ <;> simp [Except.mapError, eq_comm]

theorem Reads.accepted_iff (reads : Reads setting read default means) :
    Accepted environment overrides setting ↔
      ∃ result value, InForce environment overrides setting value ∧ means value result := by
  simp only [← reads.settle_eq_ok_iff, exists_ok_iff, ne_eq, reads.settle_eq_error_iff, not_and,
    not_exists]
  constructor
  · rintro accepted problem - value inForce
    exact accepted value problem.fault inForce
  · intro noProblem value fault inForce
    exact noProblem ⟨setting, fault⟩ rfl value inForce

end Settle

end InForce

section Order

variable {p : Setting → Prop}

theorem forall_before_aliases_iff :
    (∀ earlier, earlier.place < Setting.aliases.place → p earlier) ↔ p .languages := by
  constructor
  · intro all
    exact all .languages (by decide)
  · intro first earlier before
    cases earlier with
    | languages => exact first
    | aliases => exact absurd before (by decide)
    | logLevel => exact absurd before (by decide)

theorem forall_before_logLevel_iff :
    (∀ earlier, earlier.place < Setting.logLevel.place → p earlier) ↔
      p .languages ∧ p .aliases := by
  constructor
  · intro all
    exact ⟨all .languages (by decide), all .aliases (by decide)⟩
  · rintro ⟨first, second⟩ earlier before
    cases earlier with
    | languages => exact first
    | aliases => exact second
    | logLevel => exact absurd before (by decide)

end Order

section Load

variable {environment : String → Option String} {overrides : List (String × Json)}

theorem load_eq_ok_iff {settings : Settings} :
    load environment overrides = .ok settings ↔ MadeFrom environment overrides settings := by
  simp only [load, bind_eq_ok_iff, reads_languages.settle_eq_ok_iff,
    reads_aliases.settle_eq_ok_iff, reads_logLevel.settle_eq_ok_iff]
  constructor
  · rintro ⟨languages, fromLanguages, aliases, fromAliases, logLevel, fromLevel, made⟩
    cases made
    exact ⟨fromLanguages, fromAliases, fromLevel⟩
  · rintro ⟨fromLanguages, fromAliases, fromLevel⟩
    exact ⟨_, fromLanguages, _, fromAliases, _, fromLevel, rfl⟩

theorem exists_load_iff :
    (∃ settings, load environment overrides = .ok settings) ↔
      ∀ setting, Accepted environment overrides setting := by
  constructor
  · rintro ⟨settings, loaded⟩ setting
    rcases load_eq_ok_iff.mp loaded with ⟨languages, aliases, logLevel⟩
    cases setting with
    | languages => exact reads_languages.accepted_iff.mpr ⟨_, languages⟩
    | aliases => exact reads_aliases.accepted_iff.mpr ⟨_, aliases⟩
    | logLevel => exact reads_logLevel.accepted_iff.mpr ⟨_, logLevel⟩
  · intro accepted
    rcases reads_languages.accepted_iff.mp (accepted .languages) with ⟨languages, fromLanguages⟩
    rcases reads_aliases.accepted_iff.mp (accepted .aliases) with ⟨aliases, fromAliases⟩
    rcases reads_logLevel.accepted_iff.mp (accepted .logLevel) with ⟨logLevel, fromLevel⟩
    exact ⟨⟨languages, aliases, logLevel⟩,
      load_eq_ok_iff.mpr ⟨fromLanguages, fromAliases, fromLevel⟩⟩

theorem load_eq_error_iff {problem : InvalidSetting} :
    load environment overrides = .error problem ↔
      (∀ earlier, earlier.place < problem.setting.place →
        Accepted environment overrides earlier) ∧
      ∃ value, InForce environment overrides problem.setting value ∧
        Refused problem.setting value problem.fault := by
  rcases problem with ⟨setting, fault⟩
  simp only [load, bind_eq_error_iff, reads_languages.settle_eq_ok_iff,
    reads_languages.settle_eq_error_iff, reads_aliases.settle_eq_ok_iff,
    reads_aliases.settle_eq_error_iff, reads_logLevel.settle_eq_error_iff]
  cases setting with
  | languages => simp [Setting.place, pure, Except.pure]
  | aliases =>
      rw [forall_before_aliases_iff, reads_languages.accepted_iff]
      simp [pure, Except.pure]
  | logLevel =>
      rw [forall_before_logLevel_iff, reads_languages.accepted_iff, reads_aliases.accepted_iff]
      simp [pure, Except.pure, and_assoc]

/-- Whatever the environment and the overrides are, each setting has one value in force. The
settings are made from these values, each from its own, if none of them is refused; else the failure
tells the first setting whose value is refused and what is wrong with it. Where the values in force
are the same, what is loaded is the same. -/
theorem load_precedence (environment : String → Option String) (overrides : List (String × Json)) :
    (∀ setting, ∃! value, InForce environment overrides setting value) ∧
      ((∃ settings, load environment overrides = .ok settings) ↔
        ∀ setting, Accepted environment overrides setting) ∧
      (∀ settings, load environment overrides = .ok settings ↔
        MadeFrom environment overrides settings) ∧
      (∀ message, (load environment overrides).mapError InvalidSetting.message = .error message ↔
        ∃ setting value fault,
          (∀ earlier, earlier.place < setting.place → Accepted environment overrides earlier) ∧
          InForce environment overrides setting value ∧ Refused setting value fault ∧
          message = "Invalid configuration: " ++ setting.name ++ ": " ++ fault.message) ∧
      ∀ elsewhere others,
        (∀ setting value, InForce environment overrides setting value ↔
          InForce elsewhere others setting value) →
        load environment overrides = load elsewhere others := by
  refine ⟨fun setting => ?_, exists_load_iff, fun settings => load_eq_ok_iff, fun message => ?_, ?_⟩
  · simp only [inForce_iff, existsUnique_eq]
  · have told : (load environment overrides).mapError InvalidSetting.message = .error message ↔
        ∃ problem, load environment overrides = .error problem ∧ message = problem.message := by
      cases load environment overrides <;> simp [Except.mapError, eq_comm]
    rw [told]
    constructor
    · rintro ⟨problem, failed, rfl⟩
      rcases load_eq_error_iff.mp failed with ⟨earlier, value, inForce, refused⟩
      exact ⟨problem.setting, value, problem.fault, earlier, inForce, refused, rfl⟩
    · rintro ⟨setting, value, fault, earlier, inForce, refused, rfl⟩
      exact ⟨⟨setting, fault⟩, load_eq_error_iff.mpr ⟨earlier, value, inForce, refused⟩, rfl⟩
  · intro elsewhere others same
    have sameValue : ∀ setting, (given? environment overrides setting).getD setting.standard =
        (given? elsewhere others setting).getD setting.standard := by
      intro setting
      exact inForce_iff.mp ((same setting _).mp (inForce_iff.mpr rfl))
    simp only [load, reads_languages.settle_eq, reads_aliases.settle_eq, reads_logLevel.settle_eq,
      sameValue]

end Load

/-- An environment with aliases that are no pairs and a level that no one knows. -/
def faultyEnvironment (name : String) : Option String :=
  [("LANGUAGES", "python"), ("ALIASES", "html"), ("LOG_LEVEL", "loud"), ("COLOUR", "red")].lookup
    name

/-- One override for each setting, the empty text among them. -/
def allOverrides : List (String × Json) :=
  [("languages", .string ""), ("aliases", .object [("svg", .string "xml")]),
    ("log_level", .string "debug")]

/-- A fault of the environment does not show where there is an override, and an override that is
null is none. -/
theorem load_precedence_masked :
    ((∀ setting value,
        InForce faultyEnvironment (allOverrides ++ [("colour", .null)]) setting value ↔
          InForce (fun _ => none) allOverrides setting value) ∧
      load faultyEnvironment (allOverrides ++ [("colour", .null)]) =
        load (fun _ => none) allOverrides ∧
      load (fun _ => none) allOverrides = .ok ⟨[], [("svg", "xml")], "DEBUG"⟩ ∧
      MadeFrom (fun _ => none) allOverrides ⟨[], [("svg", "xml")], "DEBUG"⟩) ∧
    (load faultyEnvironment [("aliases", .null)]).mapError InvalidSetting.message =
        .error "Invalid configuration: aliases: Value error, expected id=lexer pairs, got 'html'" ∧
      ∃ setting value fault,
        (∀ earlier, earlier.place < setting.place →
          Accepted faultyEnvironment [("aliases", .null)] earlier) ∧
        InForce faultyEnvironment [("aliases", .null)] setting value ∧ Refused setting value fault ∧
        "Invalid configuration: aliases: Value error, expected id=lexer pairs, got 'html'" =
          "Invalid configuration: " ++ setting.name ++ ": " ++ fault.message := by
  have same : ∀ setting value,
      InForce faultyEnvironment (allOverrides ++ [("colour", .null)]) setting value ↔
        InForce (fun _ => none) allOverrides setting value := by
    intro setting value
    rw [inForce_iff, inForce_iff]
    cases setting <;> rfl
  have loaded : load (fun _ => none) allOverrides = .ok ⟨[], [("svg", "xml")], "DEBUG"⟩ := by
    rfl
  have refused :
      (load faultyEnvironment [("aliases", .null)]).mapError InvalidSetting.message =
        .error
          "Invalid configuration: aliases: Value error, expected id=lexer pairs, got 'html'" := by
    rfl
  rcases load_precedence faultyEnvironment (allOverrides ++ [("colour", .null)]) with
    ⟨-, -, -, -, independent⟩
  exact ⟨⟨same, independent _ _ same, loaded,
      ((load_precedence (fun _ => none) allOverrides).2.2.1 _).mp loaded⟩,
    refused, ((load_precedence faultyEnvironment [("aliases", .null)]).2.2.2.1 _).mp refused⟩

end Settings

end DocHighlight
