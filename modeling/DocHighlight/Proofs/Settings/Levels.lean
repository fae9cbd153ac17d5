import DocHighlight.Proofs.Diagnostics.Logging
import DocHighlight.Proofs.Settings.Precedence

/-!
# The level of diagnostics as a setting and as a request

A level is looked up in two tables: the settings look for its name among the names of levels, the
loggers look for it among all the words that can be asked with. Either takes a name in any case.
What the settings accept, the loggers take for the level of that name. What the settings refuse as
an unknown level, the loggers refuse as well, or take for a warning.

A request `FallsBack` to a warning if no known word reads like it. The name of a level never does,
not even the name of the warning itself.
-/

namespace DocHighlight.Settings

open Diagnostics LogState

/-- No word is known that reads like this, so a warning stands for it. -/
def FallsBack (text : String) : Prop :=
  words.lookup (Text.upper text) = none

theorem upper_of_mem_levelNames : ∀ entry ∈ levelNames, Text.upper entry.1 = entry.1 := by
  decide +kernel

theorem lookup_of_mem_levelNames :
    ∀ entry ∈ levelNames, words.lookup entry.1 = some (.ok entry.2) := by
  decide +kernel

/-- The words beside the names of levels stand for no level. -/
theorem mem_levelNames_or_error :
    ∀ entry ∈ words, entry.1 ∈ levelNames.map Prod.fst ∨
      entry.2 = .error .basicFormat ∨ entry.2 = .error .styles := by
  decide +kernel

theorem warning_of_mem_levelNames :
    ∀ entry ∈ levelNames, entry.2 = warningLevel → entry.1 = "WARNING" ∨ entry.1 = "WARN" := by
  decide +kernel

theorem mem_of_lookup_eq_some {α : Type} {table : List (String × α)} {name : String} {value : α}
    (found : table.lookup name = some value) : (name, value) ∈ table := by
  rcases List.lookup_eq_some_iff.mp found with ⟨before, after, rfl, -⟩
  exact List.mem_append_right _ (List.mem_cons_self ..)

theorem mem_levelNames {name : String} {level : Int} (named : levelNamed? name = some level) :
    (name, level) ∈ levelNames :=
  mem_of_lookup_eq_some named

section Requests

variable {text : String}

/-- A text that reads like the name of a level is taken for that level. -/
theorem lookup_of_levelNamed? {level : Int} (named : levelNamed? (Text.upper text) = some level) :
    words.lookup (Text.upper text) = some (.ok level) :=
  lookup_of_mem_levelNames (_, level) (mem_levelNames named)

theorem resolve_of_levelNamed? {level : Int} (named : levelNamed? (Text.upper text) = some level) :
    (LevelRequest.word text).resolve = .ok level := by
  rw [LevelRequest.resolve, lookup_of_levelNamed? named, Option.getD_some]

/-- A text that reads like no name of a level is taken for a warning, or refused. -/
theorem fallsBack_or_refused (unknown : Text.upper text ∉ levelNames.map Prod.fst) :
    FallsBack text ∧ (LevelRequest.word text).resolve = .ok warningLevel ∨
      ∃ refusal, (LevelRequest.word text).resolve = .error refusal := by
  rw [FallsBack, LevelRequest.resolve]
  cases found : words.lookup (Text.upper text) with
  | none => exact .inl ⟨rfl, rfl⟩
  | some meant =>
      rcases mem_levelNames_or_error _ (mem_of_lookup_eq_some found) with known | rfl | rfl
      · exact absurd known unknown
      · exact .inr ⟨_, rfl⟩
      · exact .inr ⟨_, rfl⟩

end Requests

section Load

variable {environment : String → Option String} {overrides : List (String × Json)}
  {settings : Settings}

theorem exists_levelNamed? (loaded : load environment overrides = .ok settings) :
    ∃ level, levelNamed? settings.logLevel = some level := by
  rcases (load_eq_ok_iff.mp loaded).logLevel with ⟨value, -, meant⟩
  exact Option.isSome_iff_exists.mp (isSome_levelNamed?_iff.mpr meant.known)

theorem upper_logLevel (loaded : load environment overrides = .ok settings) :
    Text.upper settings.logLevel = settings.logLevel := by
  rcases exists_levelNamed? loaded with ⟨level, named⟩
  exact upper_of_mem_levelNames (_, level) (mem_levelNames named)

theorem logLevel_eq_upper (loaded : load environment overrides = .ok settings) {text : String}
    (inForce : InForce environment overrides .logLevel (.string text)) :
    settings.logLevel = Text.upper text := by
  rcases (load_eq_ok_iff.mp loaded).logLevel with ⟨value, alsoInForce, meant⟩
  have same : value = .string text := alsoInForce.eq.trans inForce.eq.symm
  generalize settings.logLevel = level at meant ⊢
  cases meant with
  | text known => rw [Json.string.inj same]

/-- A level that the settings refuse as unknown reads like no name of a level. -/
theorem not_mem_levelNames_of_load {setting : Setting} {text : String}
    (refused : load environment overrides = .error ⟨setting, .unknownLevel text⟩) :
    Text.upper text ∉ levelNames.map Prod.fst := by
  rcases load_eq_error_iff.mp refused with ⟨-, value, -, refused⟩
  cases refused with
  | unknownLevel unknown => exact unknown

end Load

/-- The level of settings that are loaded is the name of a level, however it was spelled where it
was given. Whatever the state of logging is, to configure it with this name, or with the spelling
that was given, sets the family and its handler to the level of that name. No warning is set for
lack of a known word. A level that is refused as unknown would be refused when logging is
configured as well, with nothing changed, or else set a warning for lack of a known word. -/
theorem logLevel_agrees (environment : String → Option String) (overrides : List (String × Json)) :
    (∀ settings, load environment overrides = .ok settings →
      ∃ level, levelNamed? settings.logLevel = some level ∧
        (∀ state, (configuring (.word settings.logLevel)).run.run state =
          (.ok (), ⟨level, [level], state.inUse⟩)) ∧
        ¬ FallsBack settings.logLevel ∧
        (level = warningLevel → settings.logLevel = "WARNING" ∨ settings.logLevel = "WARN") ∧
        ∀ text, InForce environment overrides .logLevel (.string text) →
          settings.logLevel = Text.upper text ∧
            ∀ state, (configuring (.word text)).run.run state =
              (configuring (.word settings.logLevel)).run.run state) ∧
      ∀ setting text, load environment overrides = .error ⟨setting, .unknownLevel text⟩ →
        ∀ state,
          (FallsBack text ∧ (configuring (.word text)).run.run state =
            (.ok (), ⟨warningLevel, [warningLevel], state.inUse⟩)) ∨
          ∃ refusal, (configuring (.word text)).run.run state = (.error refusal, state) := by
  constructor
  · intro settings loaded
    rcases exists_levelNamed? loaded with ⟨level, named⟩
    have upper := upper_logLevel loaded
    have resolved : (LevelRequest.word settings.logLevel).resolve = .ok level :=
      resolve_of_levelNamed? (upper.symm ▸ named)
    refine ⟨level, named, ?_, ?_, ?_, ?_⟩
    · intro state
      rw [run_configuring, resolved]
    · rw [FallsBack, lookup_of_levelNamed? (upper.symm ▸ named)]
      exact Option.some_ne_none _
    · intro warning
      exact warning_of_mem_levelNames (_, level) (mem_levelNames named) warning
    · intro text inForce
      have spelled := logLevel_eq_upper loaded inForce
      refine ⟨spelled, ?_⟩
      intro state
      rw [run_configuring, run_configuring, resolved, resolve_of_levelNamed? (spelled ▸ named)]
  · intro setting text refused state
    rw [run_configuring]
    apply (fallsBack_or_refused (not_mem_levelNames_of_load refused)).imp
    · rintro ⟨fallsBack, resolved⟩
      rw [resolved]
      exact ⟨fallsBack, rfl⟩
    · rintro ⟨refusal, resolved⟩
      rw [resolved]
      exact ⟨refusal, rfl⟩

/-- An environment with a level that is spelled with a letter beyond ASCII. -/
def dotlessEnvironment : String → Option String
  | "LOG_LEVEL" => some "ınfo"
  | _ => none

/-- The level of this environment is loaded. Of two overrides that are not, the loggers refuse the
first one and do not know the second one. -/
theorem logLevel_agrees_dotless :
    (load dotlessEnvironment [] =
        .ok ⟨Registry.defaultLanguages, Registry.defaultAliases, "INFO"⟩ ∧
      InForce dotlessEnvironment [] .logLevel (.string "ınfo") ∧
      ∃ level, levelNamed? "INFO" = some level ∧
        (configuring (.word "ınfo")).run.run initial = (.ok (), ⟨level, [level], []⟩)) ∧
    (load dotlessEnvironment [("log_level", .string "basic_format")] =
        .error ⟨.logLevel, .unknownLevel "basic_format"⟩ ∧
      ¬ FallsBack "basic_format" ∧
      ∃ refusal, (configuring (.word "basic_format")).run.run initial = (.error refusal, initial)) ∧
    load dotlessEnvironment [("log_level", .string "loud")] =
        .error ⟨.logLevel, .unknownLevel "loud"⟩ ∧
      FallsBack "loud" ∧
      (configuring (.word "loud")).run.run initial = (.ok (), ⟨30, [30], []⟩) := by
  have loaded : load dotlessEnvironment [] =
      .ok ⟨Registry.defaultLanguages, Registry.defaultAliases, "INFO"⟩ := by
    decide +kernel
  have inForce : InForce dotlessEnvironment [] .logLevel (.string "ınfo") :=
    .fromEnvironment nofun rfl (by decide)
  have refused : load dotlessEnvironment [("log_level", .string "basic_format")] =
      .error ⟨.logLevel, .unknownLevel "basic_format"⟩ := by
    decide +kernel
  have unknown : load dotlessEnvironment [("log_level", .string "loud")] =
      .error ⟨.logLevel, .unknownLevel "loud"⟩ := by
    decide +kernel
  have knownWord : ¬ FallsBack "basic_format" := by
    rw [FallsBack]
    decide +kernel
  have unknownWord : FallsBack "loud" := by
    rw [FallsBack]
    decide +kernel
  have resolved : (LevelRequest.word "loud").resolve = .ok warningLevel := by
    rw [LevelRequest.resolve, unknownWord, Option.getD_none]
  rcases (logLevel_agrees dotlessEnvironment []).1 _ loaded with ⟨level, named, set, -, -, spelled⟩
  refine ⟨⟨loaded, inForce, level, named, ?_⟩, ⟨refused, knownWord, ?_⟩, unknown, ?_⟩
  · rw [(spelled "ınfo" inForce).2, set]
    rfl
  · apply ((logLevel_agrees _ _).2 _ _ refused initial).resolve_left
    exact fun fallsBack => knownWord fallsBack.1
  · apply ((logLevel_agrees _ _).2 _ _ unknown initial).resolve_right
    rintro ⟨refusal, other⟩
    rw [run_configuring, resolved] at other
    cases other

end DocHighlight.Settings
