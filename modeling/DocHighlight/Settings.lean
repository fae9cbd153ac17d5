import DocHighlight.Diagnostics.Level
import DocHighlight.Json.Value
import DocHighlight.Registry
import DocHighlight.Text.Blank

/-!
# Settings

Which languages are registered, which aliases are in force, and which level of diagnostics is
written. Each setting comes from an override if there is one, else from the environment if it is set
there to something, else from its default. A text stands for a list of entries separated by commas;
an entry of the aliases is a pair with an equals sign between its parts.
-/

namespace DocHighlight

structure Settings where
  languages : List String
  aliases : List (String × String)
  logLevel : String
deriving DecidableEq, Repr

/-- One of the settings. -/
inductive Setting where
  | languages
  | aliases
  | logLevel
deriving DecidableEq, Repr

namespace Setting

def name : Setting → String
  | .languages => "languages"
  | .aliases => "aliases"
  | .logLevel => "log_level"

/-- The name of a setting in the environment, without what all names there start with. -/
def environmentName : Setting → String
  | .languages => "LANGUAGES"
  | .aliases => "ALIASES"
  | .logLevel => "LOG_LEVEL"

end Setting

/-- What is wrong with the value of a setting. -/
inductive SettingFault where
  | notList
  | notDictionary
  | notText
  | notPairs (given : String)
  | unknownLevel (given : String)
deriving DecidableEq, Repr

def SettingFault.message : SettingFault → String
  | .notList => "Input should be a valid list"
  | .notDictionary => "Input should be a valid dictionary"
  | .notText => "Input should be a valid string"
  | .notPairs given => "Value error, expected id=lexer pairs, got '" ++ given ++ "'"
  | .unknownLevel given => "Value error, unknown log level '" ++ given ++ "'"

/-- A setting that has no valid value. -/
structure InvalidSetting where
  setting : Setting
  fault : SettingFault
deriving DecidableEq, Repr

def InvalidSetting.message (problem : InvalidSetting) : String :=
  "Invalid configuration: " ++ problem.setting.name ++ ": " ++ problem.fault.message

namespace Settings

/-- The level of diagnostics that is written unless another one is given. -/
def defaultLogLevel : String :=
  "WARNING"

def splitLanguages (text : String) : List String :=
  (Text.entries text.toList).map String.ofList

/-- The parts of an entry before and after its first equals sign. -/
def splitPair? : List Char → Option (List Char × List Char)
  | [] => none
  | c :: rest =>
      if c = '=' then some ([], rest)
      else (splitPair? rest).map fun (key, value) => (c :: key, value)

/-- The pairs in a list of entries, if all of them are pairs. -/
def pairs? : List (List Char) → Option (List (String × String))
  | [] => some []
  | entry :: others =>
      match splitPair? entry, pairs? others with
      | some (key, value), some more => some ((String.ofList key, String.ofList value) :: more)
      | _, _ => none

/-- The aliases in a text. A key that comes again keeps its place and takes the last value. -/
def splitAliases (text : String) : Except SettingFault (List (String × String)) :=
  match pairs? (Text.entries text.toList) with
  | some pairs => .ok (Keyed.ofPairs pairs)
  | none => .error (.notPairs text)

def readText : Json → Except SettingFault String
  | .string text => .ok text
  | _ => .error .notText

def readLanguages : Json → Except SettingFault (List String)
  | .string text => .ok (splitLanguages text)
  | .array elements => elements.mapM readText
  | _ => .error .notList

def readAliases : Json → Except SettingFault (List (String × String))
  | .string text => splitAliases text
  | .object members => members.mapM fun (key, value) => (readText value).map fun text => (key, text)
  | _ => .error .notDictionary

/-- The level that a value stands for, in capitals. -/
def readLogLevel : Json → Except SettingFault String
  | .string text =>
      let name := Text.upper text
      if (Diagnostics.levelNamed? name).isSome then .ok name else .error (.unknownLevel text)
  | _ => .error .notText

/-- The value that is given for a setting: an override that is not null, else a variable of the
environment that is not empty. -/
def given? (environment : String → Option String) (overrides : List (String × Json))
    (setting : Setting) : Option Json :=
  match Keyed.get? overrides setting.name with
  | some .null | none =>
      match environment setting.environmentName with
      | some "" | none => none
      | some text => some (.string text)
  | some value => some value

/-- The value of a setting: what is given, read, or the default. -/
def settle {α : Type} (environment : String → Option String) (overrides : List (String × Json))
    (setting : Setting) (read : Json → Except SettingFault α) (default : α) :
    Except InvalidSetting α :=
  match given? environment overrides setting with
  | none => .ok default
  | some value => (read value).mapError fun fault => ⟨setting, fault⟩

/-- The settings that are in force; the first one without a valid value makes the whole fail. The
environment holds texts: a variable whose bytes are not those of a text is outside the model. -/
def load (environment : String → Option String) (overrides : List (String × Json)) :
    Except InvalidSetting Settings := do
  let languages ← settle environment overrides .languages readLanguages Registry.defaultLanguages
  let aliases ← settle environment overrides .aliases readAliases Registry.defaultAliases
  let logLevel ← settle environment overrides .logLevel readLogLevel defaultLogLevel
  return { languages, aliases, logLevel }

end Settings

end DocHighlight
