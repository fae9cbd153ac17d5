import DocHighlight.Command.Arguments
import DocHighlight.Diagnostics.Logger
import DocHighlight.Filter
import DocHighlight.Settings
import DocHighlight.Text.Plain

/-!
# Running the command

The command loads its settings, sets up diagnostics, makes the registry, and then either lists the
languages or filters what it reads. Whatever goes wrong is reported on standard error, where the
diagnostics go too, so that standard output holds the result and nothing else. Reports and the list
of languages are written as plain text; diagnostics and documents are written as they are.
-/

namespace DocHighlight.Command

/-- What a run leaves behind. -/
structure Outcome where
  exit : Nat
  output : List UInt8
  errors : String

/-- The lines for events, as far as the level in force lets them through. -/
def diagnostics (state : Diagnostics.LogState) (events : List Event) : String :=
  String.join (events.map fun event => state.write event.logger event.level event.message)

/-- A report of what went wrong, in plain text. -/
def reportLines (report : String) : String :=
  String.ofList (Text.plain ("Error: " ++ report ++ "\n").toList)

/-- A run that fails: the diagnostics so far, and a report. -/
def failed (diagnostics report : String) : Outcome :=
  ⟨1, [], diagnostics ++ reportLines report⟩

/-- The settings that a request overrides. -/
def Request.overrides (request : Request) : List (String × Json) :=
  let override (setting : Setting) (value : Option String) : String × Json :=
    (setting.name, match value with
      | some text => .string text
      | none => .null)
  [override .languages request.languages, override .logLevel request.logLevel]

/-- Diagnostics as the settings ask for them. -/
def logState (settings : Settings) : Diagnostics.LogState :=
  match Diagnostics.LogState.initial.configure (.word settings.logLevel) with
  | .ok state => state
  | .error _ => .initial

/-- The languages, one per line, in plain text. -/
def languageLines (registry : Registry) : List UInt8 :=
  Text.Utf8.encode
    (Text.plain (registry.languages.flatMap fun language => language.toList ++ ['\n']))

/-- Does what is asked for, with a registry. -/
def serve (request : Request) (input : List UInt8) (log : List Event → String)
    (registry : Registry) (events : List Event) : Outcome :=
  if request.listLanguages then ⟨0, languageLines registry, log events⟩
  else
    let filtered := (filter registry.highlighter request.format (.bytes input)).run
    match filtered.value with
    | .error problem =>
        failed (log (events ++ filtered.events)) ("Malformed input\n  " ++ problem.message)
    | .ok document => ⟨0, document.encode, log (events ++ filtered.events)⟩

/-- Runs a request in an environment on an input. As for `Settings.load`, all variables of the
environment are texts; the input is any bytes. -/
def Request.run (environment : String → Option String) (input : List UInt8) (request : Request) :
    Outcome :=
  match Settings.load environment request.overrides with
  | .error problem => failed "" problem.message
  | .ok settings =>
      let log := diagnostics (logState settings)
      let registered :=
        (Registry.ofNames Markup.lexerNamed? settings.languages settings.aliases).run
      match registered.value with
      | .error problem => failed (log registered.events) problem.message
      | .ok registry => serve request input log registry registered.events

end DocHighlight.Command
