import DocHighlight.Command.Run
import DocHighlight.Proofs.Document.Highlighting
import DocHighlight.Proofs.Registry
import DocHighlight.Proofs.Settings.Levels
import DocHighlight.Proofs.Text.Plain

/-!
# What a run of the command leaves behind

A run fails if its settings, its registry or its input are refused, and then writes no output.
Otherwise its output is the list of languages or the filtered document. Everything a run reports on
its way is kept apart from this, so neither the level of diagnostics nor the format has any
influence on it.

Languages are listed as plain text. So a language whose name holds a sequence for terminals is
listed without it, and two languages can look the same.
-/

namespace DocHighlight.Command

open Document

section Settings

variable {environment : String → Option String} {overrides : List (String × Json)}

/-- The level of settings is never refused when the diagnostics are set up. -/
theorem exists_configure {settings : Settings}
    (loaded : Settings.load environment overrides = .ok settings) :
    ∃ state, Diagnostics.LogState.initial.configure (.word settings.logLevel) = .ok state := by
  rcases Settings.exists_levelNamed? loaded with ⟨level, named⟩
  rw [← Settings.upper_logLevel loaded] at named
  rw [Diagnostics.LogState.configure, Diagnostics.run_configuring,
    Settings.resolve_of_levelNamed? named]
  exact ⟨_, rfl⟩

end Settings

/-- The settings and the registry that a request comes to in an environment. -/
structure Request.Prepares (environment : String → Option String) (request : Request)
    (settings : Settings) (registry : Registry) : Prop where
  loaded : Settings.load environment request.overrides = .ok settings
  registered : (Registry.ofNames Markup.lexerNamed? settings.languages settings.aliases).run.value =
    .ok registry

/-- The exit status and the output of a run, by how it goes. -/
inductive Request.Runs (environment : String → Option String) (input : List UInt8)
    (request : Request) : (exit : Nat) → (output : List UInt8) → Prop where
  | misconfigured {problem : InvalidSetting}
      (refused : Settings.load environment request.overrides = .error problem) :
      Runs environment input request 1 []
  | unregistered {settings : Settings} {problem : UnknownLexer}
      (loaded : Settings.load environment request.overrides = .ok settings)
      (refused : (Registry.ofNames Markup.lexerNamed? settings.languages
        settings.aliases).run.value = .error problem) :
      Runs environment input request 1 []
  | listed {settings : Settings} {registry : Registry}
      (prepares : request.Prepares environment settings registry)
      (asked : request.listLanguages = true) :
      Runs environment input request 0 (languageLines registry)
  | malformed {settings : Settings} {registry : Registry} {problem : MalformedInput}
      (prepares : request.Prepares environment settings registry)
      (asked : request.listLanguages = false)
      (refused : decode (.bytes input) = .error problem) :
      Runs environment input request 1 []
  | filtered {settings : Settings} {registry : Registry} {document : Document}
      (prepares : request.Prepares environment settings registry)
      (asked : request.listLanguages = false) (decoded : decode (.bytes input) = .ok document) :
      Runs environment input request 0 (document.highlighted registry.highlighter).encode

section Run

variable {environment : String → Option String} {input : List UInt8} {request : Request}

/-- There is a way for each run to go. -/
theorem Request.exists_runs (environment : String → Option String) (input : List UInt8)
    (request : Request) : ∃ exit output, request.Runs environment input exit output := by
  cases loaded : Settings.load environment request.overrides with
  | error problem => exact ⟨_, _, .misconfigured loaded⟩
  | ok settings =>
      cases made : (Registry.ofNames Markup.lexerNamed? settings.languages
        settings.aliases).run.value with
      | error problem => exact ⟨_, _, .unregistered loaded made⟩
      | ok registry =>
          cases asked : request.listLanguages with
          | true => exact ⟨_, _, .listed ⟨loaded, made⟩ asked⟩
          | false =>
              cases decoded : decode (.bytes input) with
              | error problem => exact ⟨_, _, .malformed ⟨loaded, made⟩ asked decoded⟩
              | ok document => exact ⟨_, _, .filtered ⟨loaded, made⟩ asked decoded⟩

theorem filter_of_refused {highlighter : Highlighter} {problem : MalformedInput} (format : String)
    (refused : decode (.bytes input) = .error problem) :
    (filter highlighter format (.bytes input)).run.value = .error problem := by
  rw [filter, receive, refused]
  rfl

/-- The way a run goes decides what it leaves behind. -/
theorem Request.Runs.run {exit : Nat} {output : List UInt8}
    (runs : request.Runs environment input exit output) :
    (request.run environment input).exit = exit ∧
      (request.run environment input).output = output := by
  cases runs with
  | misconfigured refused => simp [Request.run, refused, failed]
  | unregistered loaded refused => simp [Request.run, loaded, refused, failed]
  | listed prepares asked =>
      simp [Request.run, prepares.loaded, prepares.registered, serve, asked]
  | malformed prepares asked refused =>
      simp [Request.run, prepares.loaded, prepares.registered, serve, asked,
        filter_of_refused _ refused, failed]
  | filtered prepares asked decoded =>
      simp [Request.run, prepares.loaded, prepares.registered, serve, asked,
        filter_of_decode _ decoded]

/-- What makes a run fail. -/
inductive Request.Fails (environment : String → Option String) (input : List UInt8)
    (request : Request) : Prop where
  | settings {problem : InvalidSetting}
      (refused : Settings.load environment request.overrides = .error problem)
  | registry {settings : Settings} {problem : UnknownLexer}
      (loaded : Settings.load environment request.overrides = .ok settings)
      (refused : (Registry.ofNames Markup.lexerNamed? settings.languages
        settings.aliases).run.value = .error problem)
  | input {problem : MalformedInput} (asked : request.listLanguages = false)
      (refused : decode (.bytes input) = .error problem)

/-- What a run writes unless it fails: the registered languages, each once, in increasing order and
on a line of its own; or the filtered document. -/
inductive Request.Answers (environment : String → Option String) (input : List UInt8)
    (request : Request) : (output : List UInt8) → Prop where
  | languages {settings : Settings} {registry : Registry}
      (prepares : request.Prepares environment settings registry)
      (asked : request.listLanguages = true)
      (increasing : registry.languages.Pairwise (· < ·))
      (registered : ∀ language, language ∈ registry.languages ↔ language ∈ settings.languages) :
      Answers environment input request
        (Text.Utf8.encode
          (registry.languages.flatMap fun language => Text.plain language.toList ++ ['\n']))
  | document {settings : Settings} {registry : Registry} {result : Document} {text : List Char}
      (prepares : request.Prepares environment settings registry)
      (asked : request.listLanguages = false)
      (filtered : (filter registry.highlighter request.format (.bytes input)).run.value =
        .ok result)
      (written : result.encodeText? = .ok text) :
      Answers environment input request (Text.Utf8.encode text)

theorem languageLines_eq (registry : Registry) :
    languageLines registry = Text.Utf8.encode
      (registry.languages.flatMap fun language => Text.plain language.toList ++ ['\n']) := by
  have lines := Text.plain_lines (registry.languages.map String.toList)
  rw [List.flatMap_map, List.flatMap_map] at lines
  rw [languageLines, lines]

/-- With a registry only the input is left to fail, and only if it is looked at. -/
theorem Request.Prepares.not_fails {settings : Settings} {registry : Registry}
    (prepares : request.Prepares environment settings registry)
    (served : request.listLanguages = true ∨ ∃ document, decode (.bytes input) = .ok document) :
    ¬ request.Fails environment input := by
  intro fails
  cases fails with
  | settings refused =>
      rw [prepares.loaded] at refused
      cases refused
  | registry loaded refused =>
      rw [prepares.loaded] at loaded
      cases loaded
      rw [prepares.registered] at refused
      cases refused
  | input asked refused =>
      rcases served with listing | ⟨document, decoded⟩
      · rw [asked] at listing
        cases listing
      · rw [refused] at decoded
        cases decoded

theorem Request.Runs.fails_iff {exit : Nat} {output : List UInt8}
    (runs : request.Runs environment input exit output) :
    exit = 1 ↔ request.Fails environment input := by
  cases runs with
  | misconfigured refused => exact iff_of_true rfl (.settings refused)
  | unregistered loaded refused => exact iff_of_true rfl (.registry loaded refused)
  | listed prepares asked => exact iff_of_false (by decide) (prepares.not_fails (.inl asked))
  | malformed prepares asked refused => exact iff_of_true rfl (.input asked refused)
  | filtered prepares asked decoded =>
      exact iff_of_false (by decide) (prepares.not_fails (.inr ⟨_, decoded⟩))

theorem Request.Runs.exit_cases {exit : Nat} {output : List UInt8}
    (runs : request.Runs environment input exit output) : exit = 0 ∨ exit = 1 := by
  cases runs <;> simp

theorem Request.Runs.output_eq_nil {output : List UInt8}
    (runs : request.Runs environment input 1 output) : output = [] := by
  cases runs <;> rfl

theorem Request.Runs.answers {output : List UInt8}
    (runs : request.Runs environment input 0 output) :
    request.Answers environment input output := by
  cases runs with
  | listed prepares asked =>
      rcases Registry.languages_of_ofNames prepares.registered with ⟨increasing, registered⟩
      rw [languageLines_eq]
      exact .languages prepares asked increasing registered
  | filtered prepares asked decoded =>
      exact .document prepares asked (filter_of_decode request.format decoded)
        (encodeText?_highlighted decoded)

end Run

/-- Whether the level of diagnostics that a request comes to is accepted. -/
def Request.AcceptsLevel (environment : String → Option String) (request : Request) : Prop :=
  ∃ level, Settings.settle environment request.overrides .logLevel Settings.readLogLevel
    Settings.defaultLogLevel = .ok level

/-- Requests in environments that differ in nothing but the format and the level of diagnostics,
which is accepted in both. -/
structure SameTask (first second : String → Option String) (one other : Request) : Prop where
  agree : ∀ name, name ≠ Setting.logLevel.environmentName → first name = second name
  languages : one.languages = other.languages
  listLanguages : one.listLanguages = other.listLanguages
  firstAccepted : one.AcceptsLevel first
  secondAccepted : other.AcceptsLevel second

section SameTask

variable {first second : String → Option String} {one other : Request}

theorem SameTask.symm (same : SameTask first second one other) :
    SameTask second first other one where
  agree name notLogLevel := (same.agree name notLogLevel).symm
  languages := same.languages.symm
  listLanguages := same.listLanguages.symm
  firstAccepted := same.secondAccepted
  secondAccepted := same.firstAccepted

theorem given?_eq (same : SameTask first second one other) {setting : Setting}
    (notLogLevel : setting ≠ .logLevel) :
    Settings.given? first one.overrides setting =
      Settings.given? second other.overrides setting := by
  cases setting with
  | logLevel => contradiction
  | languages =>
      have variableSame := same.agree Setting.languages.environmentName (by decide)
      simp [Settings.given?, variableSame, Request.overrides, Keyed.get?, same.languages]
  | aliases =>
      have variableSame := same.agree Setting.aliases.environmentName (by decide)
      simp [Settings.given?, variableSame, Request.overrides, Keyed.get?, Setting.name]

theorem inForce_iff_of_sameTask (same : SameTask first second one other) {setting : Setting}
    (notLogLevel : setting ≠ .logLevel) (value : Json) :
    Settings.InForce first one.overrides setting value ↔
      Settings.InForce second other.overrides setting value := by
  rw [Settings.inForce_iff, Settings.inForce_iff, given?_eq same notLogLevel]

theorem exists_load (same : SameTask first second one other) {settings : Settings}
    (loaded : Settings.load first one.overrides = .ok settings) :
    ∃ logLevel, Settings.load second other.overrides = .ok { settings with logLevel } := by
  rcases same.secondAccepted with ⟨level, accepted⟩
  rcases Settings.load_eq_ok_iff.mp loaded with ⟨languages, aliases, -⟩
  simp only [inForce_iff_of_sameTask same (show Setting.languages ≠ .logLevel by decide)]
    at languages
  simp only [inForce_iff_of_sameTask same (show Setting.aliases ≠ .logLevel by decide)] at aliases
  exact ⟨level, Settings.load_eq_ok_iff.mpr
    ⟨languages, aliases, Settings.reads_logLevel.settle_eq_ok_iff.mp accepted⟩⟩

theorem exists_load_error (same : SameTask first second one other) {problem : InvalidSetting}
    (refused : Settings.load first one.overrides = .error problem) :
    ∃ problem, Settings.load second other.overrides = .error problem := by
  cases loaded : Settings.load second other.overrides with
  | error problem => exact ⟨problem, rfl⟩
  | ok settings =>
      rcases exists_load same.symm loaded with ⟨logLevel, accepted⟩
      rw [refused] at accepted
      cases accepted

/-- The level is of no account for the registry. -/
theorem Request.Prepares.of_sameTask (same : SameTask first second one other)
    {settings : Settings} {registry : Registry} (prepares : one.Prepares first settings registry) :
    ∃ logLevel, other.Prepares second { settings with logLevel } registry := by
  rcases exists_load same prepares.loaded with ⟨logLevel, loaded⟩
  exact ⟨logLevel, loaded, prepares.registered⟩

theorem Request.Runs.of_sameTask (same : SameTask first second one other) {input : List UInt8}
    {exit : Nat} {output : List UInt8} (runs : one.Runs first input exit output) :
    other.Runs second input exit output := by
  cases runs with
  | misconfigured refused =>
      rcases exists_load_error same refused with ⟨problem, refused⟩
      exact .misconfigured refused
  | unregistered loaded refused =>
      rcases exists_load same loaded with ⟨logLevel, loaded⟩
      exact .unregistered loaded refused
  | listed prepares asked =>
      rcases prepares.of_sameTask same with ⟨logLevel, prepares⟩
      exact .listed prepares (same.listLanguages ▸ asked)
  | malformed prepares asked refused =>
      rcases prepares.of_sameTask same with ⟨logLevel, prepares⟩
      exact .malformed prepares (same.listLanguages ▸ asked) refused
  | filtered prepares asked decoded =>
      rcases prepares.of_sameTask same with ⟨logLevel, prepares⟩
      exact .filtered prepares (same.listLanguages ▸ asked) decoded

end SameTask

/-- Languages are listed as they are exactly if all of them are plain text. -/
theorem languageLines_eq_iff (registry : Registry) :
    languageLines registry =
        Text.Utf8.encode (registry.languages.flatMap fun language => language.toList ++ ['\n']) ↔
      ∀ language ∈ registry.languages, Text.plain language.toList = language.toList := by
  have lines := @Text.plain_lines_eq_self_iff (registry.languages.map String.toList)
  simp only [List.flatMap_map, List.forall_mem_map] at lines
  rw [← lines, languageLines]
  constructor
  · intro same
    have decoded := congrArg Text.Utf8.decode same
    rw [Text.Utf8.decode_encode, Text.Utf8.decode_encode] at decoded
    exact Except.ok.inj decoded
  · intro same
    rw [same]

/-- A run fails exactly if its settings, its registry or its input are refused. It then writes
nothing, and otherwise what it is asked for; languages are listed as they are exactly if all of them
are plain text. The level of the settings is always known to the diagnostics. Neither this level nor
the format has any influence on the exit status and the output. -/
theorem run_answers_or_fails (environment : String → Option String) (input : List UInt8)
    (request : Request) :
    ((request.run environment input).exit = 1 ↔ request.Fails environment input) ∧
    ((request.run environment input).exit = 1 → (request.run environment input).output = []) ∧
    ((request.run environment input).exit ≠ 1 → (request.run environment input).exit = 0 ∧
      request.Answers environment input (request.run environment input).output) ∧
    (∀ settings registry, request.Prepares environment settings registry →
      request.listLanguages = true →
        ((request.run environment input).output = Text.Utf8.encode
            (registry.languages.flatMap fun language => language.toList ++ ['\n']) ↔
          ∀ language ∈ registry.languages, Text.plain language.toList = language.toList)) ∧
    (∀ settings, Settings.load environment request.overrides = .ok settings →
      ∃ state, Diagnostics.LogState.initial.configure (.word settings.logLevel) = .ok state) ∧
    ∀ elsewhere other, SameTask environment elsewhere request other →
      (request.run environment input).exit = (other.run elsewhere input).exit ∧
        (request.run environment input).output = (other.run elsewhere input).output := by
  rcases request.exists_runs environment input with ⟨exit, output, runs⟩
  rcases runs.run with ⟨exitEq, outputEq⟩
  refine ⟨?_, ?_, ?_, ?_, ?_, ?_⟩
  · rw [exitEq]
    exact runs.fails_iff
  · rw [exitEq, outputEq]
    rintro rfl
    exact runs.output_eq_nil
  · rw [exitEq, outputEq]
    intro notFailed
    rcases runs.exit_cases with rfl | rfl
    · exact ⟨rfl, runs.answers⟩
    · contradiction
  · intro settings registry prepares asked
    rw [(Request.Runs.listed prepares asked).run.2]
    exact languageLines_eq_iff registry
  · intro settings loaded
    exact exists_configure loaded
  · intro elsewhere other same
    rcases (runs.of_sameTask same).run with ⟨otherExitEq, otherOutputEq⟩
    rw [exitEq, outputEq, otherExitEq, otherOutputEq]
    exact ⟨rfl, rfl⟩

/-- An environment with two languages and a level of diagnostics, if one is given. -/
def shellEnvironment (level : Option String) : String → Option String
  | "LANGUAGES" => some "sh, json"
  | "LOG_LEVEL" => level
  | _ => none

/-- A document with code in one of the languages. -/
def shellDocument : Document :=
  ⟨[1, 23], [], [Node.put (.code ⟨"", ["sh"], []⟩ "ls") .block]⟩

theorem sameTask_shell :
    SameTask (shellEnvironment (some "debug")) (shellEnvironment none) ⟨"html", none, none, false⟩
      ⟨"latex", none, some "Error", false⟩ where
  agree := by
    intro name other
    rw [shellEnvironment.eq_def, shellEnvironment.eq_def]
    split
    · rfl
    · exact absurd rfl other
    · rfl
  languages := rfl
  listLanguages := rfl
  firstAccepted := ⟨"DEBUG", rfl⟩
  secondAccepted := ⟨"ERROR", rfl⟩

/-- The registry of these languages. -/
def loadedRegistry : Registry :=
  ⟨[("sh", ⟨"Bash", ["bash", "ksh", "openrc", "sh", "shell", "zsh"]⟩),
    ("json", ⟨"JSON", ["json", "json-object"]⟩)]⟩

theorem prepares_shell :
    Request.Prepares (shellEnvironment none) ⟨"", none, none, true⟩
      ⟨["sh", "json"], Registry.defaultAliases, "WARNING"⟩ loadedRegistry where
  loaded := rfl
  registered := rfl

/-- A document is filtered at one level of diagnostics as at another, an input that is none is
refused, and languages are listed. -/
theorem run_answers_or_fails_shell :
    (((Request.mk "html" none none false).run (shellEnvironment (some "debug"))
        shellDocument.encode).exit ≠ 1 ∧
      Request.Answers (shellEnvironment (some "debug")) shellDocument.encode
        ⟨"html", none, none, false⟩
        ((Request.mk "html" none none false).run (shellEnvironment (some "debug"))
          shellDocument.encode).output) ∧
    (((Request.mk "html" none none false).run (shellEnvironment none) []).exit = 1 ∧
      ((Request.mk "html" none none false).run (shellEnvironment none) []).output = []) ∧
    (Request.Prepares (shellEnvironment none) ⟨"", none, none, true⟩
        ⟨["sh", "json"], Registry.defaultAliases, "WARNING"⟩ loadedRegistry ∧
      (∃ state, Diagnostics.LogState.initial.configure (.word "WARNING") = .ok state) ∧
      ((Request.mk "" none none true).run (shellEnvironment none) []).output =
        Text.Utf8.encode
          (loadedRegistry.languages.flatMap fun language => language.toList ++ ['\n'])) ∧
    SameTask (shellEnvironment (some "debug")) (shellEnvironment none) ⟨"html", none, none, false⟩
        ⟨"latex", none, some "Error", false⟩ ∧
      ((Request.mk "html" none none false).run (shellEnvironment (some "debug"))
          shellDocument.encode).exit =
        ((Request.mk "latex" none (some "Error") false).run (shellEnvironment none)
          shellDocument.encode).exit ∧
      ((Request.mk "html" none none false).run (shellEnvironment (some "debug"))
          shellDocument.encode).output =
        ((Request.mk "latex" none (some "Error") false).run (shellEnvironment none)
          shellDocument.encode).output := by
  have filtered : ((Request.mk "html" none none false).run (shellEnvironment (some "debug"))
      shellDocument.encode).exit ≠ 1 := by
    decide +kernel
  have refused : ((Request.mk "html" none none false).run (shellEnvironment none) []).exit = 1 := by
    decide +kernel
  have plain : ∀ language ∈ Keyed.keys loadedRegistry.entries,
      Text.plain language.toList = language.toList := by
    decide +kernel
  have runs := run_answers_or_fails
  exact ⟨⟨filtered, ((runs _ _ _).2.2.1 filtered).2⟩, ⟨refused, (runs _ _ _).2.1 refused⟩,
    ⟨prepares_shell, (runs _ [] _).2.2.2.2.1 _ prepares_shell.loaded,
      ((runs _ _ _).2.2.2.1 _ _ prepares_shell rfl).mpr fun language mem =>
        plain language (Registry.mem_languages.mp mem)⟩,
    sameTask_shell, (runs _ _ _).2.2.2.2.2 _ _ sameTask_shell⟩

/-- A language whose name holds a sequence for terminals. -/
def colouredEnvironment : String → Option String
  | "LANGUAGES" => some "a\x1b[0mc"
  | "ALIASES" => some "a\x1b[0mc=json"
  | _ => none

/-- A language is listed without the sequences in its name. -/
theorem sequences_not_listed :
    ∃ settings registry,
      Request.Prepares colouredEnvironment ⟨"", none, none, true⟩ settings registry ∧
        registry.languages = ["a\x1b[0mc"] ∧
        (Request.run colouredEnvironment [] ⟨"", none, none, true⟩).output =
          Text.Utf8.encode "ac\n".toList ∧
        Text.Utf8.encode "ac\n".toList ≠ Text.Utf8.encode
          (registry.languages.flatMap fun language => language.toList ++ ['\n']) := by
  refine ⟨⟨["a\x1b[0mc"], [("a\x1b[0mc", "json")], "WARNING"⟩,
    ⟨[("a\x1b[0mc", ⟨"JSON", ["json", "json-object"]⟩)]⟩, ⟨rfl, rfl⟩, ?_, ?_, ?_⟩
  · decide +kernel
  · decide +kernel
  · decide +kernel

end DocHighlight.Command
