import DocHighlight.Diagnostics.Family
import DocHighlight.Diagnostics.Level
import DocHighlight.Json.Literal
import DocHighlight.Text.Case

/-!
# The state of logging

The family of loggers has a level and handlers, each with a level of its own. Configuring sets the
level and leaves exactly one handler, of the same level. A record is written to standard error if it
reaches the level in force; without a handler only the bare message of a warning, or of something
more urgent, is written, and so it is for loggers outside the family. A logger is in use once a
record has come to it.
-/

namespace DocHighlight.Diagnostics

/-- A level as it is asked for: a number, or a word. -/
inductive LevelRequest where
  | number (level : Int)
  | word (text : String)

/-- A word that is known, but names no level: the basic format of a line, or the table of the styles
of formats. -/
inductive NotALevel where
  | basicFormat
  | styles
deriving DecidableEq, Repr

namespace NotALevel

/-- What stands behind the word, as it is shown. -/
def meaning : NotALevel → String
  | .basicFormat => "%(levelname)s:%(name)s:%(message)s"
  | .styles =>
      "\x7b'%': (<class 'logging.PercentStyle'>, '%(levelname)s:%(name)s:%(message)s'), " ++
        "'\x7b': (<class 'logging.StrFormatStyle'>, " ++
        "'\x7blevelname\x7d:\x7bname\x7d:\x7bmessage\x7d'), " ++
        "'$': (<class 'logging.StringTemplateStyle'>, " ++
        "'$\x7blevelname\x7d:$\x7bname\x7d:$\x7bmessage\x7d')\x7d"

def message (refusal : NotALevel) : String :=
  match refusal with
  | .basicFormat => "Unknown level: '" ++ refusal.meaning ++ "'"
  | .styles => "Level not an integer or a valid string: " ++ refusal.meaning

end NotALevel

/-- What a value asks for: an integer or a truth value is a number, all else the word that shows it.
-/
def LevelRequest.ofJson : Json → LevelRequest
  | .integer level => .number level
  | .bool true => .number 1
  | .bool false => .number 0
  | value => .word value.shown

/-- The words that a level can be asked for with, in capitals, and what stands behind each. -/
def words : List (String × Except NotALevel Int) :=
  [("CRITICAL", .ok 50), ("FATAL", .ok 50), ("ERROR", .ok 40), ("WARNING", .ok 30),
   ("WARN", .ok 30), ("INFO", .ok 20), ("DEBUG", .ok 10), ("NOTSET", .ok 0),
   ("BASIC_FORMAT", .error .basicFormat), ("_STYLES", .error .styles)]

/-- The level that is asked for. Words are taken in any case; an unknown one stands for a warning.
-/
def LevelRequest.resolve : LevelRequest → Except NotALevel Int
  | .number level => .ok level
  | .word text => (words.lookup (Text.upper text)).getD (.ok warningLevel)

/-- The state of the family: its level, zero if it has none of its own, and the levels of its
handlers; and the names of the loggers that are in use. -/
structure LogState where
  level : Int
  handlers : List Int
  inUse : List String
deriving DecidableEq, Repr

namespace LogState

def initial : LogState :=
  ⟨0, [], []⟩

def setLevel (state : LogState) (level : Int) : LogState :=
  { state with level }

def clearHandlers (state : LogState) : LogState :=
  { state with handlers := [] }

def addHandler (state : LogState) (level : Int) : LogState :=
  { state with handlers := state.handlers ++ [level] }

/-- The steps in which the family is configured. The level that is asked for is looked at twice, for
the family and for its handler. A step that is refused is the last one, and what was done before it
is not taken back. -/
def configuring (request : LevelRequest) : ExceptT NotALevel (StateM LogState) Unit := do
  let level ← request.resolve
  modify fun state => state.setLevel level
  modify clearHandlers
  let handlerLevel ← request.resolve
  modify fun state => state.addHandler handlerLevel

/-- The state once the family is configured, unless the request is refused. -/
def configure (state : LogState) (request : LevelRequest) : Except NotALevel LogState :=
  match (configuring request).run.run state with
  | (.ok (), configured) => .ok configured
  | (.error refusal, _) => .error refusal

/-- The least level of the records that the family passes on: its own, or a warning if it has none.
-/
def effectiveLevel (state : LogState) : Int :=
  if state.level = 0 then warningLevel else state.level

end LogState

/-- The line that a handler of the family writes. -/
def formattedLine (level : Int) (message : String) : String :=
  levelLabel level ++ ": " ++ message ++ "\n"

/-- What is written where nobody handles a record. -/
def lastResort (level : Int) (message : String) : String :=
  if warningLevel ≤ level then message ++ "\n" else ""

/-- What is written to standard error for a record. A level that is not positive is never written.
-/
def LogState.write (state : LogState) (logger : String) (level : Int) (message : String) : String :=
  if level ≤ 0 then ""
  else if !isFamily state.inUse logger then lastResort level message
  else if level < state.effectiveLevel then ""
  else if state.handlers.isEmpty then lastResort level message
  else
    String.join ((state.handlers.filter fun handler => handler ≤ level).map fun _ =>
      formattedLine level message)

/-- Takes a logger into use. -/
def LogState.use (state : LogState) (logger : String) : LogState :=
  if state.inUse.contains logger then state else { state with inUse := logger :: state.inUse }

/-- What a record does: the state after it, and what is written. -/
def LogState.log (state : LogState) (logger : String) (level : Int) (message : String) :
    LogState × String :=
  (state.use logger, state.write logger level message)

end DocHighlight.Diagnostics
