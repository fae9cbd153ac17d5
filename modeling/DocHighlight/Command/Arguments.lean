/-!
# Arguments of the command

The command takes an optional format, options with a value, and flags, in any order. A value follows
its option as the next argument or after an equals sign; of an option that is given again the last
value counts. Two hyphens end the options. Asking for help is answered before the number of
arguments is looked at, but after the options were understood.
-/

namespace DocHighlight.Command

/-- What the command is asked to do. -/
structure Request where
  format : String
  languages : Option String
  logLevel : Option String
  listLanguages : Bool
deriving DecidableEq, Repr

/-- Arguments as far as they are read. -/
structure Arguments where
  languages : Option String
  logLevel : Option String
  listLanguages : Bool
  help : Bool
  positional : List String
deriving DecidableEq, Repr

/-- What arguments come to. -/
inductive Invocation where
  | misused
  | help
  | request (request : Request)
deriving DecidableEq, Repr

inductive CommandOption where
  | languages
  | logLevel
  | listLanguages
  | help
deriving DecidableEq, Repr

/-- The option with a given name. Names are not shortened. -/
def CommandOption.named? : String → Option CommandOption
  | "--languages" => some .languages
  | "--log-level" => some .logLevel
  | "--list-languages" => some .listLanguages
  | "--help" => some .help
  | _ => none

namespace Arguments

def none : Arguments :=
  ⟨.none, .none, false, false, []⟩

def addPositional (arguments : Arguments) (argument : String) : Arguments :=
  { arguments with positional := arguments.positional ++ [argument] }

/-- Whether an argument is an option: it starts with a hyphen and is more than that. -/
def isOption : List Char → Bool
  | '-' :: _ :: _ => true
  | _ => false

/-- The name of an option and the value after its equals sign, if there is one. -/
def splitOption (argument : List Char) : String × Option String :=
  (String.ofList (argument.takeWhile (· != '=')),
    match argument.dropWhile (· != '=') with
    | [] => .none
    | _ :: value => some (String.ofList value))

/-- Reads arguments in order; fails if an option is unknown, lacks its value, or takes none. -/
def read? (arguments : Arguments) : List String → Option Arguments
  | [] => some arguments
  | argument :: rest =>
      if argument = "--" then some { arguments with positional := arguments.positional ++ rest }
      else if !isOption argument.toList then (arguments.addPositional argument).read? rest
      else
        match splitOption argument.toList with
        | (name, value?) =>
            match CommandOption.named? name, value?, rest with
            | some .languages, some value, rest =>
                { arguments with languages := some value }.read? rest
            | some .languages, .none, value :: rest =>
                { arguments with languages := some value }.read? rest
            | some .logLevel, some value, rest =>
                { arguments with logLevel := some value }.read? rest
            | some .logLevel, .none, value :: rest =>
                { arguments with logLevel := some value }.read? rest
            | some .listLanguages, .none, rest =>
                { arguments with listLanguages := true }.read? rest
            | some .help, .none, rest => { arguments with help := true }.read? rest
            | _, _, _ => .none

end Arguments

def Invocation.ofArguments (arguments : List String) : Invocation :=
  match Arguments.none.read? arguments with
  | none => .misused
  | some read =>
      if read.help then .help
      else
        match read.positional with
        | [] => .request ⟨"", read.languages, read.logLevel, read.listLanguages⟩
        | [format] => .request ⟨format, read.languages, read.logLevel, read.listLanguages⟩
        | _ => .misused

end DocHighlight.Command
