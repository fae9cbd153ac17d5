import DocHighlight.Command.Run

/-!
# The program

Reads its arguments, the environment and standard input, runs the command, and writes what it leaves
behind.
-/

namespace DocHighlight.Command

def usage : String :=
  "Usage: fencelight [FORMAT] [--languages TEXT] [--log-level TEXT] [--list-languages] [--help]\n"

/-- What the variables of the command start with. -/
def variableStem : String :=
  "FENCELIGHT_"

/-- The variables of the environment that the settings come from. -/
def readEnvironment : IO (String → Option String) := do
  let names := [Setting.languages, .aliases, .logLevel].map Setting.environmentName
  let found ← names.filterMapM fun name => do
    return (← IO.getEnv (variableStem ++ name)).map (name, ·)
  return fun name => found.lookup name

/-- Runs the command for real. -/
def perform (arguments : List String) : IO UInt32 := do
  match Invocation.ofArguments arguments with
  | .help =>
      (← IO.getStdout).putStr usage
      return 0
  | .misused =>
      (← IO.getStderr).putStr usage
      return 2
  | .request request =>
      let environment ← readEnvironment
      let input ←
        if request.listLanguages then pure ByteArray.empty else (← IO.getStdin).readBinToEnd
      let outcome := request.run environment input.toList
      let output ← IO.getStdout
      output.write ⟨outcome.output.toArray⟩
      output.flush
      (← IO.getStderr).putStr outcome.errors
      return outcome.exit.toUInt32

end DocHighlight.Command

def main (arguments : List String) : IO UInt32 :=
  DocHighlight.Command.perform arguments
