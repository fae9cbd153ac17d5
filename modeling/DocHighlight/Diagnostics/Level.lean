/-!
# Levels of diagnostics

A level is an integer; the higher, the more urgent. Some levels have names, two of them more than
one.
-/

namespace DocHighlight.Diagnostics

def debugLevel : Int :=
  10

/-- The level of what is written unless another level is asked for. -/
def warningLevel : Int :=
  30

/-- The names of levels, with the preferred name of a level before its others. -/
def levelNames : List (String × Int) :=
  [("CRITICAL", 50), ("FATAL", 50), ("ERROR", 40), ("WARNING", 30), ("WARN", 30), ("INFO", 20),
   ("DEBUG", 10), ("NOTSET", 0)]

def levelNamed? (name : String) : Option Int :=
  levelNames.lookup name

/-- How a level is shown: by its preferred name, or by its number. -/
def levelLabel (level : Int) : String :=
  match levelNames.find? fun entry => entry.2 = level with
  | some (name, _) => name
  | none => "Level " ++ toString level

end DocHighlight.Diagnostics
