/-!
# The family of loggers

A logger is named by words with dots between them, and it stands below the nearest logger in use
whose name comes in front of one of its dots. The dots are gone through from the last one to the
first; of two dots side by side the left one is passed over, so a name with an empty word need not
stand below the name in front of that word. The loggers of the program are one family: the logger
that has the family's name, and all loggers below it.

Names are gone through from their ends, as reversed lists of characters.
-/

namespace DocHighlight.Diagnostics

def familyName : String :=
  "fencelight"

/-- Whether the way up from the logger with a reversed name leads to the family, given the names of
the loggers that are in use beside the family's own. -/
def leadsToFamily (inUse : List String) : List Char → Bool
  | [] => false
  | '.' :: c :: rest =>
      let above := String.ofList (c :: rest).reverse
      if above = familyName then true
      else if inUse.contains above then leadsToFamily inUse (c :: rest)
      else leadsToFamily inUse rest
  | _ :: rest => leadsToFamily inUse rest

/-- Whether a logger belongs to the family. -/
def isFamily (inUse : List String) (logger : String) : Bool :=
  logger = familyName || leadsToFamily inUse logger.toList.reverse

end DocHighlight.Diagnostics
