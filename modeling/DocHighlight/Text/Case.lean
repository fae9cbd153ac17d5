import DocHighlight.Text.CaseTable

/-!
# Upper and lower case

The full case mappings of Unicode, character by character, without regard to the neighbours of a
character: the sharp s becomes `SS`, the dotless i becomes `I`, and the kelvin sign becomes `k`.
-/

namespace DocHighlight.Text

/-- The distance by which a code point changes case; zero if no run holds it. The runs come in
increasing order, so the search ends at the first run beyond the code point. -/
def CaseRun.shiftOf : List CaseRun → Nat → Int
  | [], _ => 0
  | run :: others, code =>
      if code < run.first then 0
      else if code ≤ run.last && (code - run.first) % run.step == 0 then run.shift
      else shiftOf others code

/-- The other case of a character: its expansion if it has one, else its neighbour in the runs, else
itself. -/
def changeCase (expansions : List (Nat × List Nat)) (runs : List CaseRun) (c : Char) : List Char :=
  match expansions.lookup c.toNat with
  | some codes => codes.map Char.ofNat
  | none => [Char.ofNat (c.toNat + CaseRun.shiftOf runs c.toNat).toNat]

def upperChar (c : Char) : List Char :=
  changeCase upperExpansions upperRuns c

def lowerChar (c : Char) : List Char :=
  changeCase lowerExpansions lowerRuns c

def upper (text : String) : String :=
  String.ofList (text.toList.flatMap upperChar)

/-- The text in lower case. A capital sigma becomes `σ` wherever it stands, also at the end of a
word, where `ς` is due. Only names of lexers are looked up in lower case, and no name in the
catalogue holds either letter: the look-up fails whichever of the two stands there. -/
def lower (text : String) : String :=
  String.ofList (text.toList.flatMap lowerChar)

end DocHighlight.Text
