import DocHighlight.Text.Category

/-!
# Plain text

Text without the sequences by which a terminal is told about colours, places and modes. Such a
sequence is an escape character, an opening bracket, parameters, and one letter. Whatever is no
whole sequence stays as it is, and what a removal brings together is not looked at again. A text
without escape characters is plain already.
-/

namespace DocHighlight.Text

/-- The character that starts a sequence. -/
def escapeCharacter : Char :=
  '\x1b'

def isParameter (c : Char) : Bool :=
  c = ';' || c = '?' || isAsciiDigit c

/-- What comes after a sequence, given what comes after its bracket; nothing if no letter ends the
parameters. -/
def afterSequence? : List Char → Option (List Char)
  | [] => none
  | c :: rest =>
      if isParameter c then afterSequence? rest
      else if isAsciiLetter c then some rest
      else none

/-- A sequence takes at least its letter. -/
theorem length_afterSequence? {text after : List Char} (found : afterSequence? text = some after) :
    after.length < text.length := by
  induction text with
  | nil => cases found
  | cons c rest ih =>
      simp only [afterSequence?] at found
      split at found
      · exact Nat.lt_succ_of_lt (ih found)
      · split at found
        · cases found
          exact Nat.lt_succ_self _
        · cases found

/-- The text without its sequences. -/
def plain : List Char → List Char
  | [] => []
  | [c] => [c]
  | c :: bracket :: rest =>
      if c = escapeCharacter ∧ bracket = '[' then
        match found : afterSequence? rest with
        | some after =>
            have _shorter := length_afterSequence? found
            plain after
        | none => c :: plain (bracket :: rest)
      else c :: plain (bracket :: rest)
termination_by text => text.length
decreasing_by
  all_goals
    simp only [List.length_cons]
    omega

end DocHighlight.Text
