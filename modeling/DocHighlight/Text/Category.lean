import DocHighlight.Text.Letter
import DocHighlight.Text.Numeral
import DocHighlight.Text.Mark
import DocHighlight.Text.Unprintable

/-!
# Character classes

Membership of a character in the classes that scanning and quoting ask for: letters, digits, word
characters, the characters of identifiers, and the characters that are shown as they are.
-/

namespace DocHighlight.Text

/-- Membership of a code point in an increasing list of ranges; the search ends at the first range
beyond it. -/
def inRanges : List (Nat × Nat) → Nat → Bool
  | [], _ => false
  | (low, high) :: others, code =>
      if code < low then false else code ≤ high || inRanges others code

/-- A letter of any script. -/
def isLetter (c : Char) : Bool :=
  inRanges letterRanges c.toNat

/-- A decimal digit of any script. -/
def isDecimal (c : Char) : Bool :=
  inRanges decimalDigitRanges c.toNat

/-- A numeral of any kind: a decimal digit, a numeral that is a letter, or another one. -/
def isNumeral (c : Char) : Bool :=
  isDecimal c || inRanges letterNumeralRanges c.toNat || inRanges otherNumeralRanges c.toNat

/-- A character of a word: a letter, a numeral or the low line. -/
def isWord (c : Char) : Bool :=
  isLetter c || isNumeral c || c == '_'

/-- A character that an identifier of a script may start with, escapes apart. -/
def isIdentifierStart (c : Char) : Bool :=
  isLetter c || inRanges letterNumeralRanges c.toNat || c == '$' || c == '_'

/-- A character that an identifier of a script may go on with, escapes apart: also marks, decimal
digits, connecting punctuation and the two zero-width joining characters. -/
def isIdentifierPart (c : Char) : Bool :=
  isIdentifierStart c || inRanges markRanges c.toNat || isDecimal c ||
    inRanges connectorRanges c.toNat || c == '\u200c' || c == '\u200d'

/-- A character that a quoted text shows as it is. -/
def isPrintable (c : Char) : Bool :=
  !inRanges unprintableRanges c.toNat

def isAsciiDigit (c : Char) : Bool :=
  '0' ≤ c && c ≤ '9'

def isAsciiLetter (c : Char) : Bool :=
  ('a' ≤ c && c ≤ 'z') || ('A' ≤ c && c ≤ 'Z')

def isHexDigit (c : Char) : Bool :=
  isAsciiDigit c || ('a' ≤ c && c ≤ 'f') || ('A' ≤ c && c ≤ 'F')

end DocHighlight.Text
