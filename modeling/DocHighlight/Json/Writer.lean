import DocHighlight.Json.Value
import DocHighlight.Number.Layout
import DocHighlight.Text.Quoted

/-!
# JSON text out

The compact text of a JSON value: no white space, members in order, and in strings only what must be
escaped is escaped. A floating-point number that is no number or not finite is written as `null`.
-/

namespace DocHighlight.Json

/-- Floating-point numbers are written without an exponent from `10 ^ (-5)` up to `10 ^ 16`; an
exponent has its sign always, and no zeros in front. -/
def outputLayout : NumberLayout where
  leastPositional := -5
  greatestPositional := 15
  exponentDigits := 1
  nan := "null"
  infinity := "null"
  negativeInfinity := "null"

/-- A character as it stands in a string: the quote, the backslash and the controls below the space
are escaped, the five common ones by a letter, the others by their number. -/
def escapeChar (c : Char) : List Char :=
  if c = '"' || c = '\\' then ['\\', c]
  else if c = '\x08' then ['\\', 'b']
  else if c = '\t' then ['\\', 't']
  else if c = '\n' then ['\\', 'n']
  else if c = '\x0c' then ['\\', 'f']
  else if c = '\r' then ['\\', 'r']
  else if c.toNat < 0x20 then '\\' :: 'u' :: Text.Quoted.hexDigits 4 c.toNat
  else [c]

/-- A string between its quotes. -/
def writeString (text : String) : List Char :=
  '"' :: text.toList.flatMap escapeChar ++ ['"']

mutual
/-- The compact text of a value. -/
def write : Json → List Char
  | .null => ['n', 'u', 'l', 'l']
  | .bool true => ['t', 'r', 'u', 'e']
  | .bool false => ['f', 'a', 'l', 's', 'e']
  | .integer value => NumberLayout.integer value
  | .float value => outputLayout.float value
  | .string text => writeString text
  | .array [] => ['[', ']']
  | .array (first :: others) => '[' :: (write first ++ writeElements others)
  | .object [] => ['\x7b', '\x7d']
  | .object ((key, value) :: others) =>
      '\x7b' :: (writeString key ++ ':' :: (write value ++ writeMembers others))

/-- The elements of an array after its first, and the bracket that closes it. -/
def writeElements : List Json → List Char
  | [] => [']']
  | element :: others => ',' :: (write element ++ writeElements others)

/-- The members of an object after its first, and the brace that closes it. -/
def writeMembers : List (String × Json) → List Char
  | [] => ['\x7d']
  | (key, value) :: others =>
      ',' :: (writeString key ++ ':' :: (write value ++ writeMembers others))
end

def render (value : Json) : String :=
  String.ofList value.write

end DocHighlight.Json
