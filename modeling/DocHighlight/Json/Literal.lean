import DocHighlight.Json.Value
import DocHighlight.Number.Layout
import DocHighlight.Text.Quoted

/-!
# JSON values in messages

How a message shows a value that it complains about: `None`, `True` and `False`, numbers with the
fewest digits, strings in quotes, and a blank after each comma and colon.
-/

namespace DocHighlight.Json

/-- Floating-point numbers in messages are written without an exponent from `10 ^ (-4)` up to `10 ^
16`; an exponent has two digits at least. -/
def messageLayout : NumberLayout where
  leastPositional := -4
  greatestPositional := 15
  exponentDigits := 2
  nan := "nan"
  infinity := "inf"
  negativeInfinity := "-inf"

mutual
/-- The text of a value in a message. -/
def literal : Json → List Char
  | .null => "None".toList
  | .bool true => "True".toList
  | .bool false => "False".toList
  | .integer value => NumberLayout.integer value
  | .float value => messageLayout.float value
  | .string text => Text.Quoted.encode text.toList
  | .array [] => ['[', ']']
  | .array (first :: others) => '[' :: (literal first ++ literalElements others)
  | .object [] => ['\x7b', '\x7d']
  | .object ((key, value) :: others) =>
      '\x7b' :: (Text.Quoted.encode key.toList ++ ':' :: ' ' ::
        (literal value ++ literalMembers others))

/-- The elements of an array after its first, and the bracket that closes it. -/
def literalElements : List Json → List Char
  | [] => [']']
  | element :: others => ',' :: ' ' :: (literal element ++ literalElements others)

/-- The members of an object after its first, and the brace that closes it. -/
def literalMembers : List (String × Json) → List Char
  | [] => ['\x7d']
  | (key, value) :: others =>
      ',' :: ' ' :: (Text.Quoted.encode key.toList ++ ':' :: ' ' ::
        (literal value ++ literalMembers others))
end

/-- The text of a value in a message where strings stand without quotes. -/
def shown : Json → String
  | .string text => text
  | value => String.ofList value.literal

end DocHighlight.Json
