import DocHighlight.Json.Literal

/-!
# Problems of a document

What can be wrong with a JSON value that should be a document or a part of one. Reading does not
stop at the first problem: the outcome is either a value, or all problems in the order in which they
were found.
-/

namespace DocHighlight.Document

inductive Problem where
  | notObject
  | notArray
  | notText
  | notInteger
  | notNumber
  | fieldMissing
  | fieldUnknown
  | tagMissing
  | tagUnknown (tag : Json) (expected : List String)
  | notLiteral (expected : List String)
  | tooManyMembers (most given : Nat)
  | attributesLength (given : Nat)
deriving Repr

/-- Words between quotes, separated by commas, the last one by `or`. -/
def alternatives : List String → String
  | [] => ""
  | [word] => "'" ++ word ++ "'"
  | [first, last] => "'" ++ first ++ "' or '" ++ last ++ "'"
  | first :: others => "'" ++ first ++ "', " ++ alternatives others

def Problem.message : Problem → String
  | .notObject => "Input should be an object"
  | .notArray => "Input should be a valid array"
  | .notText => "Input should be a valid string"
  | .notInteger => "Input should be a valid integer"
  | .notNumber => "Input should be a valid number"
  | .fieldMissing => "Field required"
  | .fieldUnknown => "Extra inputs are not permitted"
  | .tagMissing => "Unable to extract tag using discriminator 't'"
  | .tagUnknown tag expected =>
      "Input tag '" ++ tag.shown ++ "' found using 't' does not match any of the expected tags: " ++
        ", ".intercalate (expected.map fun name => "'" ++ name ++ "'")
  | .notLiteral expected => "Input should be " ++ alternatives expected
  | .tooManyMembers most given =>
      "Tuple should have at most " ++ toString most ++ " items after validation, not " ++
        toString given
  | .attributesLength given => "Value error, Attr expects 3 elements, got " ++ toString given

/-- A value, or at least one problem. -/
inductive Checked (α : Type) where
  | valid (value : α)
  | invalid (first : Problem) (others : List Problem)

namespace Checked

def problem {α : Type} (cause : Problem) : Checked α :=
  .invalid cause []

/-- All problems. -/
def problems {α : Type} : Checked α → List Problem
  | .valid _ => []
  | .invalid first others => first :: others

/-- Changes the value and keeps the problems. -/
def map {α β : Type} (f : α → β) : Checked α → Checked β
  | .valid value => .valid (f value)
  | .invalid first others => .invalid first others

/-- Joins two values; the problems of both are kept, those of the first one in front. -/
def both {α β γ : Type} (f : α → β → γ) : Checked α → Checked β → Checked γ
  | .valid a, .valid b => .valid (f a b)
  | .valid _, .invalid first others => .invalid first others
  | .invalid first others, b => .invalid first (others ++ b.problems)

/-- Adds problems behind those that are there. -/
def also {α : Type} (checked : Checked α) : List Problem → Checked α
  | [] => checked
  | extra :: more =>
      match checked with
      | .valid _ => .invalid extra more
      | .invalid first others => .invalid first (others ++ extra :: more)

end Checked

end DocHighlight.Document
