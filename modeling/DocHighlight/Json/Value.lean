import DocHighlight.Number.Binary64

/-!
# JSON values

A JSON value keeps the order of object members, and keeps integers apart from floating-point
numbers. Objects that come from a text have distinct keys: there a key that comes again keeps its
first place and takes its last value.
-/

namespace DocHighlight

inductive Json where
  | null
  | bool (value : Bool)
  | integer (value : Int)
  | float (value : Binary64)
  | string (value : String)
  | array (elements : List Json)
  | object (members : List (String × Json))
deriving Repr, Inhabited

namespace Json

mutual
/-- How many values stand in one another at most, the value itself counted. -/
def height : Json → Nat
  | .array elements => heightOfElements elements + 1
  | .object members => heightOfMembers members + 1
  | _ => 1

/-- The greatest height of the elements of an array; zero if there are none. -/
def heightOfElements : List Json → Nat
  | [] => 0
  | element :: others => max (height element) (heightOfElements others)

/-- The greatest height of the values of an object; zero if there are none. -/
def heightOfMembers : List (String × Json) → Nat
  | [] => 0
  | (_, value) :: others => max (height value) (heightOfMembers others)
end

end Json

end DocHighlight
