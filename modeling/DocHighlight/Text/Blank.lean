/-!
# White space and separated lists

White space in the wide sense: the white space of Unicode and the four information separators U+001C
to U+001F. A comma-separated list is read by cutting it at the commas, stripping each piece of white
space at both ends, and dropping the pieces that hold nothing else.
-/

namespace DocHighlight.Text

/-- White space: what ends a line, tabs, spaces of any width, and the information separators. -/
def isBlank (c : Char) : Bool :=
  let code := c.toNat
  (0x09 ≤ code && code ≤ 0x0D) || (0x1C ≤ code && code ≤ 0x20) || code == 0x85 || code == 0xA0 ||
    code == 0x1680 || (0x2000 ≤ code && code ≤ 0x200A) || code == 0x2028 || code == 0x2029 ||
    code == 0x202F || code == 0x205F || code == 0x3000

/-- The text without white space at its end. -/
def stripEnd : List Char → List Char
  | [] => []
  | c :: rest =>
      match stripEnd rest with
      | [] => if isBlank c then [] else [c]
      | kept => c :: kept

/-- The text without white space at either end. -/
def strip (text : List Char) : List Char :=
  stripEnd (text.dropWhile isBlank)

/-- The pieces between the separators; one more piece than there are separators. -/
def split (separator : Char) : List Char → List (List Char)
  | [] => [[]]
  | c :: rest =>
      if c = separator then [] :: split separator rest
      else
        match split separator rest with
        | [] => [[c]]
        | piece :: pieces => (c :: piece) :: pieces

/-- The entries of a comma-separated list, stripped, blank ones dropped. -/
def entries (text : List Char) : List (List Char) :=
  ((split ',' text).map strip).filter (· ≠ [])

end DocHighlight.Text
