import DocHighlight.Json.Reader

/-!
# What a JSON text spells

The grammar of JSON texts, apart from any reader of them: which texts there are, and which value
each of them spells. White space may stand around every value and every key. In an object whose text
gives a key several times, the key has its first place and its last value.

A text is spelled within limits: how many digits the integer part of a number has at most, and in
how many containers a value stands at most. Whatever is spelled within some limits is spelled within
wider ones, and it then spells the same.
-/

namespace DocHighlight.Json

/-- White space that means nothing. -/
def Blank (text : List Char) : Prop :=
  ∀ c ∈ text, c = ' ' ∨ c = '\t' ∨ c = '\n' ∨ c = '\r'

def Digits (text : List Char) : Prop :=
  ∀ c ∈ text, c.isDigit = true

/-- The number that decimal digits stand for. -/
abbrev digitsValue (digits : List Char) : Nat :=
  Nat.ofDigitChars 10 digits 0

/-- The integer part of a number: zero, or digits of which the first is not zero. -/
inductive Whole (limits : Limits) : List Char → Prop where
  | zero : Whole limits ['0']
  | positive {first : Char} {rest : List Char} (digits : Digits (first :: rest))
      (notZero : first ≠ '0') (fits : rest.length + 1 ≤ limits.digits) :
      Whole limits (first :: rest)

/-- What may follow the integer part: nothing, or a point with digits after it. -/
inductive Fraction : List Char → (digits : List Char) → Prop where
  | none : Fraction [] []
  | some {first : Char} {rest : List Char} (digits : Digits (first :: rest)) :
      Fraction ('.' :: first :: rest) (first :: rest)

/-- The sign of an exponent; `true` is the negative one. -/
inductive ExponentSign : List Char → Bool → Prop where
  | none : ExponentSign [] false
  | plus : ExponentSign ['+'] false
  | minus : ExponentSign ['-'] true

/-- An integer with a given sign. -/
def signed (negative : Bool) (value : Nat) : Int :=
  if negative then -value else value

/-- What may end a number: nothing, or a letter, a sign and digits. -/
inductive Exponent : List Char → Int → Prop where
  | none : Exponent [] 0
  | some {letter : Char} {sign : List Char} {negative : Bool} {first : Char} {rest : List Char}
      (exponential : letter = 'e' ∨ letter = 'E') (signs : ExponentSign sign negative)
      (digits : Digits (first :: rest)) :
      Exponent (letter :: (sign ++ first :: rest)) (signed negative (digitsValue (first :: rest)))

/-- The sign in front of a number. -/
def minus (negative : Bool) : List Char :=
  if negative then ['-'] else []

/-- A number is an integer if it has neither a fraction nor an exponent. -/
inductive SpellsNumber (limits : Limits) : List Char → Json → Prop where
  | integer (negative : Bool) {whole : List Char} (wholes : Whole limits whole) :
      SpellsNumber limits (minus negative ++ whole)
        (.integer (signed negative (digitsValue whole)))
  | float (negative : Bool) {whole fraction digits exponent : List Char} {scale : Int}
      (wholes : Whole limits whole) (fractions : Fraction fraction digits)
      (exponents : Exponent exponent scale) (marked : fraction ++ exponent ≠ []) :
      SpellsNumber limits (minus negative ++ (whole ++ (fraction ++ exponent)))
        (.float (.ofDecimal negative (digitsValue (whole ++ digits)) (scale - digits.length)))

def escapeLetters : List (Char × Char) :=
  [('"', '"'), ('\\', '\\'), ('/', '/'), ('b', '\x08'), ('f', '\x0c'), ('n', '\n'), ('r', '\r'),
   ('t', '\t')]

/-- Four hexadecimal digits and their value. -/
inductive FourDigits : List Char → Nat → Prop where
  | mk {a b c d : Char} {first second third fourth : Nat} (hasFirst : hexDigit? a = some first)
      (hasSecond : hexDigit? b = some second) (hasThird : hexDigit? c = some third)
      (hasFourth : hexDigit? d = some fourth) :
      FourDigits [a, b, c, d] (((first * 16 + second) * 16 + third) * 16 + fourth)

/-- The numbers by which the first half of a character beyond `U+FFFF` is given. -/
def IsHighSurrogate (code : Nat) : Prop :=
  0xD800 ≤ code ∧ code ≤ 0xDBFF

/-- The numbers by which the second half of such a character is given. -/
def IsLowSurrogate (code : Nat) : Prop :=
  0xDC00 ≤ code ∧ code ≤ 0xDFFF

/-- What stands between the quotes of a string, and the characters that it means. -/
inductive SpellsString : List Char → List Char → Prop where
  | nil : SpellsString [] []
  | plain {c : Char} {text characters : List Char} (notQuote : c ≠ '"') (notEscape : c ≠ '\\')
      (notControl : 0x20 ≤ c.toNat) (others : SpellsString text characters) :
      SpellsString (c :: text) (c :: characters)
  | letter {letter c : Char} {text characters : List Char} (known : (letter, c) ∈ escapeLetters)
      (others : SpellsString text characters) :
      SpellsString ('\\' :: letter :: text) (c :: characters)
  | code {digits text characters : List Char} {code : Nat} (hex : FourDigits digits code)
      (notHigh : ¬IsHighSurrogate code) (notLow : ¬IsLowSurrogate code)
      (others : SpellsString text characters) :
      SpellsString ('\\' :: 'u' :: (digits ++ text)) (Char.ofNat code :: characters)
  | pair {highDigits lowDigits text characters : List Char} {high low : Nat}
      (highHex : FourDigits highDigits high) (lowHex : FourDigits lowDigits low)
      (isHigh : IsHighSurrogate high) (isLow : IsLowSurrogate low)
      (others : SpellsString text characters) :
      SpellsString ('\\' :: 'u' :: (highDigits ++ '\\' :: 'u' :: (lowDigits ++ text)))
        (Char.ofNat (0x10000 + (high - 0xD800) * 0x400 + (low - 0xDC00)) :: characters)

/-- A key: a string with white space around it. -/
inductive SpellsKey : List Char → String → Prop where
  | mk {before text characters after : List Char} (blankBefore : Blank before)
      (spelled : SpellsString text characters) (blankAfter : Blank after) :
      SpellsKey (before ++ '"' :: (text ++ '"' :: after)) (String.ofList characters)

/-- The values that are spelled by a word. -/
def words : List (List Char × Json) :=
  [(['n', 'u', 'l', 'l'], .null), (['t', 'r', 'u', 'e'], .bool true),
   (['f', 'a', 'l', 's', 'e'], .bool false), (['N', 'a', 'N'], .float .nan),
   (['I', 'n', 'f', 'i', 'n', 'i', 't', 'y'], .float (.infinite false)),
   (['-', 'I', 'n', 'f', 'i', 'n', 'i', 't', 'y'], .float (.infinite true))]

section Values

variable (limits : Limits)

mutual

/-- A text without white space around it spells a value that stands in so many containers. -/
inductive SpellsValue : (depth : Nat) → List Char → Json → Prop where
  | word {depth : Nat} {text : List Char} {value : Json} (fits : depth ≤ limits.depth)
      (known : (text, value) ∈ words) : SpellsValue depth text value
  | number {depth : Nat} {text : List Char} {value : Json} (fits : depth ≤ limits.depth)
      (spelled : SpellsNumber limits text value) : SpellsValue depth text value
  | string {depth : Nat} {text characters : List Char} (fits : depth ≤ limits.depth)
      (spelled : SpellsString text characters) :
      SpellsValue depth ('"' :: (text ++ ['"'])) (.string (String.ofList characters))
  | emptyArray {depth : Nat} {text : List Char} (fits : depth ≤ limits.depth)
      (blank : Blank text) : SpellsValue depth ('[' :: (text ++ [']'])) (.array [])
  | array {depth : Nat} {text : List Char} {elements : List Json} (fits : depth ≤ limits.depth)
      (spelled : SpellsElements (depth + 1) text elements) :
      SpellsValue depth ('[' :: (text ++ [']'])) (.array elements)
  | emptyObject {depth : Nat} {text : List Char} (fits : depth ≤ limits.depth)
      (blank : Blank text) : SpellsValue depth ('\x7b' :: (text ++ ['\x7d'])) (.object [])
  | object {depth : Nat} {text : List Char} {members : List (String × Json)}
      (fits : depth ≤ limits.depth) (spelled : SpellsMembers (depth + 1) text members) :
      SpellsValue depth ('\x7b' :: (text ++ ['\x7d'])) (.object (Keyed.ofPairs members))

/-- The same with white space around the text of the value. -/
inductive SpellsPadded : (depth : Nat) → List Char → Json → Prop where
  | mk {depth : Nat} {before text after : List Char} {value : Json} (blankBefore : Blank before)
      (spelled : SpellsValue depth text value) (blankAfter : Blank after) :
      SpellsPadded depth (before ++ (text ++ after)) value

inductive SpellsElements : (depth : Nat) → List Char → List Json → Prop where
  | last {depth : Nat} {text : List Char} {value : Json} (spelled : SpellsPadded depth text value) :
      SpellsElements depth text [value]
  | more {depth : Nat} {text rest : List Char} {value : Json} {others : List Json}
      (spelled : SpellsPadded depth text value) (further : SpellsElements depth rest others) :
      SpellsElements depth (text ++ ',' :: rest) (value :: others)

inductive SpellsMembers : (depth : Nat) → List Char → List (String × Json) → Prop where
  | last {depth : Nat} {label text : List Char} {key : String} {value : Json}
      (named : SpellsKey label key) (spelled : SpellsPadded depth text value) :
      SpellsMembers depth (label ++ ':' :: text) [(key, value)]
  | more {depth : Nat} {label text rest : List Char} {key : String} {value : Json}
      {others : List (String × Json)} (named : SpellsKey label key)
      (spelled : SpellsPadded depth text value) (further : SpellsMembers depth rest others) :
      SpellsMembers depth (label ++ ':' :: (text ++ ',' :: rest)) ((key, value) :: others)

end

/-- A text spells a value. -/
def Spells (text : List Char) (value : Json) : Prop :=
  SpellsPadded limits 0 text value

end Values

/-- One reader takes at least what another one takes. -/
structure Limits.Within (narrow wide : Limits) : Prop where
  digits : narrow.digits ≤ wide.digits
  depth : narrow.depth ≤ wide.depth

section Wider

variable {narrow wide : Limits}

theorem Whole.widen (within : narrow.Within wide) {text : List Char} (wholes : Whole narrow text) :
    Whole wide text := by
  cases wholes with
  | zero => exact .zero
  | positive digits notZero fits =>
      exact .positive digits notZero (Nat.le_trans fits within.digits)

theorem SpellsNumber.widen (within : narrow.Within wide) {text : List Char} {value : Json}
    (spelled : SpellsNumber narrow text value) : SpellsNumber wide text value := by
  cases spelled with
  | integer negative wholes => exact .integer negative (wholes.widen within)
  | float negative wholes fractions exponents marked =>
      exact .float negative (wholes.widen within) fractions exponents marked

mutual

theorem SpellsValue.widen (within : narrow.Within wide) {depth : Nat} {text : List Char}
    {value : Json} : SpellsValue narrow depth text value → SpellsValue wide depth text value
  | .word fits known => .word (Nat.le_trans fits within.depth) known
  | .number fits spelled => .number (Nat.le_trans fits within.depth) (spelled.widen within)
  | .string fits spelled => .string (Nat.le_trans fits within.depth) spelled
  | .emptyArray fits blank => .emptyArray (Nat.le_trans fits within.depth) blank
  | .array fits spelled => .array (Nat.le_trans fits within.depth) (spelled.widen within)
  | .emptyObject fits blank => .emptyObject (Nat.le_trans fits within.depth) blank
  | .object fits spelled => .object (Nat.le_trans fits within.depth) (spelled.widen within)

theorem SpellsPadded.widen (within : narrow.Within wide) {depth : Nat} {text : List Char}
    {value : Json} : SpellsPadded narrow depth text value → SpellsPadded wide depth text value
  | .mk before spelled after => .mk before (spelled.widen within) after

theorem SpellsElements.widen (within : narrow.Within wide) {depth : Nat} {text : List Char}
    {elements : List Json} :
    SpellsElements narrow depth text elements → SpellsElements wide depth text elements
  | .last spelled => .last (spelled.widen within)
  | .more spelled further => .more (spelled.widen within) (further.widen within)

theorem SpellsMembers.widen (within : narrow.Within wide) {depth : Nat} {text : List Char}
    {members : List (String × Json)} :
    SpellsMembers narrow depth text members → SpellsMembers wide depth text members
  | .last named spelled => .last named (spelled.widen within)
  | .more named spelled further => .more named (spelled.widen within) (further.widen within)

end

theorem Spells.widen (within : narrow.Within wide) {text : List Char} {value : Json}
    (spelled : Spells narrow text value) : Spells wide text value :=
  SpellsPadded.widen within spelled

end Wider

end DocHighlight.Json
