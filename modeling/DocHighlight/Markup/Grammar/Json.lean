import DocHighlight.Markup.Token
import DocHighlight.Text.Category

/-!
# Tokens of JSON

JSON with comments is scanned character by character. Constants, numbers and punctuation are runs of
the characters that they are made of. A string becomes a tag when the next token that is neither a
string, nor white space, nor a comment is a colon, since then it is a key.
-/

namespace DocHighlight.Markup.JsonCode

/-- Where in a string the scanner stands: in plain text, after a backslash, or before so many
hexadecimal digits of an escape. -/
inductive StringPart where
  | plain
  | escape
  | hex (due : Nat)

inductive Mode where
  | idle
  | string (part : StringPart)
  | whitespace
  | constant
  | number (kind : Kind)
  | punctuation
  | slash
  | lineComment
  | blockComment (star : Bool)

/-- What a character does: it goes on with the token, ends it, or comes after its end. -/
inductive Step where
  | more (mode : Mode)
  | last (kind : Kind)
  | after (kind : Kind)

/-- The letters of the three constants. -/
def isConstant (c : Char) : Bool :=
  "truefalsn".toList.contains c

/-- White space between tokens. -/
def isSpace (c : Char) : Bool :=
  " \n\r\t".toList.contains c

/-- The digits, and the sign that a number starts with. -/
def isInteger (c : Char) : Bool :=
  c == '-' || Text.isAsciiDigit c

/-- What only numbers with a fraction or an exponent hold. -/
def isFraction (c : Char) : Bool :=
  ".eE+".toList.contains c

/-- Brackets, braces and commas, which may follow each other in one token. -/
def isPunctuation (c : Char) : Bool :=
  "\x7b\x7d[],".toList.contains c

/-- The mode that a character starts; without one it is an error by itself. -/
def begin? (c : Char) : Option Mode :=
  if c = '"' then some (.string .plain)
  else if isSpace c then some .whitespace
  else if c = 'f' ∨ c = 'n' ∨ c = 't' then some .constant
  else if isInteger c then some (.number .integer)
  else if c = ':' ∨ isPunctuation c then some .punctuation
  else if c = '/' then some .slash
  else none

/-- What a character does in a string. An escape that goes wrong takes the character with it. -/
def stepString (part : StringPart) (c : Char) : Step :=
  match part with
  | .hex (due + 1) =>
      if Text.isHexDigit c then .more (.string (if due = 0 then .plain else .hex due))
      else .more (.string .plain)
  | .escape => if c = 'u' then .more (.string (.hex 4)) else .more (.string .plain)
  | _ =>
      if c = '\\' then .more (.string .escape)
      else if c = '"' then .last .doubleQuoted
      else .more (.string .plain)

def step (mode : Mode) (c : Char) : Step :=
  match mode with
  | .idle =>
      match begin? c with
      | some mode => .more mode
      | none => .last .error
  | .string part => stepString part c
  | .whitespace => if isSpace c then .more .whitespace else .after .whitespace
  | .constant => if isConstant c then .more .constant else .after .constant
  | .number kind =>
      if isInteger c then .more (.number kind)
      else if isFraction c then .more (.number .float)
      else .after kind
  | .punctuation => if isPunctuation c then .more .punctuation else .after .punctuation
  | .slash =>
      if c = '/' then .more .lineComment
      else if c = '*' then .more (.blockComment false)
      else .after .error
  | .lineComment => if c = '\n' then .after .lineComment else .more .lineComment
  | .blockComment star =>
      if c = '*' then .more (.blockComment true)
      else if star ∧ c = '/' then .last .multilineComment
      else .more (.blockComment false)

/-- The kind of a token that the text ends in. -/
def Mode.kindAtEnd : Mode → Kind
  | .whitespace => .whitespace
  | .constant => .constant
  | .number kind => kind
  | .punctuation => .punctuation
  | .lineComment => .lineComment
  | .idle | .string _ | .slash | .blockComment _ => .error

/-- The tokens from a place on, in a mode with the characters that the token has so far, last one
first. -/
def scanFrom (mode : Mode) (done : List Char) : List Char → List Token
  | [] => if done.isEmpty then [] else [⟨mode.kindAtEnd, done.reverse⟩]
  | c :: rest =>
      match step mode c with
      | .more mode => scanFrom mode (c :: done) rest
      | .last kind => ⟨kind, (c :: done).reverse⟩ :: scanFrom .idle [] rest
      | .after kind =>
          ⟨kind, done.reverse⟩ ::
            match begin? c with
            | some mode => scanFrom mode [c] rest
            | none => ⟨.error, [c]⟩ :: scanFrom .idle [] rest

/-- Whether the next token that is neither a string, nor white space, nor a comment starts with a
colon. -/
def colonFollows : List Token → Bool
  | [] => false
  | token :: others =>
      match token.kind with
      | .doubleQuoted | .whitespace | .lineComment | .multilineComment => colonFollows others
      | _ => token.kind == .punctuation && token.text.head? == some ':'

/-- Turns strings that are keys into tags. -/
def markKeys : List Token → List Token
  | [] => []
  | token :: others =>
      let kind := if token.kind = .doubleQuoted ∧ colonFollows others then .tag else token.kind
      ⟨kind, token.text⟩ :: markKeys others

def scan (text : List Char) : List Token :=
  markKeys (scanFrom .idle [] text)

end DocHighlight.Markup.JsonCode
