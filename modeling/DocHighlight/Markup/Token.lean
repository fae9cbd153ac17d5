/-!
# Tokens

A token is a piece of code with the kind of thing that it is. Each kind but plain text has a class,
by which a style sheet finds it. The grammars here give some kinds; of any other kind nothing but
its class is known.
-/

namespace DocHighlight.Markup

/-- Whether a character may stand in a class; several classes have spaces between them. -/
def isClassCharacter (c : Char) : Bool :=
  c.isAlphanum || c = '-' || c = '_' || c = ' '

structure ClassName where
  text : String
  regular : text.toList.all isClassCharacter = true
deriving DecidableEq, Repr

/-- What a piece of code is. -/
inductive Kind where
  | text
  | whitespace
  | error
  | comment
  | hashbang
  | multilineComment
  | preprocessor
  | lineComment
  | keyword
  | constant
  | declaration
  | reserved
  | name
  | attribute
  | builtin
  | entity
  | exception
  | otherName
  | tag
  | variableName
  | number
  | binary
  | float
  | hexadecimal
  | integer
  | octal
  | operator
  | operatorWord
  | punctuation
  | string
  | backtick
  | doubleQuoted
  | escape
  | interpolation
  | regex
  | singleQuoted
  | other (cssClass : ClassName)
deriving DecidableEq, Repr

/-- The class of a kind. -/
def Kind.cssClass? : Kind → Option String
  | .text => none
  | .whitespace => some "w"
  | .error => some "err"
  | .comment => some "c"
  | .hashbang => some "ch"
  | .multilineComment => some "cm"
  | .preprocessor => some "cp"
  | .lineComment => some "c1"
  | .keyword => some "k"
  | .constant => some "kc"
  | .declaration => some "kd"
  | .reserved => some "kr"
  | .name => some "n"
  | .attribute => some "na"
  | .builtin => some "nb"
  | .entity => some "ni"
  | .exception => some "ne"
  | .otherName => some "nx"
  | .tag => some "nt"
  | .variableName => some "nv"
  | .number => some "m"
  | .binary => some "mb"
  | .float => some "mf"
  | .hexadecimal => some "mh"
  | .integer => some "mi"
  | .octal => some "mo"
  | .operator => some "o"
  | .operatorWord => some "ow"
  | .punctuation => some "p"
  | .string => some "s"
  | .backtick => some "sb"
  | .doubleQuoted => some "s2"
  | .escape => some "se"
  | .interpolation => some "si"
  | .regex => some "sr"
  | .singleQuoted => some "s1"
  | .other cssClass => some cssClass.text

theorem Kind.cssClass?_regular {kind : Kind} {name : String} (found : kind.cssClass? = some name) :
    name.toList.all isClassCharacter = true := by
  cases kind with
  | text => cases found
  | other cssClass =>
      cases found
      exact cssClass.regular
  | _ =>
      cases found
      decide

/-- A piece of code and its kind. -/
structure Token where
  kind : Kind
  text : List Char
deriving DecidableEq, Repr

end DocHighlight.Markup
