import DocHighlight.Markup.Scanner

/-!
# Tokens of XML

Text with entities, comments and instructions; tags with attributes.
-/

namespace DocHighlight.Markup.XmlCode

open Pattern

/-- The states of the scanner: outside of tags, inside a tag, and after the name of an attribute. -/
inductive State where
  | content
  | tag
  | attribute

def nameChar : Pattern :=
  .char fun c => Text.isWord c || c == ':' || c == '.' || c == '-'

def contentRules : List (Rule State) :=
  [.token .text (some1 (.char fun c => c != '<' && c != '&' && !Text.isBlank c)),
   .token .whitespace (some1 blank),
   .token .entity (all [text "&", .few (.char fun c => !Text.isBlank c), text ";"]),
   .token .preprocessor (all [text "<![CDATA[", .few any, text "]]>"]),
   .token .multilineComment (all [text "<!--", .few any, text "-->"]),
   .token .preprocessor (all [text "<?", .few any, text "?>"]),
   .token .preprocessor (all [text "<!", .many (notAmong ">"), text ">"]),
   .enter .tag (all [text "<", .many blank, some1 nameChar]) .tag,
   .token .tag
    (all [text "<", .many blank, text "/", .many blank, some1 nameChar, .many blank, text ">"])]

def tagRules : List (Rule State) :=
  [.token .whitespace (some1 blank),
   .enter .attribute (all [some1 nameChar, .many blank, text "="]) .attribute,
   .leave .tag (all [opt (text "/"), .many blank, text ">"])]

def attributeRules : List (Rule State) :=
  [.token .whitespace (some1 blank),
   .leave .string (all [text "\"", .few any, text "\""]),
   .leave .string (all [text "'", .few any, text "'"]),
   .leave .string (some1 (.char fun c => c != '>' && !Text.isBlank c))]

def grammar : Grammar State where
  start := .content
  rules
    | .content => contentRules
    | .tag => tagRules
    | .attribute => attributeRules

end DocHighlight.Markup.XmlCode
