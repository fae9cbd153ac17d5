import DocHighlight.Markup.Scanner

/-!
# Tokens of Bash

Commands, quoted strings, expansions, arithmetic and here-documents. Code may stand in parentheses,
in backticks and in arithmetic, so the rules of code come last in the states for these.
-/

namespace DocHighlight.Markup.BashCode

open Pattern

/-- The states of the scanner: code, in a string, in braces, in parentheses, in arithmetic, in
backticks. -/
inductive State where
  | code
  | string
  | braces
  | parentheses
  | arithmetic
  | backticks

/-- The words that rule the flow of control. -/
def keywords : List String :=
  ["if", "fi", "else", "while", "in", "do", "done", "for", "then", "return", "function", "case",
   "select", "break", "continue", "until", "esac", "elif"]

/-- The commands of the shell itself. -/
def builtins : List String :=
  ["alias", "bg", "bind", "builtin", "caller", "cd", "command", "compgen", "complete", "declare",
   "dirs", "disown", "echo", "enable", "eval", "exec", "exit", "export", "false", "fc", "fg",
   "getopts", "hash", "help", "history", "jobs", "kill", "let", "local", "logout", "popd",
   "printf", "pushd", "pwd", "read", "readonly", "set", "shift", "shopt", "source", "suspend",
   "test", "time", "times", "trap", "true", "type", "typeset", "ulimit", "umask", "unalias",
   "unset", "wait"]

/-- A here-document: a word, then anything up to that word again. -/
def hereDocument : Pattern :=
  all [text "<<", opt (text "-"), .many blank, opt (text "'"), opt (text "\\"),
    .remember (some1 word), few1 any, .remembered]

/-- The rules of words and operators. -/
def basicRules : List (Rule State) :=
  [⟨[(.keyword,
      all [wordBoundary, texts keywords,
        notBefore (.char fun c => Text.isWord c || "#$?!*@-".toList.contains c)]),
     (.whitespace, .many blank)], []⟩,
   .token .builtin
    (all [wordBoundary, texts builtins,
      before (.char fun c => Text.isBlank c || c == ')' || c == '\x60')]),
   .token .hashbang (all [textStart, text "#!", some1 inLine, text "\n"]),
   .token .lineComment (all [text "#", .many inLine, text "\n"]),
   .token .escape (.sequence (text "\\") any),
   ⟨[(.variableName, .sequence wordBoundary (some1 word)), (.whitespace, .many blank),
     (.operator, .sequence (opt (text "+")) (text "="))], []⟩,
   .token .operator (among "[]\x7b\x7d()="),
   .token .operator (text "<<<"),
   .token .string hereDocument,
   .token .operator (texts ["&&", "||"])]

/-- An escape in a string, by digits or by any character. -/
def stringEscape : Pattern :=
  oneOf [text "\\\\", .sequence (text "\\") (some1 octalDigit), .sequence (text "\\") any]

/-- The rules of data. -/
def dataRules : List (Rule State) :=
  [.token .doubleQuoted
    (all [opt (text "$"), text "\"",
      .many (.choice (.sequence (text "\\") any) (notAmong "\"\\$")), text "\""]),
   .enter .doubleQuoted (text "\"") .string,
   .token .singleQuoted
    (all [text "$'", .many (.choice stringEscape (notAmong "'\\")), text "'"]),
   .token .singleQuoted (all [text "'", .few any, text "'"]),
   .token .punctuation (text ";"),
   .token .punctuation (text "&"),
   .token .punctuation (text "|"),
   .token .whitespace (some1 blank),
   .token .number (.sequence (some1 decimal) wordBoundary),
   .token .text
    (some1 (.char fun c => !Text.isBlank c && !"=[]\x7b\x7d()$\"'\x60\\<&|;".toList.contains c)),
   .token .text (text "<")]

/-- The rules of expansions. -/
def expansionRules : List (Rule State) :=
  [.enter .keyword (text "$((") .arithmetic,
   .enter .keyword (text "$(") .parentheses,
   .enter .interpolation (.sequence (text "$\x7b") (opt (text "#"))) .braces,
   .token .variableName (all [text "$", nameStart, .many word]),
   .token .variableName (.sequence (text "$") (.choice (some1 decimal) (among "#$?!_*@-"))),
   .token .text (text "$")]

def codeRules : List (Rule State) :=
  basicRules ++ [.enter .backtick (text "\x60") .backticks] ++ dataRules ++ expansionRules

def stringRules : List (Rule State) :=
  [.leave .doubleQuoted (text "\""),
   .token .doubleQuoted (some1 (.choice stringEscape (notAmong "\"\\$")))] ++ expansionRules

def braceRules : List (Rule State) :=
  [.leave .interpolation (text "\x7d"),
   .token .keyword (text ":-"),
   .token .variableName (some1 word),
   .token .punctuation (some1 (notAmong "\x7d:\"'\x60$\\")),
   .token .punctuation (text ":")] ++ codeRules

def arithmeticRules : List (Rule State) :=
  [.leave .keyword (text "))"),
   .token .operator (.choice (texts ["**", "||", "<<", ">>"]) (among "-+*/%^|&<>")),
   .token .number
    (all [some1 decimal, text "#",
      some1 (.char fun c => Text.isDecimal c || Text.isAsciiLetter c)]),
   .token .number (all [some1 decimal, text "#", notBefore (text " ")]),
   .token .number
    (all [text "0", among "xX",
      some1 (.char fun c => Text.isDecimal c || Text.isHexDigit c)]),
   .token .number (some1 decimal),
   .token .variableName (.sequence nameStart (.many word))] ++ codeRules

def grammar : Grammar State where
  start := .code
  rules
    | .code => codeRules
    | .string => stringRules
    | .braces => braceRules
    | .parentheses => .leave .keyword (text ")") :: codeRules
    | .arithmetic => arithmeticRules
    | .backticks => .leave .backtick (text "\x60") :: codeRules

end DocHighlight.Markup.BashCode
