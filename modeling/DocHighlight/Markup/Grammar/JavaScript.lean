import DocHighlight.Markup.Scanner

/-!
# Tokens of JavaScript

A slash starts a regular expression where an operand is due, and is an operator elsewhere; a state
of its own stands for the former. Template literals hold code between `$` with a brace and the
closing brace.
-/

namespace DocHighlight.Markup.JavaScriptCode

open Pattern

/-- The states of the scanner: code, where an operand is due, after a slash that starts no regular
expression, in a template literal, and in code within it. -/
inductive State where
  | code
  | operand
  | badRegex
  | template
  | embedded

/-- An escaped character of an identifier. -/
def identifierEscape : Pattern :=
  all [text "\\u", hexDigit, hexDigit, hexDigit, hexDigit]

def identifier : Pattern :=
  .sequence (.choice (.char Text.isIdentifierStart) identifierEscape)
    (.many (.choice (.char Text.isIdentifierPart) identifierEscape))

def spaceRules : List (Rule State) :=
  [.token .whitespace (some1 blank),
   .token .comment (text "<!--"),
   .token .lineComment (all [text "//", .few any, lineEnd]),
   .token .multilineComment (all [text "/*", .few any, text "*/"])]

/-- A backslash and the character after it. -/
def escaped : Pattern :=
  .sequence (text "\\") any

/-- A class of characters in a regular expression. -/
def regexClass : Pattern :=
  all [text "[", .many (.choice escaped (notAmong "]\\\n")), text "]"]

def regex : Pattern :=
  all [text "/", some1 (oneOf [escaped, notAmong "[/\\\n", regexClass]), text "/",
    .choice (.sequence (some1 (among "gimuysd")) wordBoundary) noWordBoundary]

/-- The rules where an operand is due. -/
def operandRules : List (Rule State) :=
  spaceRules ++
    [.leave .regex regex,
     ⟨[(.text, before (text "/"))], [.pop, .push .badRegex]⟩,
     ⟨[], [.pop]⟩]

/-- A number with an optional exponent. -/
def float : Pattern :=
  .sequence
    (oneOf
      [.sequence (text ".") (some1 digit), all [some1 digit, text ".", .many digit], some1 digit])
    (opt (all [among "eE", opt (among "-+"), some1 digit]))

/-- The operators, in the order in which they are tried. -/
def operator : Pattern :=
  oneOf
    [text "++", text "--", text "~", .sequence (text "??") (opt (text "=")), text "?", text ":",
     .sequence (text "\\") (before (text "\n")),
     .sequence
      (oneOf
        [text "<<", .sequence (text ">>") (opt (text ">")), .sequence (text "=") (opt (text "=")),
         .sequence (text "!") (opt (text "=")), texts ["**", "||", "&&"], among "-<>+*%&|^/"])
      (opt (text "="))]

/-- Words before the end of a word. -/
def words (names : List String) : Pattern :=
  .sequence (texts names) wordBoundary

/-- The words that are operators. -/
def operatorWords : List String :=
  ["typeof", "instanceof", "in", "void", "delete", "new"]

/-- The words that rule the flow of control. -/
def keywords : List String :=
  ["for", "in", "while", "do", "break", "return", "continue", "switch", "case", "default", "if",
   "else", "throw", "try", "catch", "finally", "yield", "await", "async", "this", "of", "static",
   "export", "import", "debugger", "extends", "super"]

def declarations : List String :=
  ["var", "let", "const", "with", "function", "class"]

/-- The words that are kept for later use. -/
def reservedWords : List String :=
  ["abstract", "boolean", "byte", "char", "double", "enum", "final", "float", "goto",
   "implements", "int", "interface", "long", "native", "package", "private", "protected",
   "public", "short", "synchronized", "throws", "transient", "volatile"]

/-- The words for constants. -/
def constants : List String :=
  ["true", "false", "null", "NaN", "Infinity", "undefined"]

/-- The names that are there from the start. -/
def builtins : List String :=
  ["Array", "Boolean", "Date", "BigInt", "Function", "Math", "ArrayBuffer", "Number", "Object",
   "RegExp", "String", "Promise", "Proxy", "decodeURI", "decodeURIComponent", "encodeURI",
   "encodeURIComponent", "eval", "isFinite", "isNaN", "parseFloat", "parseInt", "DataView",
   "document", "window", "globalThis", "global", "arguments", "Symbol", "Intl", "WeakSet",
   "WeakMap", "Set", "Map", "Reflect", "JSON", "Atomics", "Int8Array", "Int16Array",
   "Int32Array", "BigInt64Array", "Float32Array", "Float64Array", "Uint8ClampedArray",
   "Uint8Array", "Uint16Array", "Uint32Array", "BigUint64Array"]

def errors : List String :=
  ["EvalError", "InternalError", "RangeError", "ReferenceError", "SyntaxError", "TypeError",
   "URIError", "Error"]

/-- A name that is called without arguments right before a block. -/
def calledName : Pattern :=
  all
    [.char fun c => Text.isAsciiLetter c || "_?.$".toList.contains c,
     .many (.char fun c => Text.isWord c || "?.$".toList.contains c), before (text "() \x7b")]

/-- A string between the given quotes. -/
def quoted (quote : String) : Pattern :=
  all
    [text quote,
     .many
      (oneOf [text "\\\\", .sequence (text "\\") (notAmong "\\"), notAmong (quote ++ "\\")]),
     text quote]

def codeRules : List (Rule State) :=
  [.token .hashbang
      (all [textStart, text "#!", opt (text " "), text "/", .few any, lineEnd]),
   .enter .text (.sequence lineStart (before (oneOf [blank, text "/", text "<!--"]))) .operand] ++
  spaceRules ++
  [.token .binary (all [text "0", among "bB", some1 (among "01"), opt (text "n")]),
   .token .octal (all [text "0", opt (among "oO"), some1 octalDigit, opt (text "n")]),
   .token .hexadecimal (all [text "0", among "xX", some1 hexDigit, opt (text "n")]),
   .token .integer (.sequence (some1 digit) (text "n")),
   .token .float float,
   .token .punctuation (texts ["...", "=>"]),
   .enter .operator operator .operand,
   .enter .punctuation (among "\x7b([;,") .operand,
   .token .punctuation (among "\x7d)]."),
   .enter .operatorWord (words operatorWords) .operand,
   .token .reserved (.sequence wordBoundary (words ["constructor", "from", "as"])),
   .enter .keyword (words keywords) .operand,
   .enter .declaration (words declarations) .operand,
   .token .reserved (words reservedWords),
   .token .constant (words constants),
   .token .builtin (words builtins),
   .token .exception (words errors),
   .enter .otherName calledName .operand,
   .token .otherName identifier,
   .token .doubleQuoted (quoted "\""),
   .token .singleQuoted (quoted "'"),
   .enter .backtick (text "\x60") .template,
   .token .name (all [text "#", nameStart, .many word])]

def templateRules : List (Rule State) :=
  [.leave .backtick (text "\x60"),
   .token .backtick escaped,
   .enter .interpolation (text "$\x7b") .embedded,
   .token .backtick (text "$"),
   .token .backtick (some1 (notAmong "\x60\\$"))]

def grammar : Grammar State where
  start := .code
  rules
    | .code => codeRules
    | .operand => operandRules
    | .badRegex => [.leave .whitespace (text "\n")]
    | .template => templateRules
    | .embedded => .leave .interpolation (text "\x7d") :: codeRules

end DocHighlight.Markup.JavaScriptCode
