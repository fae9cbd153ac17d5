import DocHighlight.CodeBlocks
import DocHighlight.Keyed
import DocHighlight.Markup.Catalog
import DocHighlight.Text.Case

/-!
# The registry of languages

A registry gives languages their lexers. It is made from a list of languages and a map of aliases:
the lexer of a language is looked up by its alias, followed once, or else by the language itself.
The look-up disregards case and never finds the empty name. The first language without a lexer makes
the whole fail.
-/

namespace DocHighlight

/-- Names in lower case that have a lexer. -/
abbrev LexerTable : Type :=
  String → Option Markup.Lexer

/-- A language without a lexer, and the name under which one was looked up. -/
structure UnknownLexer where
  language : String
  name : String
deriving DecidableEq, Repr

def UnknownLexer.message (problem : UnknownLexer) : String :=
  "No Pygments lexer for language '" ++ problem.language ++ "' (looked up as '" ++ problem.name ++
    "')"

/-- Languages and their lexers, each language once. -/
structure Registry where
  entries : List (String × Markup.Lexer)
deriving DecidableEq, Repr

namespace Registry

/-- The languages that are registered unless others are given. -/
def defaultLanguages : List String :=
  ["clike", "css", "html", "javascript", "js", "markup", "mathml", "svg", "xml", "markdown",
   "bash", "jsx", "json", "java"]

/-- The aliases that are in force unless others are given: languages whose lexers go by another
name. -/
def defaultAliases : List (String × String) :=
  [("clike", "c"), ("markup", "html"), ("mathml", "xml"), ("svg", "xml")]

def empty : Registry :=
  ⟨[]⟩

/-- The name under which the lexer of a language is looked up. -/
def lookupName (aliases : List (String × String)) (language : String) : String :=
  (Keyed.get? aliases language).getD language

/-- The lexer with a given name, in any case. -/
def findLexer? (table : LexerTable) (name : String) : Option Markup.Lexer :=
  if name = "" then none else table (Text.lower name)

def add (registry : Registry) (language : String) (lexer : Markup.Lexer) : Registry :=
  ⟨Keyed.put registry.entries language lexer⟩

/-- The registry with more languages, if all of them have lexers. -/
def addAll (table : LexerTable) (aliases : List (String × String)) (registry : Registry) :
    List String → Except UnknownLexer Registry
  | [] => .ok registry
  | language :: others =>
      let name := lookupName aliases language
      match findLexer? table name with
      | some lexer => addAll table aliases (registry.add language lexer) others
      | none => .error ⟨language, name⟩

def lexer? (registry : Registry) (language : String) : Option Markup.Lexer :=
  Keyed.get? registry.entries language

/-- The languages, in the order of their characters. -/
def languages (registry : Registry) : List String :=
  (Keyed.keys registry.entries).mergeSort fun first second => decide (first ≤ second)

/-- The registry of languages; it is reported. -/
def ofNames (table : LexerTable) (languages : List String) (aliases : List (String × String)) :
    ExceptT UnknownLexer Logged Registry := do
  match addAll table aliases .empty languages with
  | .error problem => throw problem
  | .ok registry =>
      Logged.report (.registered registry.languages)
      return registry

def highlighter (registry : Registry) : Highlighter :=
  fun language code => (registry.lexer? language).map fun lexer => lexer.highlight code

end Registry

end DocHighlight
