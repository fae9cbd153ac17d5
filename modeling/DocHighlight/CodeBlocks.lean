import DocHighlight.Diagnostics.Event
import DocHighlight.Document.Walk

/-!
# Highlighting code blocks

The transformer that puts highlighted markup in the place of code blocks. A code block whose first
class is a language that can be highlighted becomes raw HTML; every other node is declined, so that
what is in it is looked into.
-/

namespace DocHighlight

open Document

/-- Turns the code of a language into markup, unless the language is not supported. -/
abbrev Highlighter : Type :=
  String → String → Option String

/-- The language of a code block: its first class. -/
def Document.Attributes.language? (attributes : Attributes) : Option String :=
  attributes.classes.head?

namespace CodeBlocks

def targetFormat : String :=
  "html"

/-- The element around the markup of a language; the language goes into the class as it is. -/
def wrap (language markup : String) : String :=
  "<pre class=\"language-" ++ language ++ "\"><code>" ++ markup ++ "</code></pre>"

/-- What happens to a code block with given attributes and text. -/
def answer (highlighter : Highlighter) (attributes : Attributes) (text : String) :
    Logged (Answer Empty Node) :=
  match attributes.language? with
  | none => return .decline
  | some language =>
      match highlighter language text with
      | none => do
          .report (.unsupported language)
          return .decline
      | some markup => do
          .report (.highlighted text.length language)
          return .replace (.raw targetFormat (wrap language markup))

def transformer (highlighter : Highlighter) : Transformer Empty Logged
  | .code attributes text => answer highlighter attributes text
  | _ => return .decline

end CodeBlocks

/-- The value of a walk in which every answer is a proper one. -/
def Document.settled {α : Type} (walked : ExceptT Empty Logged α) : Logged α := do
  match ← walked.run with
  | .ok value => return value

def Document.highlight (highlighter : Highlighter) (document : Document) :
    Logged (Rebuilt Document) :=
  settled (document.walk (CodeBlocks.transformer highlighter))

end DocHighlight
