import DocHighlight.Markup.Grammar.Bash
import DocHighlight.Markup.Grammar.JavaScript
import DocHighlight.Markup.Grammar.Json
import DocHighlight.Markup.Grammar.Xml
import DocHighlight.Markup.Html

/-!
# Lexers

A lexer has a name that is shown and names under which it is looked up. Some lexers cut code into
tokens by a grammar; for the others all code is plain text. Before code is cut, a byte order mark at
its start is dropped and its line ends are made alike; in the markup, the last line ends as it ends
in the code.
-/

namespace DocHighlight.Markup

structure Lexer where
  name : String
  aliases : List String
deriving DecidableEq, Repr

/-- What a lexer cuts code by. -/
inductive Method where
  | plain
  | json
  | xml
  | javaScript
  | bash
deriving DecidableEq, Repr

namespace Method

def tokens : Method → List Char → List Token
  | .plain, code => if code.isEmpty then [] else [⟨.text, code⟩]
  | .json, code => JsonCode.scan code
  | .xml, code => XmlCode.grammar.scan code
  | .javaScript, code => JavaScriptCode.grammar.scan code
  | .bash, code => BashCode.grammar.scan code

end Method

/-- The code without a byte order mark at its start. -/
def dropMark : List Char → List Char
  | '\ufeff' :: code => code
  | code => code

/-- The code with a line feed for each line end, be it a line feed, a carriage return, or both. -/
def unifyLineEnds : List Char → List Char
  | [] => []
  | '\r' :: '\n' :: rest => '\n' :: unifyLineEnds rest
  | '\r' :: rest => '\n' :: unifyLineEnds rest
  | c :: rest => c :: unifyLineEnds rest

def endsLine (text : List Char) : Bool :=
  text.getLast? == some '\n'

/-- The markup without the line feed at its end, unless the code ends with one too. -/
def matchEnd (code markup : List Char) : List Char :=
  if !endsLine code && endsLine markup then markup.dropLast else markup

/-- The markup of code, given how code is cut into tokens. -/
def highlightBy (cut : List Char → List Token) (code : List Char) : List Char :=
  matchEnd code (renderTokens (cut (unifyLineEnds (dropMark code))))

def Method.highlight (method : Method) (code : List Char) : List Char :=
  highlightBy method.tokens code

namespace Lexer

def method (lexer : Lexer) : Method :=
  match lexer.name with
  | "JSON" => .json
  | "XML" => .xml
  | "JavaScript" => .javaScript
  | "Bash" => .bash
  | _ => .plain

def highlight (lexer : Lexer) (code : String) : String :=
  String.ofList (lexer.method.highlight code.toList)

end Lexer

end DocHighlight.Markup
