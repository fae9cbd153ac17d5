import DocHighlight.Text.Blank
import DocHighlight.Text.Category

/-!
# Patterns

Patterns over text with choice in order, greedy and lazy repetition, assertions about the place, and
a memory for one piece of text. A pattern is matched at a place by trying its ways one after the
other; what follows it is handed in as a continuation, so that a way is given up when nothing that
follows fits. A repetition has at most as many rounds as characters are left, since every round
takes one at least.
-/

namespace DocHighlight.Markup

/-- A place in a text: the characters before it, nearest first, those after it, how many characters
were taken to get there, and the remembered text. -/
structure Cursor where
  behind : List Char
  ahead : List Char
  taken : Nat
  memory : List Char

inductive Pattern where
  | empty
  | char (accepts : Char → Bool)
  | sequence (first second : Pattern)
  | choice (first second : Pattern)
  | many (body : Pattern)
  | few (body : Pattern)
  | remember (body : Pattern)
  | remembered
  | assert (holds : Cursor → Bool)

namespace Cursor

/-- The place between two parts of a text, before anything is taken. -/
def start (behind ahead : List Char) : Cursor :=
  ⟨behind, ahead, 0, []⟩

/-- The place after the next character, if it is a fitting one. -/
def next? (accepts : Char → Bool) (cursor : Cursor) : Option Cursor :=
  match cursor.ahead with
  | [] => none
  | c :: ahead =>
      if accepts c then some ⟨c :: cursor.behind, ahead, cursor.taken + 1, cursor.memory⟩ else none

/-- The place after a given text, if it comes next. -/
def skip? : List Char → Cursor → Option Cursor
  | [], cursor => some cursor
  | due :: rest, cursor => (cursor.next? (· == due)).bind (skip? rest)

/-- The text from one place to a later one. -/
def upTo (start stop : Cursor) : List Char :=
  start.ahead.take (stop.taken - start.taken)

end Cursor

/-- Rounds of a step, as many as possible first, but no more than the bound has characters. -/
def manyRounds {α : Type} (step : Cursor → (Cursor → Option α) → Option α) :
    List Char → Cursor → (Cursor → Option α) → Option α
  | [], cursor, next => next cursor
  | _ :: bound, cursor, next =>
      match step cursor fun after => manyRounds step bound after next with
      | some result => some result
      | none => next cursor

/-- Rounds of a step, as few as possible first, but no more than the bound has characters. -/
def fewRounds {α : Type} (step : Cursor → (Cursor → Option α) → Option α) :
    List Char → Cursor → (Cursor → Option α) → Option α
  | [], cursor, next => next cursor
  | _ :: bound, cursor, next =>
      match next cursor with
      | some result => some result
      | none => step cursor fun after => fewRounds step bound after next

namespace Pattern

/-- Matches a pattern at a place and goes on with what follows it; the first way in which both fit
gives the result. -/
def run {α : Type} : Pattern → Cursor → (Cursor → Option α) → Option α
  | .empty, cursor, next => next cursor
  | .char accepts, cursor, next => (cursor.next? accepts).bind next
  | .sequence first second, cursor, next => first.run cursor fun middle => second.run middle next
  | .choice first second, cursor, next =>
      match first.run cursor next with
      | some result => some result
      | none => second.run cursor next
  | .many body, cursor, next =>
      manyRounds (fun place rest => body.run place rest) cursor.ahead cursor next
  | .few body, cursor, next =>
      fewRounds (fun place rest => body.run place rest) cursor.ahead cursor next
  | .remember body, cursor, next =>
      body.run cursor fun after => next { after with memory := cursor.upTo after }
  | .remembered, cursor, next => (cursor.skip? cursor.memory).bind next
  | .assert holds, cursor, next => if holds cursor then next cursor else none

/-- Whether a pattern fits at a place. -/
def fits (pattern : Pattern) (cursor : Cursor) : Bool :=
  (pattern.run cursor some).isSome

def all : List Pattern → Pattern
  | [] => .empty
  | [last] => last
  | first :: others => .sequence first (all others)

/-- The first of several patterns that fits. -/
def oneOf : List Pattern → Pattern
  | [] => .assert fun _ => false
  | [last] => last
  | first :: others => .choice first (oneOf others)

/-- A pattern once or more, as often as possible. -/
def some1 (body : Pattern) : Pattern :=
  .sequence body (.many body)

/-- A pattern once or more, as rarely as possible. -/
def few1 (body : Pattern) : Pattern :=
  .sequence body (.few body)

/-- A pattern once or not at all, once if possible. -/
def opt (body : Pattern) : Pattern :=
  .choice body .empty

def text (text : String) : Pattern :=
  all (text.toList.map fun due => .char (· == due))

/-- One of several given texts, the first of them that leads on. -/
def texts (texts : List String) : Pattern :=
  oneOf (texts.map text)

def any : Pattern :=
  .char fun _ => true

/-- Any character but a line end. -/
def inLine : Pattern :=
  .char (· != '\n')

/-- A character among the given ones. -/
def among (allowed : String) : Pattern :=
  let characters := allowed.toList
  .char fun c => characters.contains c

/-- A character that is not among the given ones. -/
def notAmong (refused : String) : Pattern :=
  let characters := refused.toList
  .char fun c => !characters.contains c

/-- A white-space character. -/
def blank : Pattern :=
  .char Text.isBlank

def word : Pattern :=
  .char Text.isWord

/-- A decimal digit of any script. -/
def decimal : Pattern :=
  .char Text.isDecimal

def digit : Pattern :=
  .char Text.isAsciiDigit

def hexDigit : Pattern :=
  .char Text.isHexDigit

def octalDigit : Pattern :=
  .char fun c => '0' ≤ c && c ≤ '7'

/-- A letter of ASCII or the low line. -/
def nameStart : Pattern :=
  .char fun c => Text.isAsciiLetter c || c == '_'

/-- The place before something that fits a pattern. -/
def before (pattern : Pattern) : Pattern :=
  .assert pattern.fits

/-- The place before something that does not fit a pattern. -/
def notBefore (pattern : Pattern) : Pattern :=
  .assert fun cursor => !pattern.fits cursor

/-- Whether the first character is one of a word. -/
def startsInWord : List Char → Bool
  | [] => false
  | c :: _ => Text.isWord c

/-- The place between a character of a word and what is none. -/
def wordBoundary : Pattern :=
  .assert fun cursor => startsInWord cursor.behind != startsInWord cursor.ahead

/-- A place that is not at the border of a word. -/
def noWordBoundary : Pattern :=
  .assert fun cursor => startsInWord cursor.behind == startsInWord cursor.ahead

def textStart : Pattern :=
  .assert fun cursor => cursor.behind.isEmpty

def lineStart : Pattern :=
  .assert fun cursor => cursor.behind.isEmpty || cursor.behind.head? == some '\n'

def lineEnd : Pattern :=
  .assert fun cursor => cursor.ahead.isEmpty || cursor.ahead.head? == some '\n'

end Pattern

end DocHighlight.Markup
