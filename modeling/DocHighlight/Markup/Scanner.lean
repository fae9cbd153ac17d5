import DocHighlight.Markup.Pattern
import DocHighlight.Markup.Token

/-!
# Scanning by rules

A grammar has states, and for each state rules that are tried in order at the current place. A rule
has parts, each of which becomes a token, and says how the stack of states changes. Where no rule
fits, a line end brings the scanner back to its first state, and any other character is an error by
itself. The tokens are cut off the text one after the other, so together they are the text.

A rule may fit without taking a character, just to change the state. After too many of those in a
row no rule is tried any more, which no grammar here gets to. At the end of the text nothing is left
to be cut off.
-/

namespace DocHighlight.Markup

/-- A change of the stack of states. Popping leaves the last state on it. -/
inductive Move (State : Type) where
  | push (state : State)
  | pop

/-- What a rule matches, as parts with their kinds, and what it does to the stack. -/
structure Rule (State : Type) where
  parts : List (Kind × Pattern)
  moves : List (Move State)

namespace Rule

variable {State : Type}

/-- A rule with one part that leaves the stack as it is. -/
def token (kind : Kind) (pattern : Pattern) : Rule State :=
  ⟨[(kind, pattern)], []⟩

/-- A rule with one part that enters a state. -/
def enter (kind : Kind) (pattern : Pattern) (state : State) : Rule State :=
  ⟨[(kind, pattern)], [.push state]⟩

/-- A rule with one part that leaves the current state. -/
def leave (kind : Kind) (pattern : Pattern) : Rule State :=
  ⟨[(kind, pattern)], [.pop]⟩

/-- How many characters the parts take, if they all fit. -/
def lengths? : List (Kind × Pattern) → Cursor → Option (List Nat)
  | [], _ => some []
  | (_, pattern) :: others, cursor =>
      pattern.run cursor fun after =>
        (lengths? others after).map ((after.taken - cursor.taken) :: ·)

end Rule

/-- Cuts pieces of given lengths off a text; the kinds name the pieces. Empty pieces are left out.
-/
def cutTokens : List Kind → List Nat → List Char → List Token
  | kind :: kinds, length :: lengths, text =>
      let others := cutTokens kinds lengths (text.drop length)
      match text.take length with
      | [] => others
      | piece => ⟨kind, piece⟩ :: others
  | _, _, _ => []

/-- The states of the scanner: the current one, and those below it. -/
structure StateStack (State : Type) where
  top : State
  below : List State

namespace StateStack

variable {State : Type}

/-- The stack after one change. -/
def move (stack : StateStack State) : Move State → StateStack State
  | .push state => ⟨state, stack.top :: stack.below⟩
  | .pop =>
      match stack.below with
      | [] => stack
      | next :: others => ⟨next, others⟩

/-- The stack after several changes. -/
def moveAll (stack : StateStack State) (moves : List (Move State)) : StateStack State :=
  moves.foldl move stack

end StateStack

/-- What a rule that fits brings about: the pieces it takes, how many characters these are, and its
moves. -/
structure Match (State : Type) where
  kinds : List Kind
  lengths : List Nat
  moves : List (Move State)

def Match.length {State : Type} (found : Match State) : Nat :=
  found.lengths.foldr (· + ·) 0

def firstMatch {State : Type} (rules : List (Rule State)) (cursor : Cursor) :
    Option (Match State) :=
  rules.findSome? fun rule =>
    (Rule.lengths? rule.parts cursor).map fun lengths =>
      ⟨rule.parts.map Prod.fst, lengths, rule.moves⟩

/-- A grammar: its first state, and the rules of each state. -/
structure Grammar (State : Type) where
  start : State
  rules : State → List (Rule State)

namespace Grammar

variable {State : Type}

/-- How many rules in a row may fit without taking a character. -/
def idleLimit : Nat :=
  8

/-- Tries rules at a place until one takes characters or none fits; a rule that takes none only
changes the stack. The first argument bounds how often that may happen. -/
def settle (grammar : Grammar State) (cursor : Cursor) :
    Nat → StateStack State → StateStack State × Option (Match State)
  | 0, stack => (stack, none)
  | idle + 1, stack =>
      match firstMatch (grammar.rules stack.top) cursor with
      | none => (stack, none)
      | some found =>
          let stack := stack.moveAll found.moves
          if found.length = 0 then grammar.settle cursor idle stack else (stack, some found)

/-- What a character is by itself, and the stack after it. -/
def unmatched (grammar : Grammar State) (stack : StateStack State) (c : Char) :
    Kind × StateStack State :=
  if c = '\n' then (.whitespace, ⟨grammar.start, []⟩) else (.error, stack)

/-- The tokens from a place on. -/
def scanFrom (grammar : Grammar State) (stack : StateStack State) (behind ahead : List Char) :
    List Token :=
  match ahead with
  | [] => []
  | c :: rest =>
      match grammar.settle (.start behind (c :: rest)) idleLimit stack with
      | (stack, none) =>
          match grammar.unmatched stack c with
          | (kind, stack) => ⟨kind, [c]⟩ :: grammar.scanFrom stack (c :: behind) rest
      | (stack, some found) =>
          let further := found.length - 1
          cutTokens found.kinds found.lengths (c :: rest) ++
            grammar.scanFrom stack ((rest.take further).reverse ++ c :: behind) (rest.drop further)
termination_by ahead.length
decreasing_by
  · exact Nat.lt_succ_self rest.length
  · rw [List.length_drop]
    exact Nat.lt_succ_of_le (Nat.sub_le rest.length _)

def scan (grammar : Grammar State) (text : List Char) : List Token :=
  grammar.scanFrom ⟨grammar.start, []⟩ [] text

end Grammar

end DocHighlight.Markup
