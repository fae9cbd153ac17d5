import DocHighlight.Json.Value
import DocHighlight.Keyed

/-!
# JSON text in

The reader is an automaton over characters. Its state holds the containers that are open and what is
due next; each character takes it to the next state or to the cause of a failure, and the end of the
text either completes a value or is a failure itself. A failure is reported at the place of the
character that caused it, which is computed from the text before it: lines are counted by line ends,
columns in bytes.

Beyond the standard grammar the numbers `NaN`, `Infinity` and `-Infinity` are read. A reader keeps
to limits: how many digits an integer part may have, and in how many containers a value may stand.
-/

namespace DocHighlight.Json

/-- Why a text is no JSON text. -/
inductive Cause where
  | endInValue
  | endInList
  | endInObject
  | endInString
  | valueExpected
  | identifierExpected
  | trailingComma
  | commaOrBracketExpected
  | commaOrBraceExpected
  | colonExpected
  | keyExpected
  | trailingCharacters
  | invalidNumber
  | numberOutOfRange
  | controlCharacter
  | invalidEscape
  | loneSurrogate
  | endOfEscape
  | tooDeep
deriving DecidableEq, Repr

def Cause.message : Cause → String
  | .endInValue => "EOF while parsing a value"
  | .endInList => "EOF while parsing a list"
  | .endInObject => "EOF while parsing an object"
  | .endInString => "EOF while parsing a string"
  | .valueExpected => "expected value"
  | .identifierExpected => "expected ident"
  | .trailingComma => "trailing comma"
  | .commaOrBracketExpected => "expected \x60,\x60 or \x60]\x60"
  | .commaOrBraceExpected => "expected \x60,\x60 or \x60\x7d\x60"
  | .colonExpected => "expected \x60:\x60"
  | .keyExpected => "key must be a string"
  | .trailingCharacters => "trailing characters"
  | .invalidNumber => "invalid number"
  | .numberOutOfRange => "number out of range"
  | .controlCharacter => "control character (\\u0000-\\u001F) found while parsing a string"
  | .invalidEscape => "invalid escape"
  | .loneSurrogate => "lone leading surrogate in hex escape"
  | .endOfEscape => "unexpected end of hex escape"
  | .tooDeep => "recursion limit exceeded"

/-- What a reader takes at most: the digits of an integer part, the containers around a value. -/
structure Limits where
  digits : Nat
  depth : Nat
deriving DecidableEq, Repr

/-- The limits within which documents are read. -/
def Limits.standard : Limits where
  digits := 4300
  depth := 200

/-- A container whose next element, or the value of whose next member, is being read; what it holds
already stands in it, the elements of an array with the last one first. -/
inductive Frame where
  | array (before : List Json)
  | object (before : List (String × Json)) (key : String)

/-- A number so far: its sign, the value and count of its digits before the point, how many of the
digits come after the point, and the exponent. -/
structure Numeral where
  negative : Bool
  digits : Nat
  count : Nat
  decimals : Nat
  exponentNegative : Bool
  exponent : Nat

/-- Where in a number the reader stands. -/
inductive NumberPart where
  | sign
  | zero
  | whole
  | point
  | fraction
  | exponentMark
  | exponentSign
  | exponentDigits
deriving DecidableEq

/-- Where in a string the reader stands. In a hexadecimal escape: its value so far and the number of
digits still due, and the high surrogate before it if there is one. -/
inductive StringPart where
  | plain
  | escape
  | hex (high : Option Nat) (value : Nat) (due : Nat)
  | surrogate (high : Nat)
  | surrogateEscape (high : Nat)

/-- What a string stands for: a value, or the next key of the object with the given members. -/
inductive StringRole where
  | value
  | key (before : List (String × Json))

/-- What is due next. -/
inductive Mode where
  | value
  | element (before : List Json)
  | afterElement (before : List Json)
  | key (before : List (String × Json))
  | colon (before : List (String × Json)) (key : String)
  | afterMember (before : List (String × Json))
  | word (value : Json) (rest : List Char)
  | string (role : StringRole) (part : StringPart) (done : List Char)
  | number (part : NumberPart) (numeral : Numeral)
  | finished (value : Json)

/-- The state of the reader: the open containers around, innermost first, and what is due. In the
modes that read a container's elements or keys that container is part of the mode. -/
structure State where
  frames : List Frame
  mode : Mode

def State.initial : State :=
  ⟨[], .value⟩

/-- White space between the parts of a text. -/
def isSpace (c : Char) : Bool :=
  c = ' ' || c = '\t' || c = '\n' || c = '\r'

/-- The value of a decimal digit. -/
def digit? (c : Char) : Option Nat :=
  if '0' ≤ c ∧ c ≤ '9' then some (c.toNat - '0'.toNat) else none

/-- The value of a hexadecimal digit. -/
def hexDigit? (c : Char) : Option Nat :=
  if '0' ≤ c ∧ c ≤ '9' then some (c.toNat - '0'.toNat)
  else if 'a' ≤ c ∧ c ≤ 'f' then some (c.toNat - 'a'.toNat + 10)
  else if 'A' ≤ c ∧ c ≤ 'F' then some (c.toNat - 'A'.toNat + 10)
  else none

/-- The character of an escape by a letter. -/
def letterEscape? : Char → Option Char
  | '"' => some '"'
  | '\\' => some '\\'
  | '/' => some '/'
  | 'b' => some '\x08'
  | 'f' => some '\x0c'
  | 'n' => some '\n'
  | 'r' => some '\r'
  | 't' => some '\t'
  | _ => none

/-- The state after a complete value: the innermost open container takes it. -/
def deliver : List Frame → Json → State
  | [], value => ⟨[], .finished value⟩
  | .array before :: frames, value => ⟨frames, .afterElement (value :: before)⟩
  | .object before key :: frames, value => ⟨frames, .afterMember (Keyed.put before key value)⟩

/-- The state after the closing quote of a string. -/
def deliverString (frames : List Frame) (role : StringRole) (done : List Char) : State :=
  let text := String.ofList done.reverse
  match role with
  | .value => deliver frames (.string text)
  | .key before => ⟨frames, .colon before text⟩

/-- The value of a complete number: an integer if its text has neither a point nor an exponent. -/
def Numeral.value (numeral : Numeral) : NumberPart → Json
  | .zero | .whole => .integer (if numeral.negative then -numeral.digits else numeral.digits)
  | _ =>
      let exponent : Int := if numeral.exponentNegative then -numeral.exponent else numeral.exponent
      .float (.ofDecimal numeral.negative numeral.digits (exponent - numeral.decimals))

/-- Whether a number may end here. -/
def NumberPart.isComplete : NumberPart → Bool
  | .zero | .whole | .fraction | .exponentDigits => true
  | .sign | .point | .exponentMark | .exponentSign => false

/-- The number before its first digit. -/
def Numeral.start (negative : Bool) : Numeral :=
  ⟨negative, 0, 0, 0, false, 0⟩

section Steps

variable (limits : Limits)

/-- Takes the first character of a value; `frames` are all containers open around it. -/
def beginValue (frames : List Frame) (c : Char) : Except Cause State :=
  if limits.depth < frames.length then .error .tooDeep
  else
    match c with
    | '[' => .ok ⟨frames, .element []⟩
    | '\x7b' => .ok ⟨frames, .key []⟩
    | '"' => .ok ⟨frames, .string .value .plain []⟩
    | 'n' => .ok ⟨frames, .word .null ['u', 'l', 'l']⟩
    | 't' => .ok ⟨frames, .word (.bool true) ['r', 'u', 'e']⟩
    | 'f' => .ok ⟨frames, .word (.bool false) ['a', 'l', 's', 'e']⟩
    | 'N' => .ok ⟨frames, .word (.float .nan) ['a', 'N']⟩
    | 'I' => .ok ⟨frames, .word (.float (.infinite false)) ['n', 'f', 'i', 'n', 'i', 't', 'y']⟩
    | '-' => .ok ⟨frames, .number .sign (.start true)⟩
    | '0' => .ok ⟨frames, .number .zero ⟨false, 0, 1, 0, false, 0⟩⟩
    | _ =>
        match digit? c with
        | some value => .ok ⟨frames, .number .whole ⟨false, value, 1, 0, false, 0⟩⟩
        | none => .error .valueExpected

/-- Takes a character between the parts of a text. -/
def stepBetween (frames : List Frame) (mode : Mode) (c : Char) : Except Cause State :=
  if isSpace c then .ok ⟨frames, mode⟩
  else
    match mode with
    | .value => beginValue limits frames c
    | .element before =>
        if c = ']' then
          if before.isEmpty then .ok (deliver frames (.array [])) else .error .trailingComma
        else beginValue limits (.array before :: frames) c
    | .afterElement before =>
        if c = ',' then .ok ⟨frames, .element before⟩
        else if c = ']' then .ok (deliver frames (.array before.reverse))
        else .error .commaOrBracketExpected
    | .key before =>
        if c = '"' then .ok ⟨frames, .string (.key before) .plain []⟩
        else if c = '\x7d' then
          if before.isEmpty then .ok (deliver frames (.object [])) else .error .trailingComma
        else .error .keyExpected
    | .colon before key =>
        if c = ':' then .ok ⟨.object before key :: frames, .value⟩ else .error .colonExpected
    | .afterMember before =>
        if c = ',' then .ok ⟨frames, .key before⟩
        else if c = '\x7d' then .ok (deliver frames (.object before))
        else .error .commaOrBraceExpected
    | _ => .error .trailingCharacters

/-- Takes a character of a string. -/
def stepString (frames : List Frame) (role : StringRole) (part : StringPart) (done : List Char)
    (c : Char) : Except Cause State :=
  match part with
  | .plain =>
      if c = '"' then .ok (deliverString frames role done)
      else if c = '\\' then .ok ⟨frames, .string role .escape done⟩
      else if c.toNat < 0x20 then .error .controlCharacter
      else .ok ⟨frames, .string role .plain (c :: done)⟩
  | .escape =>
      if c = 'u' then .ok ⟨frames, .string role (.hex none 0 4) done⟩
      else
        match letterEscape? c with
        | some character => .ok ⟨frames, .string role .plain (character :: done)⟩
        | none => .error .invalidEscape
  | .hex high value due =>
      match hexDigit? c with
      | none => .error .invalidEscape
      | some digit =>
          let value := value * 16 + digit
          if 1 < due then .ok ⟨frames, .string role (.hex high value (due - 1)) done⟩
          else
            match high with
            | none =>
                if 0xDC00 ≤ value ∧ value ≤ 0xDFFF then .error .loneSurrogate
                else if 0xD800 ≤ value ∧ value ≤ 0xDBFF then
                  .ok ⟨frames, .string role (.surrogate value) done⟩
                else .ok ⟨frames, .string role .plain (Char.ofNat value :: done)⟩
            | some high =>
                if 0xDC00 ≤ value ∧ value ≤ 0xDFFF then
                  let code := 0x10000 + (high - 0xD800) * 0x400 + (value - 0xDC00)
                  .ok ⟨frames, .string role .plain (Char.ofNat code :: done)⟩
                else .error .loneSurrogate
  | .surrogate high =>
      if c = '\\' then .ok ⟨frames, .string role (.surrogateEscape high) done⟩
      else .error .endOfEscape
  | .surrogateEscape high =>
      if c = 'u' then .ok ⟨frames, .string role (.hex (some high) 0 4) done⟩
      else .error .endOfEscape

/-- Takes the character after the end of a number. -/
def endNumber (frames : List Frame) (part : NumberPart) (numeral : Numeral) (c : Char) :
    Except Cause State :=
  let after := deliver frames (numeral.value part)
  stepBetween limits after.frames after.mode c

/-- Takes a character where a point, an exponent or the end of a number may follow. -/
def stepAfterDigits (frames : List Frame) (part : NumberPart) (numeral : Numeral) (c : Char) :
    Except Cause State :=
  if c = '.' && part ≠ .fraction then .ok ⟨frames, .number .point numeral⟩
  else if c = 'e' || c = 'E' then .ok ⟨frames, .number .exponentMark numeral⟩
  else endNumber limits frames part numeral c

/-- Takes a character of a number, or the one after it. -/
@[simp]
def stepNumber (frames : List Frame) (part : NumberPart) (numeral : Numeral) (c : Char) :
    Except Cause State :=
  match part, digit? c with
  | .sign, some 0 => .ok ⟨frames, .number .zero { numeral with count := 1 }⟩
  | .sign, some digit => .ok ⟨frames, .number .whole { numeral with digits := digit, count := 1 }⟩
  | .sign, none =>
      if c = 'I' then
        .ok ⟨frames, .word (.float (.infinite true)) ['n', 'f', 'i', 'n', 'i', 't', 'y']⟩
      else .error .invalidNumber
  | .zero, some _ => .error .invalidNumber
  | .zero, none => stepAfterDigits limits frames .zero numeral c
  | .whole, some digit =>
      if numeral.count < limits.digits then
        let numeral :=
          { numeral with digits := numeral.digits * 10 + digit, count := numeral.count + 1 }
        .ok ⟨frames, .number .whole numeral⟩
      else .error .numberOutOfRange
  | .whole, none => stepAfterDigits limits frames .whole numeral c
  | .point, some digit | .fraction, some digit =>
      let numeral :=
        { numeral with digits := numeral.digits * 10 + digit, decimals := numeral.decimals + 1 }
      .ok ⟨frames, .number .fraction numeral⟩
  | .fraction, none => stepAfterDigits limits frames .fraction numeral c
  | .exponentMark, some digit | .exponentSign, some digit | .exponentDigits, some digit =>
      .ok
        ⟨frames, .number .exponentDigits { numeral with exponent := numeral.exponent * 10 + digit }⟩
  | .exponentMark, none =>
      if c = '+' then .ok ⟨frames, .number .exponentSign numeral⟩
      else if c = '-' then
        .ok ⟨frames, .number .exponentSign { numeral with exponentNegative := true }⟩
      else .error .invalidNumber
  | .exponentDigits, none => endNumber limits frames .exponentDigits numeral c
  | .point, none | .exponentSign, none => .error .invalidNumber

def step (state : State) (c : Char) : Except Cause State :=
  match state.mode with
  | .string role part done => stepString state.frames role part done c
  | .number part numeral => stepNumber limits state.frames part numeral c
  | .word value (due :: rest) =>
      if c ≠ due then .error .identifierExpected
      else if rest.isEmpty then .ok (deliver state.frames value)
      else .ok ⟨state.frames, .word value rest⟩
  | mode => stepBetween limits state.frames mode c

end Steps

/-- The value at the end of the text, if nothing is missing. -/
def finish (state : State) : Except Cause Json :=
  match state.mode with
  | .value | .word .. => .error .endInValue
  | .element before => .error (if before.isEmpty then .endInList else .endInValue)
  | .afterElement _ => .error .endInList
  | .key before => .error (if before.isEmpty then .endInObject else .endInValue)
  | .colon .. | .afterMember _ => .error .endInObject
  | .string .. => .error .endInString
  | .number part numeral =>
      if part.isComplete then
        match (deliver state.frames (numeral.value part)).mode with
        | .finished value => .ok value
        | .afterElement _ => .error .endInList
        | _ => .error .endInObject
      else .error .endInValue
  | .finished value => .ok value

/-- A failure: its cause and the text from the place that it is reported at on. -/
structure Failure where
  cause : Cause
  rest : List Char

def byteLength (text : List Char) : Nat :=
  text.foldr (fun c total => c.utf8Size + total) 0

/-- Whether a text ends before the hexadecimal escape that is being read could end. -/
def Mode.outlasts : Mode → List Char → Bool
  | .string _ (.hex _ _ due) _, text => byteLength text < due
  | _, _ => false

/-- The failure that a character brings about. Too many digits are reported at the place after the
first one that is too many, and an escape for which the text is too short at the end of the text. -/
def Failure.ofStep (mode : Mode) (cause : Cause) (c : Char) (rest : List Char) : Failure :=
  if cause = .numberOutOfRange then ⟨cause, rest⟩
  else if mode.outlasts (c :: rest) then ⟨.endInString, []⟩
  else ⟨cause, c :: rest⟩

/-- Takes all characters of a text. -/
def run (limits : Limits) (state : State) : List Char → Except Failure Json
  | [] => (finish state).mapError fun cause => ⟨cause, []⟩
  | c :: rest =>
      match step limits state c with
      | .ok next => run limits next rest
      | .error cause => .error (.ofStep state.mode cause c rest)

/-- A place in a text: its line, from one, and its column, in bytes. -/
structure Location where
  line : Nat
  column : Nat
deriving DecidableEq, Repr

/-- The place after a character. -/
def Location.after (location : Location) (c : Char) : Location :=
  if c = '\n' then ⟨location.line + 1, 0⟩ else ⟨location.line, location.column + c.utf8Size⟩

/-- The place of a failure: that of the first byte of the character it is reported at, or the end of
the text. -/
def Failure.location (failure : Failure) (text : List Char) : Location :=
  let before := text.take (text.length - failure.rest.length)
  let start := before.foldl Location.after ⟨1, 0⟩
  match failure.rest with
  | [] => start
  | c :: _ => if c = '\n' then start.after c else ⟨start.line, start.column + 1⟩

/-- A text that is no JSON text: why, and where. -/
structure SyntaxFault where
  cause : Cause
  location : Location
deriving DecidableEq, Repr

def SyntaxFault.message (fault : SyntaxFault) : String :=
  "Invalid JSON: " ++ fault.cause.message ++ " at line " ++ toString fault.location.line ++
    " column " ++ toString fault.location.column

/-- Reads a text that holds one value and nothing else but white space, within limits. -/
def parseWithin (limits : Limits) (text : List Char) : Except SyntaxFault Json :=
  (run limits .initial text).mapError fun failure => ⟨failure.cause, failure.location text⟩

/-- Reads a text within the limits for documents. -/
def parse (text : List Char) : Except SyntaxFault Json :=
  parseWithin .standard text

end DocHighlight.Json
