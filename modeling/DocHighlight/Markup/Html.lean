import DocHighlight.Markup.Token

/-!
# Tokens as HTML

The markup of a sequence of tokens. Each character carries its kind; the characters are cut into
lines, and in each line the runs of one kind become spans, so no span crosses a line end. Every line
is ended by a line end, the last one too unless it is empty.
-/

namespace DocHighlight.Markup

/-- A character with its kind. -/
abbrev Styled : Type :=
  Kind × Char

/-- The characters of tokens, each with its kind. -/
def styled (tokens : List Token) : List Styled :=
  tokens.flatMap fun token => token.text.map fun c => (token.kind, c)

/-- A character as it stands in HTML text. -/
def escapeHtml (c : Char) : List Char :=
  if c = '&' then "&amp;".toList
  else if c = '<' then "&lt;".toList
  else if c = '>' then "&gt;".toList
  else [c]

/-- A run of characters of one kind. -/
structure Run where
  kind : Kind
  text : List Char
deriving DecidableEq, Repr

/-- The maximal runs of one kind. -/
def runs : List Styled → List Run
  | [] => []
  | (kind, c) :: others =>
      match runs others with
      | [] => [⟨kind, [c]⟩]
      | run :: more =>
          if run.kind = kind then ⟨kind, c :: run.text⟩ :: more else ⟨kind, [c]⟩ :: run :: more

/-- The runs hold the characters of the line, in order. -/
theorem runs_text (line : List Styled) : (runs line).flatMap Run.text = line.map Prod.snd := by
  induction line with
  | nil => rfl
  | cons first others ih =>
      simp only [runs]
      split
      · rename_i empty
        simp [empty] at ih
        simp [← ih]
      · rename_i run more shape
        rw [shape] at ih
        split <;> simp [← ih]

/-- What stands in front of the text of a kind. -/
def openingTag (kind : Kind) : List Char :=
  match kind.cssClass? with
  | none => []
  | some name => ("<span class=\"" ++ name ++ "\">").toList

/-- What stands behind the text of a kind. -/
def closingTag (kind : Kind) : List Char :=
  match kind.cssClass? with
  | none => []
  | some _ => "</span>".toList

def Run.render (run : Run) : List Char :=
  openingTag run.kind ++ run.text.flatMap escapeHtml ++ closingTag run.kind

/-- The markup of one line, without its end. -/
def renderLine (line : List Styled) : List Char :=
  (runs line).flatMap Run.render

/-- Cuts at the line ends: the first line without its end, and the lines after it if there was an
end. -/
def splitLines : List Styled → List (List Styled) × List Styled
  | [] => ([], [])
  | (kind, c) :: others =>
      match splitLines others with
      | (lines, last) =>
          if c = '\n' then ([] :: lines, last)
          else
            match lines with
            | [] => ([], (kind, c) :: last)
            | first :: more => (((kind, c) :: first) :: more, last)

/-- The lines, each with its end, and the rest hold the characters of the text, in order. -/
theorem splitLines_text (text : List Styled) :
    (splitLines text).1.flatMap (fun line => line.map Prod.snd ++ ['\n']) ++
      (splitLines text).2.map Prod.snd = text.map Prod.snd := by
  induction text with
  | nil => rfl
  | cons first others ih =>
      rcases first with ⟨kind, c⟩
      rcases shape : splitLines others with ⟨lines, last⟩
      rw [shape] at ih
      by_cases ends : c = '\n'
      · simp [splitLines, shape, ends, ← ih]
      · cases lines with
        | nil => simp_all [splitLines]
        | cons line more => simp [splitLines, shape, ends, ← ih]

def renderTokens (tokens : List Token) : List Char :=
  match splitLines (styled tokens) with
  | (lines, last) =>
      lines.flatMap (fun line => renderLine line ++ ['\n']) ++
        if last.isEmpty then [] else renderLine last ++ ['\n']

end DocHighlight.Markup
