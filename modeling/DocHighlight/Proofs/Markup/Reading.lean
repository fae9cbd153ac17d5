import DocHighlight.Proofs.Coverage
import DocHighlight.Proofs.Registry
import Mathlib.Data.List.Basic

/-!
# What markup says

The markup of code says the code and nothing else. Its grammar is small. Inside and outside of spans
stand characters, of which `&`, `<` and `>` are written as entities and all others, quotes too, as
themselves. A span has classes, holds no other span and no line end, and is closed. Whoever deletes
the tags and decodes the entities gets what the markup says.

How code is cut into tokens has no influence on this, as long as the tokens together are the code.
The end needs care: the last line of markup always has an end, which is taken away again if the code
has none there.
-/

namespace DocHighlight.Markup

/-- Characters without tags, and what they say. -/
inductive SpellsText : (markup text : List Char) → Prop where
  | done : SpellsText [] []
  | ampersand {markup text : List Char} (rest : SpellsText markup text) :
      SpellsText ("&amp;".toList ++ markup) ('&' :: text)
  | less {markup text : List Char} (rest : SpellsText markup text) :
      SpellsText ("&lt;".toList ++ markup) ('<' :: text)
  | greater {markup text : List Char} (rest : SpellsText markup text) :
      SpellsText ("&gt;".toList ++ markup) ('>' :: text)
  | plain {c : Char} {markup text : List Char} (unmarked : c ∉ ['&', '<', '>'])
      (rest : SpellsText markup text) : SpellsText (c :: markup) (c :: text)

/-- Markup, and what it says. -/
inductive SpellsMarkup : (markup text : List Char) → Prop where
  | done : SpellsMarkup [] []
  | text {written said markup more : List Char} (spelled : SpellsText written said)
      (rest : SpellsMarkup markup more) : SpellsMarkup (written ++ markup) (said ++ more)
  | span {name : String} {written said markup more : List Char}
      (regular : name.toList.all isClassCharacter = true) (spelled : SpellsText written said)
      (oneLine : '\n' ∉ said) (rest : SpellsMarkup markup more) :
      SpellsMarkup
        (("<span class=\"" ++ name ++ "\">").toList ++ written ++ "</span>".toList ++ markup)
        (said ++ more)

/-- The markup without its tags, which go from a `<` to the next `>`. -/
def dropTags : (inside : Bool) → List Char → List Char
  | _, [] => []
  | true, c :: rest => dropTags (c ≠ '>') rest
  | false, c :: rest => if c = '<' then dropTags true rest else c :: dropTags false rest

/-- The text with each entity replaced by its character. -/
def decodeEntities : List Char → List Char
  | [] => []
  | '&' :: 'a' :: 'm' :: 'p' :: ';' :: rest => '&' :: decodeEntities rest
  | '&' :: 'l' :: 't' :: ';' :: rest => '<' :: decodeEntities rest
  | '&' :: 'g' :: 't' :: ';' :: rest => '>' :: decodeEntities rest
  | '&' :: 'q' :: 'u' :: 'o' :: 't' :: ';' :: rest => '"' :: decodeEntities rest
  | '&' :: '#' :: '3' :: '9' :: ';' :: rest => '\x27' :: decodeEntities rest
  | c :: rest => c :: decodeEntities rest

theorem dropTags_inside {inner : List Char} (closed : '>' ∉ inner) (rest : List Char) :
    dropTags true (inner ++ '>' :: rest) = dropTags false rest := by
  induction inner with
  | nil => simp [dropTags]
  | cons c inner ih =>
      simp only [List.mem_cons, not_or] at closed
      simp [dropTags, Ne.symm closed.1, ih closed.2]

theorem not_mem_of_regular {name : String} {c : Char}
    (regular : name.toList.all isClassCharacter = true) (other : isClassCharacter c = false) :
    c ∉ name.toList := by
  intro mem
  rw [List.all_eq_true.mp regular c mem] at other
  cases other

theorem dropTags_opening {name : String} (regular : name.toList.all isClassCharacter = true)
    (rest : List Char) :
    dropTags false (("<span class=\"" ++ name ++ "\">").toList ++ rest) = dropTags false rest := by
  have closed : '>' ∉ "span class=\"".toList ++ name.toList ++ "\"".toList := by
    simp [not_mem_of_regular regular (by decide : isClassCharacter '>' = false)]
  have skipped := dropTags_inside closed rest
  simpa [dropTags] using skipped

theorem dropTags_closing (rest : List Char) :
    dropTags false ("</span>".toList ++ rest) = dropTags false rest := by
  simp [dropTags]

theorem SpellsText.dropTags {written said : List Char} (spelled : SpellsText written said)
    (rest : List Char) :
    dropTags false (written ++ rest) = written ++ Markup.dropTags false rest := by
  induction spelled with
  | done => rfl
  | ampersand _ ih | less _ ih | greater _ ih => simp [Markup.dropTags, ih]
  | plain unmarked _ ih =>
      simp only [List.mem_cons, not_or] at unmarked
      simp [Markup.dropTags, unmarked.2.1, ih]

theorem decodeEntities_cons {c : Char} (unmarked : c ≠ '&') (rest : List Char) :
    decodeEntities (c :: rest) = c :: decodeEntities rest := by
  rw [decodeEntities] <;> simp [unmarked]

theorem SpellsText.decode {written said : List Char} (spelled : SpellsText written said)
    (rest : List Char) :
    decodeEntities (written ++ rest) = said ++ decodeEntities rest := by
  induction spelled with
  | done => rfl
  | ampersand _ ih | less _ ih | greater _ ih => simp [decodeEntities, ih]
  | plain unmarked _ ih =>
      simp only [List.mem_cons, not_or] at unmarked
      rw [List.cons_append, decodeEntities_cons unmarked.1, ih, List.cons_append]

/-- Deleting the tags and decoding the entities of markup gives what it says. -/
theorem SpellsMarkup.decode {markup said : List Char} (spelled : SpellsMarkup markup said) :
    decodeEntities (dropTags false markup) = said := by
  induction spelled with
  | done => rfl
  | text spelled _ ih => rw [spelled.dropTags, spelled.decode, ih]
  | span regular spelled _ _ ih =>
      simp only [List.append_assoc]
      rw [dropTags_opening regular, spelled.dropTags, dropTags_closing, spelled.decode, ih]

theorem spellsText_escaped (text : List Char) : SpellsText (text.flatMap escapeHtml) text := by
  induction text with
  | nil => exact .done
  | cons c text ih =>
      rw [List.flatMap_cons, escapeHtml]
      split
      · rename_i same
        rw [same]
        exact .ampersand ih
      · split
        · rename_i same
          rw [same]
          exact .less ih
        · split
          · rename_i same
            rw [same]
            exact .greater ih
          · apply SpellsText.plain _ ih
            simp_all

theorem SpellsMarkup.append {first second said more : List Char} (begins : SpellsMarkup first said)
    (follows : SpellsMarkup second more) : SpellsMarkup (first ++ second) (said ++ more) := by
  induction begins with
  | done => exact follows
  | text spelled _ ih =>
      rw [List.append_assoc, List.append_assoc]
      exact .text spelled ih
  | span regular spelled oneLine _ ih =>
      have joined := SpellsMarkup.span regular spelled oneLine ih
      simpa only [List.append_assoc] using joined

theorem SpellsText.markup {written said : List Char} (spelled : SpellsText written said) :
    SpellsMarkup written said := by
  have alone := SpellsMarkup.text spelled .done
  simpa using alone

theorem Run.spells {run : Run} (oneLine : '\n' ∉ run.text) :
    SpellsMarkup run.render run.text := by
  have escaped := spellsText_escaped run.text
  rw [render, openingTag, closingTag]
  cases found : run.kind.cssClass? with
  | none => simpa using escaped.markup
  | some name =>
      have alone := SpellsMarkup.span (Kind.cssClass?_regular found) escaped oneLine .done
      simpa using alone

theorem spells_renderLine {line : List Styled} (oneLine : '\n' ∉ line.map Prod.snd) :
    SpellsMarkup (renderLine line) (line.map Prod.snd) := by
  rw [← runs_text] at oneLine ⊢
  rw [renderLine]
  generalize runs line = pieces at oneLine ⊢
  induction pieces with
  | nil => exact .done
  | cons run others ih =>
      rw [List.flatMap_cons, List.mem_append, not_or] at oneLine
      exact (Run.spells oneLine.1).append (ih oneLine.2)

/-- No line holds a line end. -/
theorem lineFeed_not_mem_splitLines (text : List Styled) :
    (∀ line ∈ (splitLines text).1, '\n' ∉ line.map Prod.snd) ∧
      '\n' ∉ (splitLines text).2.map Prod.snd := by
  induction text with
  | nil => simp [splitLines]
  | cons first others ih =>
      rcases first with ⟨kind, c⟩
      rcases shape : splitLines others with ⟨lines, last⟩
      rw [shape] at ih
      by_cases ends : c = '\n'
      · simpa [splitLines, shape, ends] using ih
      · cases lines with
        | nil => simp_all [splitLines, Ne.symm ends]
        | cons line more => simp_all [splitLines, Ne.symm ends]

/-- Lines as markup say the lines. -/
theorem spells_lines {lines : List (List Styled)}
    (oneLine : ∀ line ∈ lines, '\n' ∉ line.map Prod.snd) :
    SpellsMarkup (lines.flatMap fun line => renderLine line ++ ['\n'])
      (lines.flatMap fun line => line.map Prod.snd ++ ['\n']) := by
  have endSpelled : SpellsMarkup ['\n'] ['\n'] := (SpellsText.plain (by decide) .done).markup
  induction lines with
  | nil => exact .done
  | cons line lines ih =>
      rcases List.forall_mem_cons.mp oneLine with ⟨here, there⟩
      rw [List.flatMap_cons, List.flatMap_cons]
      exact ((spells_renderLine here).append endSpelled).append (ih there)

/-- The text without the line end at its end, if there is one. -/
def withoutEnd (text : List Char) : List Char :=
  if endsLine text then text.dropLast else text

theorem withoutEnd_append (text : List Char) : withoutEnd (text ++ ['\n']) = text := by
  simp [withoutEnd, endsLine]

theorem withoutEnd_of_not_mem {front last : List Char} (notEmpty : last ≠ [])
    (oneLine : '\n' ∉ last) : withoutEnd (front ++ last) = front ++ last := by
  have openEnd : endsLine (front ++ last) = false := by
    rw [endsLine, List.getLast?_append, List.getLast?_eq_some_getLast notEmpty, Option.some_or,
      beq_eq_false_iff_ne]
    intro ends
    apply oneLine
    rw [← Option.some.inj ends]
    exact List.getLast_mem notEmpty
  simp [withoutEnd, openEnd]

theorem styled_text (tokens : List Token) :
    (styled tokens).map Prod.snd = tokens.flatMap Token.text := by
  simp [styled, List.map_flatMap, Function.comp_def]

/-- There is no markup for no text, and all other markup has a line end at its end. Before that it
says the text, without the line end that the text may have there. -/
theorem renderTokens_cases (tokens : List Token) :
    (tokens.flatMap Token.text = [] ∧ renderTokens tokens = []) ∨
      ∃ body, renderTokens tokens = body ++ ['\n'] ∧
        SpellsMarkup body (withoutEnd (tokens.flatMap Token.text)) := by
  rcases lineFeed_not_mem_splitLines (styled tokens) with ⟨oneLine, lastLine⟩
  have whole := splitLines_text (styled tokens)
  rw [styled_text] at whole
  rw [← whole, renderTokens]
  generalize splitLines (styled tokens) = parts at oneLine lastLine ⊢
  rcases parts with ⟨lines, last⟩
  cases last with
  | cons first others =>
      right
      refine ⟨_, (List.append_assoc ..).symm, ?_⟩
      rw [withoutEnd_of_not_mem (by simp) lastLine]
      exact (spells_lines oneLine).append (spells_renderLine lastLine)
  | nil =>
      rcases List.eq_nil_or_concat lines with rfl | ⟨front, line, rfl⟩
      · exact .inl ⟨rfl, rfl⟩
      · right
        simp only [List.concat_eq_append, List.forall_mem_append, List.forall_mem_singleton]
          at oneLine
        have said : ((front ++ [line]).flatMap fun line => line.map Prod.snd ++ ['\n']) =
            (front.flatMap fun line => line.map Prod.snd ++ ['\n']) ++ line.map Prod.snd ++
              ['\n'] := by
          simp
        refine ⟨(front.flatMap fun line => renderLine line ++ ['\n']) ++ renderLine line,
          by simp, ?_⟩
        simp only [List.concat_eq_append, List.map_nil, List.append_nil, said, withoutEnd_append]
        exact (spells_lines oneLine.1).append (spells_renderLine oneLine.2)

theorem endsLine_iff {text : List Char} : endsLine text = true ↔ text.getLast? = some '\n' := by
  simp [endsLine]

theorem getLast?_dropMark {code : List Char} {c : Char} (other : c ≠ '\ufeff') :
    (dropMark code).getLast? = some c ↔ code.getLast? = some c := by
  rw [dropMark.eq_def]
  split
  · rename_i rest
    cases rest with
    | nil => simp [Ne.symm other]
    | cons first rest => simp
  · rfl

theorem getLast?_unifyLineEnds (code : List Char) :
    (unifyLineEnds code).getLast? = code.getLast?.map fun c => if c = '\r' then '\n' else c := by
  fun_induction unifyLineEnds code with
  | case1 => rfl
  | case2 rest ih =>
      rw [List.getLast?_cons_cons, List.getLast?_cons, List.getLast?_cons, ih]
      cases rest.getLast? <;> rfl
  | case3 rest _ ih =>
      rw [List.getLast?_cons, List.getLast?_cons, ih]
      cases rest.getLast? <;> rfl
  | case4 c rest _ other ih =>
      rw [List.getLast?_cons, List.getLast?_cons, ih]
      cases rest.getLast? <;> simp_all

/-- The code that is cut into tokens ends a line if the given code ends with either character that
can end a line. -/
theorem endsLine_unifyLineEnds {code : List Char} :
    endsLine (unifyLineEnds (dropMark code)) = true ↔
      code.getLast? = some '\n' ∨ code.getLast? = some '\r' := by
  rw [endsLine_iff, getLast?_unifyLineEnds, Option.map_eq_some_iff,
    ← getLast?_dropMark (by decide : '\n' ≠ '\ufeff'),
    ← getLast?_dropMark (by decide : '\r' ≠ '\ufeff')]
  constructor
  · rintro ⟨c, last, same⟩
    split at same
    · rename_i returnChar
      rw [last, returnChar]
      exact .inr rfl
    · rw [last, same]
      exact .inl rfl
  · rintro (last | last)
    · exact ⟨_, last, rfl⟩
    · exact ⟨_, last, rfl⟩

section Highlight

variable {cut : List Char → List Token} (covers : ∀ code, (cut code).flatMap Token.text = code)

include covers

/-- The markup of code says the code that is cut into tokens, with its end matched in the same way
as that of the markup. -/
theorem spells_highlightBy (code : List Char) :
    SpellsMarkup (highlightBy cut code) (matchEnd code (unifyLineEnds (dropMark code))) := by
  have casesOf := renderTokens_cases (cut (unifyLineEnds (dropMark code)))
  rw [covers] at casesOf
  rw [highlightBy]
  rcases casesOf with ⟨noText, noMarkup⟩ | ⟨body, markup, spelled⟩
  · rw [noMarkup, noText]
    simpa [matchEnd, endsLine] using SpellsMarkup.done
  · rw [markup]
    by_cases ends : endsLine code = true
    · have textEnds := endsLine_unifyLineEnds.mpr (.inl (endsLine_iff.mp ends))
      have endSpelled : SpellsMarkup ['\n'] ['\n'] := (SpellsText.plain (by decide) .done).markup
      have terminated : withoutEnd (unifyLineEnds (dropMark code)) ++ ['\n'] =
          unifyLineEnds (dropMark code) := by
        rw [withoutEnd, if_pos textEnds]
        exact List.dropLast_append_getLast? _ (endsLine_iff.mp textEnds)
      have joined := spelled.append endSpelled
      rw [terminated] at joined
      simpa [matchEnd, ends] using joined
    · have openEnd : endsLine code = false := by simpa using ends
      simpa [matchEnd, openEnd, withoutEnd, endsLine_iff] using spelled

end Highlight

theorem unifyLineEnds_eq_self {code : List Char} (absent : '\r' ∉ code) :
    unifyLineEnds code = code := by
  fun_induction unifyLineEnds code with
  | case1 => rfl
  | case2 rest ih => simp at absent
  | case3 rest _ ih => simp at absent
  | case4 c rest _ other ih => rw [ih (List.not_mem_of_not_mem_cons absent)]

theorem dropMark_eq_self {code : List Char} (unmarked : code.head? ≠ some '\ufeff') :
    dropMark code = code := by
  rw [dropMark.eq_def]
  split
  · simp at unmarked
  · rfl

theorem matchEnd_self (code : List Char) : matchEnd code code = code := by
  simp [matchEnd]

/-- A registered language has a lexer, and the lexer has a way of cutting code. -/
theorem highlighter_of_registered {registry : Registry} {language : String}
    (registered : language ∈ registry.languages) :
    ∃ cut : List Char → List Token, (∀ code, (cut code).flatMap Token.text = code) ∧
      ∀ code : String, registry.highlighter language code =
        some (String.ofList (highlightBy cut code.toList)) := by
  rcases Registry.mem_languages_iff.mp registered with ⟨lexer, found⟩
  refine ⟨lexer.method.tokens, lexer.method.tokens_text, ?_⟩
  intro code
  rw [Registry.highlighter, found]
  rfl

/-- However code is cut into tokens, as long as they cover it, and in whatever registered language:
code without carriage returns and without a byte order mark in front is what its markup says, and
what is left of the markup when the tags are deleted and the entities decoded. -/
theorem markup_spells_code :
    (∀ cut : List Char → List Token, (∀ code, (cut code).flatMap Token.text = code) →
      ∀ code : List Char, '\r' ∉ code → code.head? ≠ some '\ufeff' →
        SpellsMarkup (highlightBy cut code) code ∧
          decodeEntities (dropTags false (highlightBy cut code)) = code) ∧
    ∀ (registry : Registry) (language : String), language ∈ registry.languages →
      ∀ code : String, '\r' ∉ code.toList → code.toList.head? ≠ some '\ufeff' →
        ∃ markup, registry.highlighter language code = some markup ∧
          SpellsMarkup markup.toList code.toList ∧
          decodeEntities (dropTags false markup.toList) = code.toList := by
  have spells : ∀ cut : List Char → List Token, (∀ code, (cut code).flatMap Token.text = code) →
      ∀ code : List Char, '\r' ∉ code → code.head? ≠ some '\ufeff' →
        SpellsMarkup (highlightBy cut code) code := by
    intro cut covers code absent unmarked
    have spelled := spells_highlightBy covers code
    rwa [dropMark_eq_self unmarked, unifyLineEnds_eq_self absent, matchEnd_self] at spelled
  constructor
  · intro cut covers code absent unmarked
    have spelled := spells cut covers code absent unmarked
    exact ⟨spelled, spelled.decode⟩
  · intro registry language registered code absent unmarked
    rcases highlighter_of_registered registered with ⟨cut, covers, highlighted⟩
    have spelled := spells cut covers code.toList absent unmarked
    refine ⟨_, highlighted code, ?_, ?_⟩
    · simpa using spelled
    · simpa using spelled.decode

/-- A registry of data. -/
def dataRegistry : Registry :=
  ⟨[("json", ⟨"JSON", ["json"]⟩)]⟩

/-- Marks that are to be escaped, over two lines and in a string. -/
def markedCode : String :=
  "\x7b\n\"<b>&\n\"\x7d\n"

theorem dataRegistry_languages : "json" ∈ dataRegistry.languages := by
  simp [Registry.mem_languages, dataRegistry, Keyed.keys]

theorem markup_spells_code_marked :
    ("json" ∈ dataRegistry.languages ∧ '\r' ∉ markedCode.toList ∧
        markedCode.toList.head? ≠ some '\ufeff') ∧
      SpellsMarkup (highlightBy JsonCode.scan markedCode.toList) markedCode.toList ∧
      ∃ markup, dataRegistry.highlighter "json" markedCode = some markup ∧
        SpellsMarkup markup.toList markedCode.toList ∧
        decodeEntities (dropTags false markup.toList) = markedCode.toList := by
  have absent : '\r' ∉ markedCode.toList := by
    decide
  have unmarked : markedCode.toList.head? ≠ some '\ufeff' := by
    decide
  exact ⟨⟨dataRegistry_languages, absent, unmarked⟩,
    (markup_spells_code.1 JsonCode.scan JsonCode.scan_text markedCode.toList absent unmarked).1,
    markup_spells_code.2 dataRegistry "json" dataRegistry_languages markedCode absent unmarked⟩

/-- Quotes are not written as entities. -/
theorem quotes_stand_as_themselves :
    "json" ∈ dataRegistry.languages ∧
      ∃ markup, dataRegistry.highlighter "json" "\"a\"" = some markup ∧
        dropTags false markup.toList = ['"', 'a', '"'] := by
  refine ⟨dataRegistry_languages, _, rfl, ?_⟩
  decide +kernel

end DocHighlight.Markup
