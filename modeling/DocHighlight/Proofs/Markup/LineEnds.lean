import DocHighlight.Proofs.Markup.Reading

/-!
# Line ends in markup

A line of code ends with a line feed, with a carriage return, or with both. In markup each line ends
with a line feed, and there are as many of them as lines of code end, with one exception. Whether
the end of the last line is kept depends on the code as it was given: only a line feed there makes
it stay. So a carriage return at the very end of code is lost, although it ends a line like others.
-/

namespace DocHighlight.Markup

/-- How many lines end in code. -/
def lineEnds : List Char → Nat
  | [] => 0
  | '\r' :: '\n' :: rest => lineEnds rest + 1
  | '\r' :: rest => lineEnds rest + 1
  | '\n' :: rest => lineEnds rest + 1
  | _ :: rest => lineEnds rest

theorem lineEnds_cons_of_ne {c : Char} (notReturn : c ≠ '\r') (rest : List Char) :
    lineEnds (c :: rest) = lineEnds rest + if c = '\n' then 1 else 0 := by
  by_cases feed : c = '\n'
  · rw [feed]
    rfl
  · rw [lineEnds] <;> simp [notReturn, feed]

theorem count_unifyLineEnds (code : List Char) :
    (unifyLineEnds code).count '\n' = lineEnds code := by
  fun_induction unifyLineEnds code with
  | case1 => rfl
  | case2 rest ih => rw [List.count_cons_self, ih, lineEnds]
  | case3 rest alone ih => rw [List.count_cons_self, ih, lineEnds]; simpa using alone
  | case4 c rest _ other ih =>
      rw [lineEnds_cons_of_ne (by simpa using other), List.count_cons, ih]
      simp

/-- A byte order mark ends no line. -/
theorem lineEnds_dropMark (code : List Char) : lineEnds (dropMark code) = lineEnds code := by
  rw [dropMark.eq_def]
  split
  · rw [lineEnds_cons_of_ne (by decide)]
    rfl
  · rfl

theorem SpellsText.count {written said : List Char} (spelled : SpellsText written said) :
    written.count '\n' = said.count '\n' := by
  induction spelled with
  | done => rfl
  | ampersand _ ih | less _ ih | greater _ ih => simpa [List.count_cons] using ih
  | plain _ _ ih => rw [List.count_cons, List.count_cons, ih]

theorem lineFeed_not_mem_opening {name : String}
    (regular : name.toList.all isClassCharacter = true) :
    '\n' ∉ ("<span class=\"" ++ name ++ "\">").toList := by
  simp [not_mem_of_regular regular (by decide : isClassCharacter '\n' = false)]

/-- There are as many line feeds in markup as in what it says. -/
theorem SpellsMarkup.count {markup said : List Char} (spelled : SpellsMarkup markup said) :
    markup.count '\n' = said.count '\n' := by
  induction spelled with
  | done => rfl
  | text spelled _ ih => rw [List.count_append, List.count_append, spelled.count, ih]
  | span regular spelled _ _ ih =>
      have opening := List.count_eq_zero.mpr (lineFeed_not_mem_opening regular)
      have closing : "</span>".toList.count '\n' = 0 := by
        decide
      simp only [List.count_append, opening, closing, spelled.count, ih]
      omega

theorem getLast?_append_of_some {front rest : List Char} {c : Char}
    (last : rest.getLast? = some c) : (front ++ rest).getLast? = some c := by
  rw [List.getLast?_append, last, Option.some_or]

theorem getLast?_of_append {front rest : List Char} {c : Char} (other : front.getLast? ≠ some c)
    (ends : (front ++ rest).getLast? = some c) : rest.getLast? = some c := by
  rw [List.getLast?_append] at ends
  cases last : rest.getLast? with
  | none =>
      rw [last, Option.none_or] at ends
      exact absurd ends other
  | some d => rwa [last, Option.some_or] at ends

theorem SpellsText.getLast? {written said : List Char} (spelled : SpellsText written said)
    (ends : written.getLast? = some '\n') : said.getLast? = some '\n' := by
  induction spelled with
  | done => exact ends
  | ampersand _ ih | less _ ih | greater _ ih =>
      apply @getLast?_append_of_some [_]
      apply ih
      exact getLast?_of_append (by decide) ends
  | @plain c _ _ _ rest ih =>
      by_cases feed : c = '\n'
      · cases rest with
        | done => exact ends
        | _ =>
            apply @getLast?_append_of_some [_]
            apply ih
            simpa using ends
      · apply @getLast?_append_of_some [_]
        apply ih
        exact @getLast?_of_append [c] _ _ (by simpa using feed) ends

theorem SpellsMarkup.eq_nil {said : List Char} (spelled : SpellsMarkup [] said) : said = [] :=
  spelled.decode.symm

/-- Markup ends with a line feed only if what it says does. -/
theorem SpellsMarkup.getLast? {markup said : List Char} (spelled : SpellsMarkup markup said)
    (ends : markup.getLast? = some '\n') : said.getLast? = some '\n' := by
  induction spelled with
  | done => exact ends
  | @text _ _ markup _ spelled rest ih =>
      cases markup with
      | nil =>
          rw [rest.eq_nil, List.append_nil]
          rw [List.append_nil] at ends
          exact spelled.getLast? ends
      | cons first others =>
          apply getLast?_append_of_some
          apply ih
          simpa using ends
  | span _ _ _ _ ih =>
      apply getLast?_append_of_some
      apply ih
      apply getLast?_of_append _ ends
      rw [getLast?_append_of_some (by decide : "</span>".toList.getLast? = some '>')]
      decide

/-- How the line ends of code are kept in its markup: each of them, but for a carriage return at the
very end. The end of the last line stays if it is a line feed, and no end comes to a line that has
none. -/
structure LinesKept (code markup : List Char) : Prop where
  count : markup.count '\n' + (if code.getLast? = some '\r' then 1 else 0) = lineEnds code
  kept : code.getLast? = some '\n' → markup.getLast? = some '\n'
  noneAdded : markup.getLast? = some '\n' → code.getLast? ≠ some '\r' →
    code.getLast? = some '\n'

/-- Code that ends with a carriage return loses the line end that was put in its place. -/
theorem count_matchEnd_of_return {code : List Char} (last : code.getLast? = some '\r') :
    (matchEnd code (unifyLineEnds (dropMark code))).count '\n' + 1 = lineEnds code := by
  have openEnd : endsLine code = false := by
    simp [endsLine, last]
  have textEnds := endsLine_unifyLineEnds.mpr (.inr last)
  have whole := List.dropLast_append_getLast? _ (endsLine_iff.mp textEnds)
  calc (matchEnd code (unifyLineEnds (dropMark code))).count '\n' + 1
    _ = ((unifyLineEnds (dropMark code)).dropLast ++ ['\n']).count '\n' := by
      simp [matchEnd, openEnd, textEnds]
    _ = lineEnds code := by rw [whole, count_unifyLineEnds, lineEnds_dropMark]

/-- All other code has a line end at its end just if what is cut into tokens has one. -/
theorem matchEnd_of_no_return {code : List Char} (last : code.getLast? ≠ some '\r') :
    matchEnd code (unifyLineEnds (dropMark code)) = unifyLineEnds (dropMark code) := by
  have sameEnd : endsLine (unifyLineEnds (dropMark code)) = endsLine code := by
    rw [Bool.eq_iff_iff, endsLine_unifyLineEnds, endsLine_iff]
    simp [last]
  simp [matchEnd, sameEnd]

/-- Just as many line ends are kept as there are, unless a carriage return is lost. -/
theorem LinesKept.count_eq_iff {code markup : List Char} (kept : LinesKept code markup) :
    markup.count '\n' = lineEnds code ↔ code.getLast? ≠ some '\r' := by
  have total := kept.count
  split at total
  · rename_i last
    simp only [last, ne_eq, not_true, iff_false]
    omega
  · rename_i last
    simpa [last] using total

section Highlight

variable {cut : List Char → List Token} (covers : ∀ code, (cut code).flatMap Token.text = code)

include covers

/-- The formatter ends the last line, and code that ends a line takes nothing away. -/
theorem getLast?_highlightBy {code : List Char} (last : code.getLast? = some '\n') :
    (highlightBy cut code).getLast? = some '\n' := by
  have ends := endsLine_iff.mpr last
  have textEnds := endsLine_unifyLineEnds.mpr (.inl last)
  rcases renderTokens_cases (cut (unifyLineEnds (dropMark code))) with
    ⟨noText, _⟩ | ⟨body, markup, _⟩
  · rw [covers] at noText
    rw [noText] at textEnds
    cases textEnds
  · simp [highlightBy, matchEnd, ends, markup]

theorem linesKept_highlightBy (code : List Char) : LinesKept code (highlightBy cut code) := by
  have spelled := spells_highlightBy covers code
  constructor
  · rw [spelled.count]
    by_cases last : code.getLast? = some '\r'
    · rw [if_pos last, count_matchEnd_of_return last]
    · rw [if_neg last, matchEnd_of_no_return last, count_unifyLineEnds, lineEnds_dropMark,
        Nat.add_zero]
  · intro last
    exact getLast?_highlightBy covers last
  · intro ends other
    have saidEnds := spelled.getLast? ends
    rw [matchEnd_of_no_return other, ← endsLine_iff, endsLine_unifyLineEnds] at saidEnds
    exact saidEnds.resolve_right other

end Highlight

/-- However code is cut into tokens, as long as they cover it, and in whatever registered language:
a line end of code is a line feed of its markup, but for a carriage return at the very end. So there
are as many of the one as of the other exactly if code does not end with a carriage return. -/
theorem markup_keeps_lines (code : String) :
    (∀ cut : List Char → List Token, (∀ code, (cut code).flatMap Token.text = code) →
      LinesKept code.toList (highlightBy cut code.toList)) ∧
    ∀ (registry : Registry) (language : String), language ∈ registry.languages →
      ∃ markup, registry.highlighter language code = some markup ∧
        LinesKept code.toList markup.toList ∧
        (markup.toList.count '\n' = lineEnds code.toList ↔ code.toList.getLast? ≠ some '\r') := by
  constructor
  · intro cut covers
    exact linesKept_highlightBy covers code.toList
  · intro registry language registered
    rcases highlighter_of_registered registered with ⟨cut, covers, highlighted⟩
    have kept := linesKept_highlightBy covers code.toList
    refine ⟨_, highlighted code, ?_⟩
    rw [String.toList_ofList]
    exact ⟨kept, kept.count_eq_iff⟩

/-- Lines of all three kinds, and a last one without an end. -/
def mixedLines : String :=
  "\x7b\r\n\"a\": \r1\n\x7d"

theorem markup_keeps_lines_mixed :
    ("json" ∈ dataRegistry.languages ∧ lineEnds mixedLines.toList = 3) ∧
      LinesKept mixedLines.toList (highlightBy JsonCode.scan mixedLines.toList) ∧
      ∃ markup, dataRegistry.highlighter "json" mixedLines = some markup ∧
        LinesKept mixedLines.toList markup.toList ∧
        (markup.toList.count '\n' = lineEnds mixedLines.toList ↔
          mixedLines.toList.getLast? ≠ some '\r') :=
  ⟨⟨dataRegistry_languages, by decide⟩,
    (markup_keeps_lines mixedLines).1 JsonCode.scan JsonCode.scan_text,
    (markup_keeps_lines mixedLines).2 dataRegistry "json" dataRegistry_languages⟩

/-- The end of a line is lost if it is a carriage return at the very end. -/
theorem last_return_lost :
    "json" ∈ dataRegistry.languages ∧ lineEnds "1\r".toList = 1 ∧
      dataRegistry.highlighter "json" "1\r" = some "<span class=\"mi\">1</span>" ∧
      "<span class=\"mi\">1</span>".toList.count '\n' = 0 := by
  refine ⟨dataRegistry_languages, by decide, ?_, by decide⟩
  decide +kernel

end DocHighlight.Markup
