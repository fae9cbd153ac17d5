import DocHighlight.Markup.Lexer

/-!
# Tokens cover the code

Whatever method code is cut by, its tokens put together are the code. For grammars this holds
because a rule that fits has as many lengths as parts, and because what no rule takes becomes a
token by itself.
-/

namespace DocHighlight.Markup

/-- If each step that gives a result gives one of its continuation, then so do rounds of it. -/
theorem exists_of_manyRounds {α : Type} {step : Cursor → (Cursor → Option α) → Option α}
    (stepResult : ∀ {cursor next result},
      step cursor next = some result → ∃ after, next after = some result)
    {bound : List Char} {cursor : Cursor} {next : Cursor → Option α} {result : α}
    (found : manyRounds step bound cursor next = some result) :
    ∃ after, next after = some result := by
  induction bound generalizing cursor with
  | nil => exact ⟨cursor, found⟩
  | cons c bound ih =>
      simp only [manyRounds] at found
      split at found
      · rename_i inner
        rcases stepResult inner with ⟨after, again⟩
        cases found
        exact ih again
      · exact ⟨cursor, found⟩

/-- The same for rounds that are as few as possible. -/
theorem exists_of_fewRounds {α : Type} {step : Cursor → (Cursor → Option α) → Option α}
    (stepResult : ∀ {cursor next result},
      step cursor next = some result → ∃ after, next after = some result)
    {bound : List Char} {cursor : Cursor} {next : Cursor → Option α} {result : α}
    (found : fewRounds step bound cursor next = some result) :
    ∃ after, next after = some result := by
  induction bound generalizing cursor with
  | nil => exact ⟨cursor, found⟩
  | cons c bound ih =>
      simp only [fewRounds] at found
      split at found
      · rename_i inner
        cases found
        exact ⟨cursor, inner⟩
      · rcases stepResult found with ⟨after, again⟩
        exact ih again

/-- A result of a pattern is one of what follows it, at some place. -/
theorem Pattern.exists_of_run {α : Type} (pattern : Pattern) {cursor : Cursor}
    {next : Cursor → Option α} {result : α} (found : pattern.run cursor next = some result) :
    ∃ after, next after = some result := by
  induction pattern generalizing cursor next result with
  | empty => exact ⟨cursor, found⟩
  | char accepts =>
      rcases Option.bind_eq_some_iff.1 found with ⟨after, -, same⟩
      exact ⟨after, same⟩
  | sequence first second ihFirst ihSecond =>
      rcases ihFirst found with ⟨middle, same⟩
      exact ihSecond same
  | choice first second ihFirst ihSecond =>
      simp only [run] at found
      split at found
      · rename_i inner
        cases found
        exact ihFirst inner
      · exact ihSecond found
  | many body ih => exact exists_of_manyRounds ih found
  | few body ih => exact exists_of_fewRounds ih found
  | remember body ih =>
      rcases ih found with ⟨after, same⟩
      exact ⟨_, same⟩
  | remembered =>
      rcases Option.bind_eq_some_iff.1 found with ⟨after, -, same⟩
      exact ⟨after, same⟩
  | assert holds =>
      simp only [run] at found
      split at found
      · exact ⟨cursor, found⟩
      · cases found

theorem Rule.length_lengths? {parts : List (Kind × Pattern)} {cursor : Cursor} {lengths : List Nat}
    (found : Rule.lengths? parts cursor = some lengths) : parts.length = lengths.length := by
  induction parts generalizing cursor lengths with
  | nil => cases found; rfl
  | cons part others ih =>
      rcases part.2.exists_of_run found with ⟨after, same⟩
      rcases Option.map_eq_some_iff.1 same with ⟨more, there, rfl⟩
      simp [ih there]

/-- The pieces hold the text that they are cut off. -/
theorem cutTokens_text (kinds : List Kind) (lengths : List Nat) (text : List Char)
    (even : kinds.length = lengths.length) :
    (cutTokens kinds lengths text).flatMap Token.text = text.take (lengths.foldr (· + ·) 0) := by
  induction lengths generalizing kinds text with
  | nil => cases kinds <;> simp_all [cutTokens]
  | cons length lengths ih =>
      cases kinds with
      | nil => simp at even
      | cons kind kinds =>
          have others := ih kinds (text.drop length) (by simpa using even)
          simp only [cutTokens, List.foldr_cons, List.take_add]
          split
          · rename_i empty
            rw [others, empty, List.nil_append]
          · simp only [List.flatMap_cons, others]

/-- A match has as many kinds as lengths. -/
theorem firstMatch_even {State : Type} {rules : List (Rule State)} {cursor : Cursor}
    {found : Match State} (fits : firstMatch rules cursor = some found) :
    found.kinds.length = found.lengths.length := by
  rcases List.exists_of_findSome?_eq_some fits with ⟨rule, -, same⟩
  rcases Option.map_eq_some_iff.1 same with ⟨lengths, there, rfl⟩
  simpa using Rule.length_lengths? there

namespace Grammar
variable {State : Type}

/-- A rule that is settled on takes characters. -/
theorem settle_found (grammar : Grammar State) {cursor : Cursor} {idle : Nat}
    {stack after : StateStack State} {found : Match State}
    (settled : grammar.settle cursor idle stack = (after, some found)) :
    found.kinds.length = found.lengths.length ∧ 0 < found.length := by
  induction idle generalizing stack with
  | zero => simp [settle] at settled
  | succ idle ih =>
      simp only [settle] at settled
      split at settled
      · simp at settled
      · rename_i inner
        split at settled
        · exact ih settled
        · rename_i positive
          obtain ⟨-, rfl⟩ : _ ∧ _ := by simpa using settled
          exact ⟨firstMatch_even inner, Nat.pos_of_ne_zero positive⟩

/-- The tokens from a place on are the text from there on. -/
theorem scanFrom_text (grammar : Grammar State) (stack : StateStack State)
    (behind ahead : List Char) :
    (grammar.scanFrom stack behind ahead).flatMap Token.text = ahead := by
  fun_induction scanFrom grammar stack behind ahead with
  | case1 => rfl
  | case2 stack behind c rest after settled kind next unmatched ih => simp [ih]
  | case3 stack behind c rest after found settled further ih =>
      rcases grammar.settle_found settled with ⟨even, positive⟩
      rw [List.flatMap_append, ih, cutTokens_text _ _ _ even]
      have whole : found.length = further + 1 := (Nat.sub_add_cancel positive).symm
      rw [← Match.length, whole, List.take_succ_cons, List.cons_append, List.take_append_drop]

theorem scan_text (grammar : Grammar State) (text : List Char) :
    (grammar.scan text).flatMap Token.text = text :=
  grammar.scanFrom_text _ _ _
end Grammar
namespace JsonCode

/-- The tokens from a place on are the token so far and the text from there on. -/
theorem scanFrom_text (mode : Mode) (done text : List Char) :
    (scanFrom mode done text).flatMap Token.text = done.reverse ++ text := by
  induction text generalizing mode done with
  | nil => cases done <;> simp [scanFrom]
  | cons c rest ih =>
      simp only [scanFrom]
      split
      · simp [ih]
      · simp [ih]
      · split <;> simp [ih]

/-- Turning strings into tags changes no text. -/
theorem markKeys_text (tokens : List Token) :
    (markKeys tokens).flatMap Token.text = tokens.flatMap Token.text := by
  induction tokens with
  | nil => rfl
  | cons token others ih => simp [markKeys, ih]

theorem scan_text (text : List Char) : (scan text).flatMap Token.text = text := by
  simp [scan, markKeys_text, scanFrom_text]

end JsonCode

/-- The tokens of code are the code, whatever it is cut by. -/
theorem Method.tokens_text (method : Method) (code : List Char) :
    (method.tokens code).flatMap Token.text = code := by
  cases method with
  | plain => cases code <;> simp [tokens]
  | json => exact JsonCode.scan_text code
  | xml => exact XmlCode.grammar.scan_text code
  | javaScript => exact JavaScriptCode.grammar.scan_text code
  | bash => exact BashCode.grammar.scan_text code

end DocHighlight.Markup
