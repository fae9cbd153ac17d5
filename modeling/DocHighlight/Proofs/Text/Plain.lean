import DocHighlight.Text.Plain

/-!
# Plain lines

A sequence for a terminal never goes past the end of a line. So text is made plain line by line, and
since this only ever takes characters away, it is plain exactly if each of its lines is.
-/

namespace DocHighlight.Text

theorem plain_cons {c : Char} {rest : List Char}
    (noSequence : ∀ after, c = escapeCharacter → rest = '[' :: after →
      afterSequence? after = none) :
    plain (c :: rest) = c :: plain rest := by
  rw [plain.eq_def]
  split
  · contradiction
  · rename_i same
    cases same
    simp [plain]
  · rename_i same
    cases same
    split
    · rename_i starts
      split
      · rename_i found
        rw [noSequence _ starts.1 (by rw [starts.2])] at found
        cases found
      · rfl
    · rfl

theorem plain_sequence {rest after : List Char} (found : afterSequence? rest = some after) :
    plain (escapeCharacter :: '[' :: rest) = plain after := by
  rw [plain]
  simp only [and_self, if_true]
  split
  · rename_i again
    rw [found] at again
    cases again
    rfl
  · rename_i noneFound
    rw [found] at noneFound
    cases noneFound

/-- A sequence does not go past the end of a line. -/
theorem afterSequence?_append_line (line rest : List Char) :
    afterSequence? (line ++ '\n' :: rest) =
      (afterSequence? line).map fun after => after ++ '\n' :: rest := by
  induction line with
  | nil => simp [afterSequence?, isParameter, isAsciiDigit, isAsciiLetter]
  | cons c line ih =>
      simp only [List.cons_append, afterSequence?]
      split
      · exact ih
      · split <;> rfl

theorem plain_append_line (line rest : List Char) :
    plain (line ++ '\n' :: rest) = plain line ++ '\n' :: plain rest := by
  have endEq : plain ('\n' :: rest) = '\n' :: plain rest := by
    apply plain_cons
    intro after escape
    exact absurd escape (by decide)
  fun_induction plain line with
  | case1 => exact endEq
  | case2 c =>
      rw [List.singleton_append, plain_cons, endEq]
      · rfl
      · intro after _ same
        cases same
  | case3 c bracket line starts after found shorter ih =>
      have extended := afterSequence?_append_line line rest
      rw [found] at extended
      rw [starts.1, starts.2, ← ih]
      exact plain_sequence extended
  | case4 c bracket line starts noneFound ih =>
      -- No letter ends the parameters before the end of the line, and then it is too late.
      have extended := afterSequence?_append_line line rest
      rw [noneFound] at extended
      rw [List.cons_append, plain_cons, ih, List.cons_append]
      intro after _ same
      cases same
      exact extended
  | case5 c bracket line other ih =>
      rw [List.cons_append, plain_cons, ih, List.cons_append]
      intro after escape same
      cases same
      exact absurd ⟨escape, rfl⟩ other

theorem plain_lines (lines : List (List Char)) :
    plain (lines.flatMap fun line => line ++ ['\n']) =
      lines.flatMap fun line => plain line ++ ['\n'] := by
  induction lines with
  | nil => simp [plain]
  | cons line lines ih => simp [plain_append_line, ih]

theorem suffix_of_afterSequence? {text after : List Char}
    (found : afterSequence? text = some after) : after <:+ text := by
  induction text with
  | nil => cases found
  | cons c rest ih =>
      simp only [afterSequence?] at found
      split at found
      · exact (ih found).trans (List.suffix_cons c rest)
      · split at found
        · cases found
          exact List.suffix_cons c _
        · cases found

theorem plain_sublist (text : List Char) : (plain text).Sublist text := by
  fun_induction plain text with
  | case1 => exact .refl _
  | case2 c => exact .refl _
  | case3 c bracket rest starts after found shorter ih =>
      have taken := (suffix_of_afterSequence? found).sublist
      exact ((ih.trans taken).cons bracket).cons c
  | case4 _ _ _ _ _ ih | case5 _ _ _ _ ih => exact ih.cons_cons _

/-- Lines are plain only if each of them is: what one line loses, no other one gains. -/
theorem plain_lines_eq_self_iff {lines : List (List Char)} :
    plain (lines.flatMap fun line => line ++ ['\n']) = (lines.flatMap fun line => line ++ ['\n']) ↔
      ∀ line ∈ lines, plain line = line := by
  rw [plain_lines]
  induction lines with
  | nil => simp
  | cons line lines ih =>
      rw [List.forall_mem_cons, ← ih, List.flatMap_cons, List.flatMap_cons]
      constructor
      · intro same
        have shorter := (plain_sublist line).length_le
        have othersShorter := (plain_sublist (lines.flatMap fun line => line ++ ['\n'])).length_le
        have lengths := congrArg List.length same
        simp only [List.length_append] at lengths
        rw [plain_lines] at othersShorter
        have firstSame := (plain_sublist line).eq_of_length (by omega)
        rw [firstSame] at same
        exact ⟨firstSame, List.append_cancel_left same⟩
      · rintro ⟨firstSame, othersSame⟩
        rw [firstSame, othersSame]

end DocHighlight.Text
