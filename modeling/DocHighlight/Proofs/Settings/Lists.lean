import DocHighlight.Proofs.Text.Entries
import DocHighlight.Settings
import Mathlib.Data.List.Basic

/-!
# Languages that are written as text

A list of languages can be written as text in many ways, and each of them is read as the same list.
What is read off any text is a list that can be written, so it is the same when it is written again.
-/

namespace DocHighlight.Settings

theorem map_toList_map_ofList (texts : List (List Char)) :
    (texts.map String.ofList).map String.toList = texts := by
  simp [Function.comp_def]

theorem toList_splitLanguages (text : String) :
    (splitLanguages text).map String.toList = Text.entries text.toList :=
  map_toList_map_ofList _

theorem splitLanguages_eq_iff {text : String} {languages : List String} :
    splitLanguages text = languages ↔ Text.entries text.toList = languages.map String.toList := by
  rw [← toList_splitLanguages]
  exact (List.map_inj_right fun _ _ => String.toList_injective).symm

theorem eq_intercalate_iff {text : String} {pieces : List String} :
    text = ",".intercalate pieces ↔
      text.toList = [','].intercalate (pieces.map String.toList) := by
  rw [← String.toList_inj, String.toList_intercalate]
  rfl

/-- A text is read as those lists of languages that it is written from: its pieces between commas
hold the languages, with white space around them, and perhaps some pieces hold white space only. -/
theorem splitLanguages_written :
    (∀ text languages, splitLanguages text = languages ↔
      (∀ language ∈ languages, Text.IsEntry language.toList) ∧
        ∃ pieces : List String,
          Text.Padded (pieces.map String.toList) (languages.map String.toList) ∧
          text = ",".intercalate pieces) ∧
      ∀ text, splitLanguages (",".intercalate (splitLanguages text)) = splitLanguages text := by
  constructor
  · intro text languages
    rw [splitLanguages_eq_iff, Text.entries_eq_iff, List.forall_mem_map]
    apply and_congr_right
    intro _
    constructor
    · rintro ⟨pieces, padded, written⟩
      refine ⟨pieces.map String.ofList, ?_, ?_⟩
      · rwa [map_toList_map_ofList]
      · rwa [eq_intercalate_iff, map_toList_map_ofList]
    · rintro ⟨pieces, padded, written⟩
      exact ⟨_, padded, eq_intercalate_iff.mp written⟩
  · intro text
    rw [splitLanguages_eq_iff, String.toList_intercalate, toList_splitLanguages]
    exact Text.entries_intercalate_entries text.toList

/-- White space inside a language and a language that comes again are kept; a piece of white space
is dropped, whatever white space it is. -/
theorem splitLanguages_written_loosely :
    splitLanguages "\u00a0c++ ,,objective c\t,c++,\x1f" = ["c++", "objective c", "c++"] ∧
      (∀ language ∈ ["c++", "objective c", "c++"], Text.IsEntry language.toList) ∧
      splitLanguages "c++,objective c,c++" = ["c++", "objective c", "c++"] := by
  have read : splitLanguages "\u00a0c++ ,,objective c\t,c++,\x1f" =
      ["c++", "objective c", "c++"] := by
    rfl
  have again := splitLanguages_written.2 "\u00a0c++ ,,objective c\t,c++,\x1f"
  rw [read] at again
  exact ⟨read, ((splitLanguages_written.1 _ _).mp read).1, again⟩

end DocHighlight.Settings
