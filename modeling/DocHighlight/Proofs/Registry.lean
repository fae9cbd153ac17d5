import DocHighlight.Registry

/-!
# The languages of a registry

A registry that was made from names has exactly these languages, each once, and lists them in
increasing order. It can be made exactly if each name has a lexer.
-/

namespace DocHighlight.Registry

/-- Each language has one entry. -/
def Distinct (registry : Registry) : Prop :=
  (Keyed.keys registry.entries).Nodup

theorem mem_languages {registry : Registry} {language : String} :
    language ∈ registry.languages ↔ language ∈ Keyed.keys registry.entries := by
  simp [languages]

/-- The languages that are listed are those that have a lexer. -/
theorem mem_languages_iff {registry : Registry} {language : String} :
    language ∈ registry.languages ↔ ∃ lexer, registry.lexer? language = some lexer := by
  rw [mem_languages]
  constructor
  · exact Keyed.exists_of_mem_keys
  · rintro ⟨lexer, found⟩
    exact Keyed.mem_keys_of_get? found

theorem languages_increasing {registry : Registry} (distinct : registry.Distinct) :
    registry.languages.Pairwise (· < ·) := by
  have sorted : registry.languages.Pairwise fun first second => decide (first ≤ second) = true := by
    apply List.pairwise_mergeSort
    · intro first second third
      simpa using String.le_trans
    · intro first second
      simpa using String.le_total first second
  have apart : registry.languages.Nodup := (List.mergeSort_perm ..).nodup_iff.mpr distinct
  apply (sorted.and apart).imp
  rintro first second ⟨ordered, different⟩
  apply Std.lt_of_le_of_ne _ different
  simpa using ordered

section Add

variable {table : LexerTable} {aliases : List (String × String)}

theorem addAll_distinct {registry result : Registry} {names : List String}
    (distinct : registry.Distinct) (added : addAll table aliases registry names = .ok result) :
    result.Distinct := by
  induction names generalizing registry with
  | nil =>
      cases added
      exact distinct
  | cons name names ih =>
      simp only [addAll] at added
      split at added
      · apply ih _ added
        exact Keyed.nodup_keys_put distinct _ _
      · cases added

/-- The languages of the result are those from before and the given ones. -/
theorem mem_keys_addAll {registry result : Registry} {names : List String}
    (added : addAll table aliases registry names = .ok result) (language : String) :
    language ∈ Keyed.keys result.entries ↔
      language ∈ Keyed.keys registry.entries ∨ language ∈ names := by
  induction names generalizing registry with
  | nil =>
      cases added
      simp
  | cons name names ih =>
      simp only [addAll] at added
      split at added
      · rw [ih added, add, Keyed.keys_put]
        split
        · rename_i known
          constructor
          · exact fun mem => mem.imp_right (List.mem_cons_of_mem _)
          · rintro (mem | mem)
            · exact .inl mem
            · rcases List.mem_cons.mp mem with rfl | mem
              · exact .inl known
              · exact .inr mem
        · simp [or_assoc]
      · cases added

theorem value_ofNames (names : List String) :
    (ofNames table names aliases).run.value = addAll table aliases .empty names := by
  rw [ofNames]
  cases addAll table aliases .empty names <;> rfl

/-- What is made of names has exactly these languages, each once and in increasing order. -/
theorem languages_of_ofNames {registry : Registry} {names : List String}
    (made : (ofNames table names aliases).run.value = .ok registry) :
    registry.languages.Pairwise (· < ·) ∧
      ∀ language, language ∈ registry.languages ↔ language ∈ names := by
  rw [value_ofNames] at made
  constructor
  · have distinct : empty.Distinct := List.nodup_nil
    exact languages_increasing (addAll_distinct distinct made)
  · intro language
    rw [mem_languages, mem_keys_addAll made]
    simp [empty, Keyed.keys]

end Add

end DocHighlight.Registry
