import DocHighlight.Text.Blank
import Mathlib.Data.List.TakeWhile

/-!
# Entries of a list that is written as text

A list is written as text by putting commas between its entries. There can be white space around
each entry, and anywhere in between there can be more commas, with nothing but white space between
them. The entries that are read off a text are those it was written from, and every text is written
from the entries that are read off it.
-/

namespace DocHighlight.Text

/-- Text that holds nothing but white space. -/
def Blank (text : List Char) : Prop :=
  ∀ c ∈ text, isBlank c = true

/-- Text that holds something and has no white space at either end. -/
structure Trimmed (text : List Char) : Prop where
  notNil : text ≠ []
  first : ∀ c, text.head? = some c → isBlank c = false
  last : ∀ c, text.getLast? = some c → isBlank c = false

/-- What can be an entry of a list: a trimmed text without a comma. -/
structure IsEntry (text : List Char) : Prop extends Trimmed text where
  noComma : ',' ∉ text

/-- Pieces that hold the entries of a list in order, one each, with white space around it, but for
pieces that hold nothing but white space. -/
inductive Padded : (pieces entries : List (List Char)) → Prop where
  | nil : Padded [] []
  | blank {piece : List Char} {pieces entries : List (List Char)} (blank : Blank piece)
      (rest : Padded pieces entries) : Padded (piece :: pieces) entries
  | entry {before after : List Char} (entry : List Char) {pieces entries : List (List Char)}
      (blankBefore : Blank before) (blankAfter : Blank after) (rest : Padded pieces entries) :
      Padded ((before ++ entry ++ after) :: pieces) (entry :: entries)

theorem stripEnd_of_blank {text : List Char} (blank : Blank text) : stripEnd text = [] := by
  induction text with
  | nil => rfl
  | cons c rest ih =>
      rcases List.forall_mem_cons.mp blank with ⟨blankFirst, blankRest⟩
      simp [stripEnd, ih blankRest, blankFirst]

/-- White space at the end goes away, and nothing else. -/
theorem stripEnd_append {entry after : List Char}
    (last : ∀ c, entry.getLast? = some c → isBlank c = false) (blank : Blank after) :
    stripEnd (entry ++ after) = entry := by
  induction entry with
  | nil => exact stripEnd_of_blank blank
  | cons c rest ih =>
      cases rest with
      | nil =>
          have kept := last c rfl
          simp [stripEnd, stripEnd_of_blank blank, kept]
      | cons next others =>
          have kept : stripEnd (next :: others ++ after) = next :: others := by
            apply ih
            simpa using last
          rw [List.cons_append, stripEnd, kept]

theorem exists_eq_stripEnd_append (text : List Char) :
    ∃ after, Blank after ∧ text = stripEnd text ++ after := by
  induction text with
  | nil => exact ⟨[], by simp [Blank], rfl⟩
  | cons c rest ih =>
      rcases ih with ⟨after, blank, written⟩
      rw [stripEnd]
      split
      · rename_i stripped
        rw [stripped, List.nil_append] at written
        rw [written]
        split
        · rename_i blankFirst
          exact ⟨c :: after, List.forall_mem_cons.mpr ⟨blankFirst, blank⟩, rfl⟩
        · exact ⟨after, blank, rfl⟩
      · exact ⟨after, blank, by rw [List.cons_append, ← written]⟩

theorem last_stripEnd {text : List Char} {c : Char} (last : (stripEnd text).getLast? = some c) :
    isBlank c = false := by
  induction text with
  | nil => cases last
  | cons first rest ih =>
      rw [stripEnd] at last
      split at last
      · rename_i stripped
        split at last
        · cases last
        · rename_i notBlank
          cases last
          simpa using notBlank
      · rename_i notNil
        apply ih
        rwa [List.getLast?_cons_of_ne_nil notNil] at last

theorem exists_eq_append_strip (text : List Char) :
    ∃ before after, Blank before ∧ Blank after ∧ text = before ++ strip text ++ after := by
  rcases exists_eq_stripEnd_append (text.dropWhile isBlank) with ⟨after, blank, kept⟩
  refine ⟨text.takeWhile isBlank, after, ?_, blank, ?_⟩
  · intro c mem
    exact List.mem_takeWhile_imp mem
  · rw [strip, List.append_assoc, ← kept, List.takeWhile_append_dropWhile]

theorem trimmed_strip {text : List Char} (notNil : strip text ≠ []) : Trimmed (strip text) := by
  refine ⟨notNil, ?_, fun c last => last_stripEnd last⟩
  intro c first
  rcases exists_eq_stripEnd_append (text.dropWhile isBlank) with ⟨after, -, kept⟩
  have firstKept : (text.dropWhile isBlank).head? = some c := by
    rw [kept, List.head?_append, show (stripEnd (text.dropWhile isBlank)).head? = some c from first,
      Option.some_or]
  have stopped := List.head?_dropWhile_not isBlank text
  rw [firstKept] at stopped
  exact stopped

theorem strip_eq_nil_iff {text : List Char} : strip text = [] ↔ Blank text := by
  constructor
  · intro stripped
    rcases exists_eq_append_strip text with ⟨before, after, blankBefore, blankAfter, written⟩
    rw [stripped, List.append_nil] at written
    rw [written]
    intro c mem
    rcases List.mem_append.mp mem with mem | mem
    · exact blankBefore c mem
    · exact blankAfter c mem
  · intro blank
    rw [strip, List.dropWhile_eq_nil_iff.mpr blank]
    rfl

/-- Nothing but white space is lost. -/
theorem mem_strip_iff {text : List Char} {c : Char} (notBlank : isBlank c = false) :
    c ∈ strip text ↔ c ∈ text := by
  rcases exists_eq_append_strip text with ⟨before, after, blankBefore, blankAfter, written⟩
  have notMemBefore : c ∉ before := by
    intro mem
    simp [blankBefore c mem] at notBlank
  have notMemAfter : c ∉ after := by
    intro mem
    simp [blankAfter c mem] at notBlank
  conv => rhs; rw [written]
  simp [notMemBefore, notMemAfter]

theorem Trimmed.strip_append {before entry after : List Char} (trimmed : Trimmed entry)
    (blankBefore : Blank before) (blankAfter : Blank after) :
    strip (before ++ entry ++ after) = entry := by
  have stopped : (entry ++ after).dropWhile isBlank = entry ++ after := by
    cases entry with
    | nil => exact absurd rfl trimmed.notNil
    | cons c rest => simp [trimmed.first c rfl]
  rw [strip, List.append_assoc, List.dropWhile_append_of_pos blankBefore, stopped,
    stripEnd_append trimmed.last blankAfter]

theorem split_ne_nil (separator : Char) (text : List Char) : split separator text ≠ [] := by
  cases text with
  | nil => simp [split]
  | cons c rest =>
      rw [split]
      split
      · simp
      · split <;> simp

theorem split_eq_splitOn (separator : Char) (text : List Char) :
    split separator text = text.splitOn separator := by
  induction text with
  | nil => rfl
  | cons c rest ih =>
      rw [split, List.splitOn_cons_eq_if_modifyHead, ← ih]
      simp only [beq_iff_eq]
      split
      · rfl
      · split
        · rename_i noneLeft
          exact absurd noneLeft (split_ne_nil separator rest)
        · rename_i piecesEq
          rw [piecesEq]
          rfl

/-- No piece holds the separator. -/
theorem forall_not_mem_split (separator : Char) (text : List Char) :
    ∀ piece ∈ split separator text, separator ∉ piece := by
  induction text with
  | nil => simp [split]
  | cons c rest ih =>
      rw [split]
      split
      · simpa using ih
      · rename_i different
        split
        · rename_i noneLeft
          exact absurd noneLeft (split_ne_nil separator rest)
        · rename_i piecesEq
          rw [piecesEq, List.forall_mem_cons] at ih
          rw [List.forall_mem_cons]
          refine ⟨?_, ih.2⟩
          simp [ih.1, Ne.symm different]

section Pieces

variable {piece : List Char} {pieces given : List (List Char)}

/-- What is kept of a list of pieces. -/
def kept (pieces : List (List Char)) : List (List Char) :=
  (pieces.map strip).filter (· ≠ [])

theorem kept_cons_of_blank (blank : Blank piece) : kept (piece :: pieces) = kept pieces := by
  simp [kept, strip_eq_nil_iff.mpr blank]

theorem kept_cons_of_not_nil (notNil : strip piece ≠ []) :
    kept (piece :: pieces) = strip piece :: kept pieces := by
  simp [kept, notNil]

theorem not_comma_of_blank {text : List Char} (blank : Blank text) : ',' ∉ text := by
  intro mem
  exact absurd (blank ',' mem) (by decide)

/-- Entries are found again in the pieces that they stand in. -/
theorem Padded.kept_eq (padded : Padded pieces given) (all : ∀ entry ∈ given, IsEntry entry) :
    kept pieces = given := by
  induction padded with
  | nil => rfl
  | blank blank _ ih => rw [kept_cons_of_blank blank, ih all]
  | entry entry blankBefore blankAfter _ ih =>
      rcases List.forall_mem_cons.mp all with ⟨isEntry, all⟩
      have stripped := isEntry.toTrimmed.strip_append blankBefore blankAfter
      rw [kept_cons_of_not_nil (by rw [stripped]; exact isEntry.notNil), stripped, ih all]

theorem Padded.no_comma (padded : Padded pieces given) (all : ∀ entry ∈ given, IsEntry entry) :
    ∀ piece ∈ pieces, ',' ∉ piece := by
  induction padded with
  | nil => simp
  | blank blank _ ih => exact List.forall_mem_cons.mpr ⟨not_comma_of_blank blank, ih all⟩
  | entry entry blankBefore blankAfter _ ih =>
      rcases List.forall_mem_cons.mp all with ⟨isEntry, all⟩
      refine List.forall_mem_cons.mpr ⟨?_, ih all⟩
      simp [not_comma_of_blank blankBefore, isEntry.noComma, not_comma_of_blank blankAfter]

/-- What is kept of pieces stands in them. -/
theorem padded_kept (pieces : List (List Char)) : Padded pieces (kept pieces) := by
  induction pieces with
  | nil => exact .nil
  | cons piece others ih =>
      by_cases blank : Blank piece
      · rw [kept_cons_of_blank blank]
        exact .blank blank ih
      · rw [kept_cons_of_not_nil (mt strip_eq_nil_iff.mp blank)]
        rcases exists_eq_append_strip piece with ⟨before, after, blankBefore, blankAfter, written⟩
        have padded := Padded.entry (strip piece) blankBefore blankAfter ih
        rwa [← written] at padded

/-- What is kept of pieces without commas can be entries. -/
theorem isEntry_of_mem_kept (noComma : ∀ piece ∈ pieces, ',' ∉ piece) :
    ∀ entry ∈ kept pieces, IsEntry entry := by
  simp only [kept, List.mem_filter, List.mem_map, decide_eq_true_eq]
  rintro _ ⟨⟨piece, mem, rfl⟩, notNil⟩
  refine ⟨trimmed_strip notNil, ?_⟩
  rcases exists_eq_append_strip piece with ⟨before, after, -, -, written⟩
  intro comma
  apply noComma piece mem
  rw [written]
  simp [comma]

end Pieces

theorem entries_eq_kept (text : List Char) : entries text = kept (split ',' text) :=
  rfl

/-- Entries are read off exactly those texts that they are written as. -/
theorem entries_eq_iff {text : List Char} {given : List (List Char)} :
    entries text = given ↔
      (∀ entry ∈ given, IsEntry entry) ∧
        ∃ pieces, Padded pieces given ∧ text = [','].intercalate pieces := by
  constructor
  · rintro rfl
    refine ⟨isEntry_of_mem_kept (forall_not_mem_split ',' text), split ',' text, padded_kept _, ?_⟩
    rw [split_eq_splitOn, List.intercalate_splitOn]
  · rintro ⟨all, pieces, padded, rfl⟩
    cases pieces with
    | nil =>
        cases padded
        rfl
    | cons piece others =>
        rw [entries_eq_kept, split_eq_splitOn,
          List.splitOn_intercalate ',' (padded.no_comma all) (by simp), padded.kept_eq all]

theorem padded_self (given : List (List Char)) : Padded given given := by
  induction given with
  | nil => exact .nil
  | cons entry others ih =>
      have none : Blank [] := by simp [Blank]
      simpa using Padded.entry entry none none ih

/-- Entries put together with nothing but commas are the same when they are read again. -/
theorem entries_intercalate_entries (text : List Char) :
    entries ([','].intercalate (entries text)) = entries text := by
  rcases entries_eq_iff.mp (Eq.refl (entries text)) with ⟨all, -⟩
  exact entries_eq_iff.mpr ⟨all, _, padded_self _, rfl⟩

end DocHighlight.Text
