import DocHighlight.Proofs.Settings.Lists
import Mathlib.Data.List.Induction

/-!
# Aliases that are written as text

Aliases are written like a list of languages, with an equals sign in each entry between an alias and
the name it stands for. Aliases that are written in this way are read again as they were. A text is
refused only if one of its pieces is neither blank nor a pair. An alias that comes again keeps its
place and stands for the name that came last.
-/

namespace DocHighlight

namespace Keyed

variable {α : Type}

theorem ofPairs_concat (pairs : List (String × α)) (pair : String × α) :
    ofPairs (pairs ++ [pair]) = put (ofPairs pairs) pair.1 pair.2 := by
  rw [ofPairs, List.foldl_concat, ← ofPairs]

/-- A key has the value of its last pair. -/
theorem get?_ofPairs (pairs : List (String × α)) (key : String) :
    get? (ofPairs pairs) key = get? pairs.reverse key := by
  induction pairs using List.reverseRecOn with
  | nil => rfl
  | append_singleton earlier pair ih =>
      rw [ofPairs_concat, List.reverse_concat, get?]
      split
      · rename_i same
        rw [← same, get?_put_self]
      · rename_i different
        rw [get?_put_of_ne _ _ different, ih]

/-- The keys stand in the order in which they came first. -/
theorem keys_ofPairs (pairs : List (String × α)) :
    keys (ofPairs pairs) = (keys pairs).eraseDups := by
  induction pairs using List.reverseRecOn with
  | nil => rfl
  | append_singleton earlier pair ih =>
      have last : keys (earlier ++ [pair]) = keys earlier ++ [pair.1] := by
        simp [keys]
      rw [ofPairs_concat, keys_put, ih, last, List.eraseDups_append]
      by_cases known : pair.1 ∈ keys earlier
      · simp [List.removeAll, known]
      · simp [List.removeAll, known, List.eraseDups_cons]

theorem nodup_keys_ofPairs (pairs : List (String × α)) : (keys (ofPairs pairs)).Nodup := by
  induction pairs using List.reverseRecOn with
  | nil => exact List.nodup_nil
  | append_singleton earlier pair ih =>
      rw [ofPairs_concat]
      exact nodup_keys_put ih pair.1 pair.2

/-- What it takes to be the entries that come from pairs: the order of the keys, and their values.
-/
theorem eq_ofPairs_iff {entries pairs : List (String × α)} :
    entries = ofPairs pairs ↔
      keys entries = (keys pairs).eraseDups ∧ ∀ key, get? entries key = get? pairs.reverse key := by
  constructor
  · rintro rfl
    exact ⟨keys_ofPairs pairs, get?_ofPairs pairs⟩
  · rintro ⟨sameKeys, found⟩
    rw [← keys_ofPairs] at sameKeys
    apply eq_of_get? sameKeys
    · rw [sameKeys]
      exact nodup_keys_ofPairs pairs
    · intro key
      rw [found, get?_ofPairs]

end Keyed

namespace Settings

/-- What can be an alias in a text, together with the name it stands for. The name can hold an
equals sign, and each of the two can be empty. -/
structure IsAlias (pair : String × String) : Prop where
  noEquals : '=' ∉ pair.1.toList
  aliasNoComma : ',' ∉ pair.1.toList
  nameNoComma : ',' ∉ pair.2.toList
  first : ∀ c, pair.1.toList.head? = some c → Text.isBlank c = false
  last : ∀ c, pair.2.toList.getLast? = some c → Text.isBlank c = false

/-- An alias with its name, as an entry. -/
def aliasEntry (pair : String × String) : String :=
  pair.1 ++ "=" ++ pair.2

/-- Aliases are written in a text: its pieces between commas hold them in order, one each, with
white space around it, and perhaps some pieces hold white space only. -/
def WrittenIn (text : String) (pairs : List (String × String)) : Prop :=
  ∃ pieces : List String,
    Text.Padded (pieces.map String.toList) ((pairs.map aliasEntry).map String.toList) ∧
      text = ",".intercalate pieces

theorem toList_aliasEntry (pair : String × String) :
    (aliasEntry pair).toList = pair.1.toList ++ '=' :: pair.2.toList := by
  simp [aliasEntry]

/-- The equals sign keeps the white space within an entry from its ends. -/
theorem isAlias_iff {pair : String × String} :
    IsAlias pair ↔ '=' ∉ pair.1.toList ∧ Text.IsEntry (aliasEntry pair).toList := by
  rcases pair with ⟨key, name⟩
  have first : (key.toList ++ '=' :: name.toList).head? = some (key.toList.head?.getD '=') := by
    cases key.toList <;> rfl
  have last : (key.toList ++ '=' :: name.toList).getLast? =
      some (name.toList.getLast?.getD '=') := by
    rw [List.getLast?_append, List.getLast?_cons, Option.some_or]
  constructor
  · intro isAlias
    refine ⟨isAlias.noEquals, ⟨by simp [toList_aliasEntry], ?_, ?_⟩, ?_⟩
    · rw [toList_aliasEntry, first]
      rintro _ ⟨⟩
      cases found : key.toList.head? with
      | none => rfl
      | some c => exact isAlias.first c found
    · rw [toList_aliasEntry, last]
      rintro _ ⟨⟩
      cases found : name.toList.getLast? with
      | none => rfl
      | some c => exact isAlias.last c found
    · simp [toList_aliasEntry, isAlias.aliasNoComma, isAlias.nameNoComma]
  · rintro ⟨noEquals, isEntry⟩
    have noComma := isEntry.noComma
    simp only [toList_aliasEntry, List.mem_append, List.mem_cons, not_or] at noComma
    refine ⟨noEquals, noComma.1, noComma.2.2, ?_, ?_⟩
    · intro c found
      apply isEntry.first
      rw [toList_aliasEntry, first, found, Option.getD_some]
    · intro c found
      apply isEntry.last
      rw [toList_aliasEntry, last, found, Option.getD_some]

theorem splitPair?_eq_none_iff {entry : List Char} : splitPair? entry = none ↔ '=' ∉ entry := by
  induction entry with
  | nil => simp [splitPair?]
  | cons c rest ih =>
      by_cases same : c = '='
      · simp [splitPair?, same]
      · simp [splitPair?, same, ih, Ne.symm same]

theorem splitPair?_append {key value : List Char} (noEquals : '=' ∉ key) :
    splitPair? (key ++ '=' :: value) = some (key, value) := by
  induction key with
  | nil => rfl
  | cons c rest ih =>
      rw [List.mem_cons, not_or] at noEquals
      rw [List.cons_append, splitPair?, if_neg (Ne.symm noEquals.1), ih noEquals.2]
      rfl

/-- The sign that splits an entry is its first one. -/
theorem splitPair?_eq_some_iff {entry key value : List Char} :
    splitPair? entry = some (key, value) ↔ '=' ∉ key ∧ entry = key ++ '=' :: value := by
  constructor
  · intro splitEntry
    have mem : '=' ∈ entry := by
      by_contra noEquals
      rw [splitPair?_eq_none_iff.mpr noEquals] at splitEntry
      cases splitEntry
    rcases List.eq_append_cons_of_mem mem with ⟨before, after, rfl, noEquals⟩
    rw [splitPair?_append noEquals] at splitEntry
    cases splitEntry
    exact ⟨noEquals, rfl⟩
  · rintro ⟨noEquals, rfl⟩
    exact splitPair?_append noEquals

/-- Entries are read as pairs exactly if they are pairs that are written. -/
theorem pairs?_eq_some_iff {entries : List (List Char)} {pairs : List (String × String)} :
    pairs? entries = some pairs ↔
      (∀ pair ∈ pairs, '=' ∉ pair.1.toList) ∧
        entries = (pairs.map aliasEntry).map String.toList := by
  induction entries generalizing pairs with
  | nil => cases pairs <;> simp [pairs?]
  | cons entry others ih =>
      rw [pairs?]
      constructor
      · intro read
        split at read
        · rename_i key value more splitEntry readOthers
          cases read
          rcases splitPair?_eq_some_iff.mp splitEntry with ⟨noEquals, written⟩
          rcases ih.mp readOthers with ⟨all, othersWritten⟩
          refine ⟨List.forall_mem_cons.mpr ⟨by simpa using noEquals, all⟩, ?_⟩
          simp [written, othersWritten, toList_aliasEntry]
        · cases read
      · rintro ⟨all, written⟩
        cases pairs with
        | nil => cases written
        | cons pair more =>
            rcases List.forall_mem_cons.mp all with ⟨noEquals, all⟩
            rcases List.cons.inj written with ⟨entryWritten, othersWritten⟩
            rw [toList_aliasEntry] at entryWritten
            simp [splitPair?_eq_some_iff.mpr ⟨noEquals, entryWritten⟩, ih.mpr ⟨all, othersWritten⟩]

theorem pairs?_eq_none_iff {entries : List (List Char)} :
    pairs? entries = none ↔ ∃ entry ∈ entries, '=' ∉ entry := by
  induction entries with
  | nil => simp [pairs?]
  | cons entry others ih =>
      rw [List.exists_mem_cons_iff, ← ih, ← splitPair?_eq_none_iff, pairs?]
      cases splitPair? entry <;> cases pairs? others <;> simp

theorem splitAliases_eq_error_iff {text : String} {fault : SettingFault} :
    splitAliases text = .error fault ↔
      fault = .notPairs text ∧ ∃ entry ∈ Text.entries text.toList, '=' ∉ entry := by
  rw [← pairs?_eq_none_iff, splitAliases]
  split
  · rename_i paired
    simp [paired]
  · rename_i unpaired
    simp [unpaired, eq_comm]

/-- The pairs that are read off a text are those that it is written from. -/
theorem pairs?_entries_eq_some_iff {text : String} {pairs : List (String × String)} :
    pairs? (Text.entries text.toList) = some pairs ↔
      (∀ pair ∈ pairs, IsAlias pair) ∧ WrittenIn text pairs := by
  have written : WrittenIn text pairs ↔
      ∃ pieces, Text.Padded pieces ((pairs.map aliasEntry).map String.toList) ∧
        text.toList = [','].intercalate pieces := by
    constructor
    · rintro ⟨pieces, padded, written⟩
      exact ⟨_, padded, eq_intercalate_iff.mp written⟩
    · rintro ⟨pieces, padded, written⟩
      refine ⟨pieces.map String.ofList, ?_, ?_⟩
      · rwa [map_toList_map_ofList]
      · rwa [eq_intercalate_iff, map_toList_map_ofList]
  rw [pairs?_eq_some_iff, Text.entries_eq_iff, written, ← and_assoc]
  apply and_congr_left
  intro _
  simp only [isAlias_iff, List.forall_mem_map, forall_and]

theorem splitAliases_eq_ok_iff {text : String} {aliases : List (String × String)} :
    splitAliases text = .ok aliases ↔
      ∃ pairs, (∀ pair ∈ pairs, IsAlias pair) ∧ WrittenIn text pairs ∧
        aliases = Keyed.ofPairs pairs := by
  simp only [← and_assoc, ← pairs?_entries_eq_some_iff]
  rw [splitAliases]
  split
  · rename_i paired
    simp [paired, eq_comm]
  · rename_i unpaired
    simp [unpaired]

/-- Blank pieces are no entries, and white space around an entry holds no equals sign. -/
theorem exists_entry_iff {text : List Char} :
    (∃ entry ∈ Text.entries text, '=' ∉ entry) ↔
      ∃ piece ∈ text.splitOn ',', ¬ Text.Blank piece ∧ '=' ∉ piece := by
  have notBlank : Text.isBlank '=' = false := by
    rfl
  simp only [Text.entries, Text.split_eq_splitOn, List.mem_filter, List.mem_map, and_assoc,
    exists_exists_and_eq_and, decide_eq_true_eq, ne_eq, Text.strip_eq_nil_iff,
    Text.mem_strip_iff notBlank]

/-- Aliases that are written in a text are read off it as they are, in order. A text is refused
exactly if one of its pieces is neither blank nor has an equals sign. If it is not, then what is
read off it is made from the pairs that are written in it: an alias stands for the name of its last
pair, and the aliases are in the order in which they came first. -/
theorem splitAliases_written :
    (∀ text aliases, (Keyed.keys aliases).Nodup → (∀ pair ∈ aliases, IsAlias pair) →
        WrittenIn text aliases → splitAliases text = .ok aliases) ∧
      (∀ text fault, splitAliases text = .error fault ↔
        fault = .notPairs text ∧
          ∃ piece ∈ text.toList.splitOn ',', ¬ Text.Blank piece ∧ '=' ∉ piece) ∧
      ∀ text aliases, splitAliases text = .ok aliases ↔
        ∃ pairs, (∀ pair ∈ pairs, IsAlias pair) ∧ WrittenIn text pairs ∧
          Keyed.keys aliases = (Keyed.keys pairs).eraseDups ∧
          ∀ key, Keyed.get? aliases key = Keyed.get? pairs.reverse key := by
  refine ⟨?_, ?_, ?_⟩
  · intro text aliases distinct all written
    exact splitAliases_eq_ok_iff.mpr
      ⟨aliases, all, written, (Keyed.ofPairs_eq_self distinct).symm⟩
  · intro text fault
    rw [splitAliases_eq_error_iff, exists_entry_iff]
  · intro text aliases
    simp only [splitAliases_eq_ok_iff, Keyed.eq_ofPairs_iff]

/-- White space inside a pair is kept, a name can hold equals signs, and an alias and its name can
be empty. Of two pairs for one alias, the first one gives the place and the last one the name. -/
theorem splitAliases_written_loosely :
    ((Keyed.keys [("svg ", " x=ml"), ("", "")]).Nodup ∧
      (∀ pair ∈ [("svg ", " x=ml"), ("", "")], IsAlias pair) ∧
      WrittenIn "\u00a0svg = x=ml\t,,=, \x1f" [("svg ", " x=ml"), ("", "")] ∧
      splitAliases "\u00a0svg = x=ml\t,,=, \x1f" = .ok [("svg ", " x=ml"), ("", "")]) ∧
    (splitAliases "svg=xml,html" = .error (.notPairs "svg=xml,html") ∧
      ∃ piece ∈ "svg=xml,html".toList.splitOn ',', ¬ Text.Blank piece ∧ '=' ∉ piece) ∧
    splitAliases "svg=html,js=javascript,svg=xml" = .ok [("svg", "xml"), ("js", "javascript")] ∧
      ∃ pairs, (∀ pair ∈ pairs, IsAlias pair) ∧ WrittenIn "svg=html,js=javascript,svg=xml" pairs ∧
        Keyed.keys [("svg", "xml"), ("js", "javascript")] = (Keyed.keys pairs).eraseDups ∧
        ∀ key, Keyed.get? [("svg", "xml"), ("js", "javascript")] key =
          Keyed.get? pairs.reverse key := by
  rcases splitAliases_written with ⟨keeps, refuses, reads⟩
  have distinct : (Keyed.keys [("svg ", " x=ml"), ("", "")]).Nodup := by
    decide
  have pairs : pairs? (Text.entries "\u00a0svg = x=ml\t,,=, \x1f".toList) =
      some [("svg ", " x=ml"), ("", "")] := by
    rfl
  rcases pairs?_entries_eq_some_iff.mp pairs with ⟨all, written⟩
  have refused : splitAliases "svg=xml,html" = .error (.notPairs "svg=xml,html") := by
    rfl
  have read : splitAliases "svg=html,js=javascript,svg=xml" =
      .ok [("svg", "xml"), ("js", "javascript")] := by
    rfl
  exact ⟨⟨distinct, all, written, keeps _ _ distinct all written⟩,
    ⟨refused, ((refuses _ _).mp refused).2⟩, read, (reads _ _).mp read⟩

end Settings

end DocHighlight
