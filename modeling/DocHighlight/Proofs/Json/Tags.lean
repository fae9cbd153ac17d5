import DocHighlight.Document.Schema
import DocHighlight.Proofs.Json.Meaning
import Mathlib.Data.List.Forall2
import Mathlib.Data.List.Infix

/-!
# Where nodes begin in a text

A node is written as an object whose first member has the key `t` and the name of a kind. In the
text of a JSON value these objects can be found without reading it: the places where a brace, that
key and the name of a kind follow one another are just the places where such an object begins, from
the outside in and from left to right. For the quotes around the key cannot stand in a string, where
quotes are escaped, and the brace before them shows that they open a string and do not close one.
-/

namespace DocHighlight.Json

open Document

def nodeKinds : List NodeKind :=
  Place.inline.kinds ++ Place.block.kinds

theorem mem_nodeKinds (kind : NodeKind) : kind ∈ nodeKinds := by
  cases kind <;> decide

/-- How the text of a node of a kind begins. -/
def tagText (kind : NodeKind) : List Char :=
  '\x7b' :: (writeString "t" ++ ':' :: writeString kind.name)

def beginsWithTag (text : List Char) : Bool :=
  nodeKinds.any fun kind => (tagText kind).isPrefixOf text

/-- The places in a text where the tag of a node begins, each with all the text from there on. -/
def tagPlaces (text : List Char) : List (List Char) :=
  text.tails.filter beginsWithTag

/-- Whether a value is an object that is written like a node. -/
def isTagged : Json → Bool
  | .object ((key, .string name) :: _) => key = "t" && nodeKinds.any fun kind => kind.name = name
  | _ => false

theorem beginsWithTag_iff {text : List Char} :
    beginsWithTag text = true ↔ ∃ kind, tagText kind <+: text := by
  simp only [beginsWithTag, List.any_eq_true, List.isPrefixOf_iff_prefix]
  exact ⟨fun ⟨kind, _, found⟩ => ⟨kind, found⟩,
    fun ⟨kind, found⟩ => ⟨kind, mem_nodeKinds kind, found⟩⟩

theorem tagPlaces_cons (c : Char) (text : List Char) :
    tagPlaces (c :: text) =
      (if beginsWithTag (c :: text) then [c :: text] else []) ++ tagPlaces text := by
  rw [tagPlaces, List.tails_cons, List.filter_cons]
  split <;> rfl

theorem tagPlaces_of_ne {c : Char} (other : c ≠ '\x7b') (text : List Char) :
    tagPlaces (c :: text) = tagPlaces text := by
  rw [tagPlaces_cons, if_neg, List.nil_append]
  intro begins
  rcases beginsWithTag_iff.mp begins with ⟨kind, found⟩
  exact other (List.cons_prefix_cons.mp found).1.symm

/-- A brace that is not followed by a key that begins with `t` begins no tag. -/
theorem tagPlaces_of_no_key {text : List Char} (noKey : ¬['"', 't'] <+: text) :
    tagPlaces ('\x7b' :: text) = tagPlaces text := by
  rw [tagPlaces_cons, if_neg, List.nil_append]
  intro begins
  rcases beginsWithTag_iff.mp begins with ⟨kind, found⟩
  apply noKey
  have key : ['"', 't'] <+: writeString "t" ++ ':' :: writeString kind.name :=
    ⟨'"' :: ':' :: writeString kind.name, rfl⟩
  exact key.trans (List.cons_prefix_cons.mp found).2

theorem brace_not_mem_hexDigits (width value : Nat) :
    '\x7b' ∉ Text.Quoted.hexDigits width value := by
  induction width generalizing value with
  | zero => exact List.not_mem_nil
  | succ width ih =>
      have digit : ∀ digit < 16, '\x7b' ≠ Nat.digitChar digit := by decide
      rw [Text.Quoted.hexDigits, List.mem_append, List.mem_singleton, not_or]
      exact ⟨ih (value / 16), digit _ (Nat.mod_lt _ (by decide))⟩

/-- A character of a string stands for itself or is escaped, and no quote stands for itself. -/
theorem escapeChar_cases (c : Char) :
    (escapeChar c = [c] ∧ c ≠ '"' ∧ c ≠ '\\') ∨
      ∃ rest, escapeChar c = '\\' :: rest ∧ '\x7b' ∉ rest := by
  rw [escapeChar]
  split
  case isTrue marked =>
    simp only [Bool.or_eq_true, decide_eq_true_eq] at marked
    refine .inr ⟨_, rfl, ?_⟩
    rcases marked with rfl | rfl <;> decide
  case isFalse notMarked =>
    simp only [Bool.or_eq_true, decide_eq_true_eq, not_or] at notMarked
    split
    case isTrue => exact .inr ⟨_, rfl, by decide⟩
    split
    case isTrue => exact .inr ⟨_, rfl, by decide⟩
    split
    case isTrue => exact .inr ⟨_, rfl, by decide⟩
    split
    case isTrue => exact .inr ⟨_, rfl, by decide⟩
    split
    case isTrue => exact .inr ⟨_, rfl, by decide⟩
    split
    case isTrue =>
      refine .inr ⟨_, rfl, ?_⟩
      rw [List.mem_cons, not_or]
      exact ⟨by decide, brace_not_mem_hexDigits 4 c.toNat⟩
    case isFalse => exact .inl ⟨rfl, notMarked.1, notMarked.2⟩

theorem tagPlaces_append_of_not_mem {text : List Char} (noBrace : '\x7b' ∉ text)
    (rest : List Char) : tagPlaces (text ++ rest) = tagPlaces rest := by
  induction text with
  | nil => rfl
  | cons c text ih =>
      rw [List.mem_cons, not_or] at noBrace
      rw [List.cons_append, tagPlaces_of_ne (Ne.symm noBrace.1), ih noBrace.2]

theorem writeString_append (text : String) (rest : List Char) :
    writeString text ++ rest = '"' :: (text.toList.flatMap escapeChar ++ '"' :: rest) := by
  rw [writeString, List.cons_append, List.cons_append, List.append_assoc, List.singleton_append]

/-- No tag begins in a string, unless it is followed by a letter that makes its last quote look like
the first of a key. -/
theorem tagPlaces_writeString {rest : List Char} (ends : rest.head? ≠ some 't') (text : String) :
    tagPlaces (writeString text ++ rest) = tagPlaces rest := by
  -- Beside the claim the induction carries that the characters do not look like a key.
  have inside : ∀ characters : List Char,
      tagPlaces (characters.flatMap escapeChar ++ '"' :: rest) = tagPlaces rest ∧
        ¬['"', 't'] <+: characters.flatMap escapeChar ++ '"' :: rest := by
    intro characters
    induction characters with
    | nil =>
        refine ⟨tagPlaces_of_ne (by decide) rest, ?_⟩
        rintro ⟨more, same⟩
        cases same
        exact ends rfl
    | cons c characters ih =>
        rw [List.flatMap_cons, List.append_assoc]
        rcases escapeChar_cases c with ⟨plain, notQuote, -⟩ | ⟨escaped, same, noBrace⟩
        · rw [plain, List.singleton_append]
          refine ⟨?_, fun found => notQuote (List.cons_prefix_cons.mp found).1.symm⟩
          by_cases brace : c = '\x7b'
          · rw [brace, tagPlaces_of_no_key ih.2, ih.1]
          · rw [tagPlaces_of_ne brace, ih.1]
        · rw [same, List.cons_append]
          refine ⟨?_, fun found => absurd (List.cons_prefix_cons.mp found).1 (by decide)⟩
          rw [tagPlaces_of_ne (by decide), tagPlaces_append_of_not_mem noBrace, ih.1]
  rw [writeString_append, tagPlaces_of_ne (by decide)]
  exact (inside text.toList).1

/-- Characters that are written as they are. -/
def Unescaped (text : List Char) : Prop :=
  ∀ c ∈ text, escapeChar c = [c] ∧ c ≠ '"' ∧ c ≠ '\\'

instance (text : List Char) : Decidable (Unescaped text) :=
  List.decidableBAll _ text

theorem eq_of_escaped {name characters : List Char} (unescaped : Unescaped name)
    {rest more : List Char}
    (same : name.flatMap escapeChar ++ '"' :: rest = characters.flatMap escapeChar ++ '"' :: more) :
    characters = name ∧ rest = more := by
  induction name generalizing characters with
  | nil =>
      cases characters with
      | nil => exact ⟨rfl, (List.cons.inj same).2⟩
      | cons c characters =>
          rw [List.flatMap_cons, List.append_assoc] at same
          rcases escapeChar_cases c with ⟨plain, notQuote, -⟩ | ⟨escaped, other, -⟩
          · rw [plain] at same
            exact absurd (List.cons.inj same).1.symm notQuote
          · rw [other] at same
            exact absurd (List.cons.inj same).1 (by decide)
  | cons c name ih =>
      rcases List.forall_mem_cons.mp unescaped with ⟨⟨written, notQuote, notEscape⟩, unescaped⟩
      rw [List.flatMap_cons, List.append_assoc, written] at same
      cases characters with
      | nil => exact absurd (List.cons.inj same).1 notQuote
      | cons d characters =>
          rw [List.flatMap_cons, List.append_assoc] at same
          rcases escapeChar_cases d with ⟨plain, -, -⟩ | ⟨escaped, other, -⟩
          · rw [plain] at same
            rcases List.cons.inj same with ⟨rfl, sameRest⟩
            rcases ih unescaped sameRest with ⟨rfl, sameMore⟩
            exact ⟨rfl, sameMore⟩
          · rw [other] at same
            exact absurd (List.cons.inj same).1 notEscape

/-- A string whose text begins like that of a string without escapes is that string. -/
theorem eq_of_writeString {name text : String} (unescaped : Unescaped name.toList)
    {rest more : List Char} (same : writeString name ++ rest = writeString text ++ more) :
    text = name ∧ rest = more := by
  rw [writeString_append, writeString_append] at same
  rcases eq_of_escaped unescaped (List.cons.inj same).2 with ⟨characters, same⟩
  exact ⟨String.toList_inj.mp characters, same⟩

theorem unescaped_name (kind : NodeKind) : Unescaped kind.name.toList := by
  cases kind <;> decide

/-- Neither a brace nor a quote stands in a text. -/
def Bare (text : List Char) : Prop :=
  ∀ c ∈ text, c ≠ '\x7b' ∧ c ≠ '"'

instance (text : List Char) : Decidable (Bare text) :=
  List.decidableBAll _ text

theorem bare_append {first second : List Char} :
    Bare (first ++ second) ↔ Bare first ∧ Bare second :=
  List.forall_mem_append

theorem bare_cons {c : Char} {text : List Char} :
    Bare (c :: text) ↔ (c ≠ '\x7b' ∧ c ≠ '"') ∧ Bare text :=
  List.forall_mem_cons

theorem bare_of_digits {text : List Char} (digits : Digits text) : Bare text := by
  intro c mem
  have digit := digits c mem
  constructor <;> rintro rfl <;> exact absurd digit (by decide)

theorem bare_number {limits : Limits} {text : List Char} {value : Json}
    (spelled : SpellsNumber limits text value) : Bare text ∧ text ≠ [] := by
  have sign : ∀ negative, Bare (minus negative) := by decide
  have integer : ∀ {whole}, Whole limits whole → Bare whole ∧ whole ≠ [] := by
    rintro _ (_ | ⟨digits, -, -⟩)
    · exact ⟨by decide, List.cons_ne_nil _ _⟩
    · exact ⟨bare_of_digits digits, List.cons_ne_nil _ _⟩
  cases spelled with
  | integer negative wholes =>
      rcases integer wholes with ⟨bare, some⟩
      exact ⟨bare_append.mpr ⟨sign negative, bare⟩, List.append_ne_nil_of_right_ne_nil _ some⟩
  | float negative wholes fractions exponents =>
      rcases integer wholes with ⟨bare, some⟩
      refine ⟨?_, List.append_ne_nil_of_right_ne_nil _ (List.append_ne_nil_of_left_ne_nil some _)⟩
      rw [bare_append, bare_append, bare_append]
      refine ⟨sign negative, bare, ?_, ?_⟩
      · cases fractions with
        | none => decide
        | some digits => exact bare_cons.mpr ⟨by decide, bare_of_digits digits⟩
      · cases exponents with
        | none => decide
        | some exponential signs digits =>
            rw [bare_cons, bare_append]
            refine ⟨?_, ?_, bare_of_digits digits⟩
            · rcases exponential with rfl | rfl <;> decide
            · cases signs <;> decide

theorem bare_write_integer (value : Int) :
    Bare (NumberLayout.integer value) ∧ NumberLayout.integer value ≠ [] := by
  let limits : Limits := ⟨(Json.integer value).digitCount, 0⟩
  have spelled : SpellsNumber limits (NumberLayout.integer value) (.integer value) :=
    spellsNumber_integer (Nat.le_refl _)
  exact bare_number spelled

theorem bare_write_float (value : Binary64) :
    Bare (outputLayout.float value) ∧ outputLayout.float value ≠ [] := by
  cases value with
  | nan => decide
  | infinite negative => cases negative <;> decide
  | finite negative mantissa exponent =>
      rcases @exists_spellsNumber_float ⟨16, 0⟩ (Nat.le_refl _) negative mantissa exponent with
        ⟨value, spelled⟩
      exact bare_number spelled

/-- Only the text of a string begins with a quote. -/
theorem head_write {value : Json} (notString : ∀ text, value ≠ .string text) :
    ∃ c rest, value.write = c :: rest ∧ c ≠ '"' := by
  have ofBare : ∀ {text}, Bare text ∧ text ≠ [] → ∃ c rest, text = c :: rest ∧ c ≠ '"' := by
    rintro (_ | ⟨c, rest⟩) ⟨bare, some⟩
    · exact absurd rfl some
    · exact ⟨c, rest, rfl, (bare_cons.mp bare).1.2⟩
  cases value with
  | null => exact ⟨_, _, rfl, by decide⟩
  | bool value => cases value <;> exact ⟨_, _, rfl, by decide⟩
  | integer value => exact ofBare (bare_write_integer value)
  | float value => exact ofBare (bare_write_float value)
  | string text => exact absurd rfl (notString text)
  | array elements => cases elements <;> exact ⟨_, _, rfl, by decide⟩
  | object members => cases members <;> exact ⟨_, _, rfl, by decide⟩

/-- A value whose text begins like that of a string without escapes is that string. -/
theorem eq_string_of_write {name : String} (unescaped : Unescaped name.toList) {value : Json}
    {rest more : List Char} (same : writeString name ++ rest = value.write ++ more) :
    value = .string name := by
  by_cases string : ∃ text, value = .string text
  · rcases string with ⟨text, rfl⟩
    rw [(eq_of_writeString unescaped same).1]
  · rcases head_write (not_exists.mp string) with ⟨c, others, written, notQuote⟩
    rw [writeString_append, written] at same
    exact absurd (List.cons.inj same).1.symm notQuote

theorem beginsWithTag_object (key : String) (value : Json) (members : List (String × Json))
    (rest : List Char) :
    beginsWithTag ((object ((key, value) :: members)).write ++ rest) =
      isTagged (object ((key, value) :: members)) := by
  rw [Bool.eq_iff_iff, beginsWithTag_iff]
  constructor
  · rintro ⟨kind, more, same⟩
    have keyUnescaped : Unescaped "t".toList := by decide
    simp only [tagText, write, List.cons_append, List.append_assoc, List.cons.injEq,
      true_and] at same
    rcases eq_of_writeString keyUnescaped same with ⟨rfl, sameValue⟩
    simp only [List.cons.injEq, true_and] at sameValue
    rw [eq_string_of_write (unescaped_name kind) sameValue]
    simp only [isTagged, decide_true, Bool.true_and, List.any_eq_true, decide_eq_true_eq]
    exact ⟨kind, mem_nodeKinds kind, rfl⟩
  · intro tagged
    cases value with
    | string name =>
        simp only [isTagged, Bool.and_eq_true, decide_eq_true_eq, List.any_eq_true] at tagged
        rcases tagged with ⟨rfl, kind, -, rfl⟩
        refine ⟨kind, writeMembers members ++ rest, ?_⟩
        simp only [tagText, write, List.cons_append, List.append_assoc]
    | _ => cases tagged

/-- The tags that begin in a text, whatever follows it, are those of given values: one by one and in
order, each at a place where the text of the value begins. -/
def Marks (text rest : List Char) (values : List Json) : Prop :=
  ∃ places, tagPlaces (text ++ rest) = places ++ tagPlaces rest ∧
    List.Forall₂ (fun place value => value.write <+: place) places values

theorem marks_nil {text rest : List Char} (none : tagPlaces (text ++ rest) = tagPlaces rest) :
    Marks text rest [] :=
  ⟨[], none, .nil⟩

theorem Marks.append {first second rest : List Char} {values others : List Json}
    (marksFirst : Marks first (second ++ rest) values) (marksSecond : Marks second rest others) :
    Marks (first ++ second) rest (values ++ others) := by
  rcases marksFirst with ⟨places, found, each⟩
  rcases marksSecond with ⟨morePlaces, foundMore, eachMore⟩
  refine ⟨places ++ morePlaces, ?_, List.rel_append each eachMore⟩
  rw [List.append_assoc, found, foundMore, List.append_assoc]

theorem Marks.cons {c : Char} (other : c ≠ '\x7b') {text rest : List Char} {values : List Json}
    (marks : Marks text rest values) : Marks (c :: text) rest values := by
  rcases marks with ⟨places, found, each⟩
  exact ⟨places, (tagPlaces_of_ne other _).trans found, each⟩

theorem marks_bare {text : List Char} (bare : Bare text) (rest : List Char) : Marks text rest [] :=
  marks_nil (tagPlaces_append_of_not_mem (fun mem => (bare _ mem).1 rfl) rest)

/-- The tag of an object itself stands in front of those of its members. -/
theorem marks_object {key : String} {value : Json} {members : List (String × Json)}
    {rest : List Char} {values : List Json}
    (marks : Marks (writeString key ++ ':' :: (value.write ++ writeMembers members)) rest values) :
    Marks (object ((key, value) :: members)).write rest
      ([object ((key, value) :: members)].filter isTagged ++ values) := by
  rcases marks with ⟨places, found, each⟩
  have written : (object ((key, value) :: members)).write ++ rest = '\x7b' ::
      ((writeString key ++ ':' :: (value.write ++ writeMembers members)) ++ rest) := by
    rw [write, List.cons_append]
  have begins := beginsWithTag_object key value members rest
  rw [Marks, List.filter_cons, List.filter_nil, ← begins, written, tagPlaces_cons, ← written, found]
  by_cases tagged : beginsWithTag ((object ((key, value) :: members)).write ++ rest) = true
  · rw [if_pos tagged, if_pos tagged]
    exact ⟨_ :: places, rfl, .cons (List.prefix_append ..) each⟩
  · rw [if_neg tagged, if_neg tagged]
    exact ⟨places, rfl, each⟩

/-- The values that are written like nodes, from the outside in and from left to right. -/
def tagged (value : Json) : List Json :=
  value.parts.filter isTagged

theorem tagged_object (key : String) (value : Json) (members : List (String × Json)) :
    (object ((key, value) :: members)).tagged =
      [object ((key, value) :: members)].filter isTagged ++
        (value.tagged ++ (partsOfMembers members).filter isTagged) := by
  rw [tagged, parts, partsOfMembers, ← List.singleton_append, List.filter_append,
    List.filter_append, tagged]

theorem head?_writeElements (elements : List Json) (rest : List Char) :
    (writeElements elements ++ rest).head? ≠ some 't' := by
  cases elements <;> simp [writeElements]

theorem head?_writeMembers (members : List (String × Json)) (rest : List Char) :
    (writeMembers members ++ rest).head? ≠ some 't' := by
  rcases members with _ | ⟨⟨key, value⟩, members⟩ <;> simp [writeMembers]

theorem marks_key (key : String) {text more rest : List Char} {values others : List Json}
    (marks : Marks text (more ++ rest) values) (marksMore : Marks more rest others) :
    Marks (writeString key ++ ':' :: (text ++ more)) rest (values ++ others) := by
  have named : Marks (writeString key) ((':' :: (text ++ more)) ++ rest) [] :=
    marks_nil (tagPlaces_writeString (by simp) key)
  exact named.append ((marks.append marksMore).cons (by decide))

theorem marks_elements {elements : List Json}
    (each : ∀ element ∈ elements, ∀ rest : List Char, rest.head? ≠ some 't' →
      Marks element.write rest element.tagged) (rest : List Char) :
    Marks (writeElements elements) rest ((partsOfElements elements).filter isTagged) := by
  induction elements with
  | nil => exact marks_bare (by decide) rest
  | cons element elements ih =>
      rcases List.forall_mem_cons.mp each with ⟨here, there⟩
      rw [writeElements, partsOfElements, List.filter_append]
      exact ((here _ (head?_writeElements elements rest)).append (ih there)).cons (by decide)

theorem marks_members {members : List (String × Json)}
    (each : ∀ member ∈ members, ∀ rest : List Char, rest.head? ≠ some 't' →
      Marks member.2.write rest member.2.tagged) (rest : List Char) :
    Marks (writeMembers members) rest ((partsOfMembers members).filter isTagged) := by
  induction members with
  | nil => exact marks_bare (by decide) rest
  | cons member members ih =>
      rcases member with ⟨key, value⟩
      rcases List.forall_mem_cons.mp each with ⟨here, there⟩
      rw [writeMembers, partsOfMembers, List.filter_append]
      exact (marks_key key (here _ (head?_writeMembers members rest)) (ih there)).cons (by decide)

/-- The tags in the text of a value are those of the values in it that are written like nodes. -/
theorem marks_write (value : Json) :
    ∀ rest : List Char, rest.head? ≠ some 't' → Marks value.write rest value.tagged := by
  induction value using induct with
  | null => exact fun rest _ => marks_bare (by decide) rest
  | bool value => cases value <;> exact fun rest _ => marks_bare (by decide) rest
  | integer value => exact fun rest _ => marks_bare (bare_write_integer value).1 rest
  | float value => exact fun rest _ => marks_bare (bare_write_float value).1 rest
  | string text => exact fun rest ends => marks_nil (tagPlaces_writeString ends text)
  | array elements ih =>
      intro rest _
      cases elements with
      | nil => exact marks_bare (by decide) rest
      | cons element elements =>
          rcases List.forall_mem_cons.mp ih with ⟨here, there⟩
          rw [write, tagged, parts, partsOfElements, List.filter_cons_of_neg Bool.noConfusion,
            List.filter_append]
          exact ((here _ (head?_writeElements elements rest)).append
            (marks_elements there rest)).cons (by decide)
  | object members ih =>
      intro rest _
      rcases members with _ | ⟨⟨key, value⟩, members⟩
      · have noKey : ¬['"', 't'] <+: '\x7d' :: rest :=
          fun found => absurd (List.cons_prefix_cons.mp found).1 (by decide)
        exact marks_nil ((tagPlaces_of_no_key noKey).trans (tagPlaces_of_ne (by decide) rest))
      · rcases List.forall_mem_cons.mp ih with ⟨here, there⟩
        rw [tagged_object]
        exact marks_object (marks_key key (here _ (head?_writeMembers members rest))
          (marks_members there rest))

/-- The tags in the text of a value belong, one by one and in order, to the values in it that are
written like nodes. -/
theorem forall₂_tagPlaces_write (value : Json) :
    List.Forall₂ (fun place part => part.write <+: place) (tagPlaces value.write) value.tagged := by
  rcases marks_write value [] (by simp) with ⟨places, found, each⟩
  have none : tagPlaces [] = [] := by decide
  rw [List.append_nil, none, List.append_nil] at found
  rwa [found]

end DocHighlight.Json
